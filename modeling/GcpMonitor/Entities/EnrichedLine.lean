import GcpMonitor.Entities.GoogleApi
import GcpMonitor.Metrics.FetchMetric

namespace GcpMonitor.Entities

open Python Metrics ExceptList

def asText : Json → Option Text
  | .str s => some s
  | _ => none

def asTexts : Json → Option (List Text)
  | .list items => items.mapM asText
  | _ => none

/-- `list.sort` of the texts or of the lists of texts that an API gives; a text and a list do not
compare. -/
def sortAddresses (addresses : List Json) : Except PyError (List Json) :=
  match addresses.mapM asText, addresses.mapM asTexts with
  | some texts, _ => return (texts.mergeSort (fun a b => decide (a ≤ b))).map .str
  | none, some lists =>
    return (lists.mergeSort (fun a b => decide (a ≤ b))).map (fun texts => .list (texts.map .str))
  | none, none => throw .typeError

/-- The other lists that `build_entity_id_map` sorts are empty in the entities of all extractors. -/
def buildEntityIdMap (fetchTopologyResults : List (List Entity)) :
    Except PyError (OrderedDict Text Entity) :=
  fetchTopologyResults.flatten.foldlM (fun result entity => do
    let ipAddresses ← sortAddresses entity.ipAddresses
    return result.set entity.id { entity with ipAddresses := ipAddresses }) .empty

section

variable (limits : LengthLimits) (R : ExtractorRuntime) (lower : Text → Text)

def entityDimensionPrefix : Text := "entity.".toList

def ipAddressName : Text := entityDimensionPrefix ++ "ip_address".toList

def ipAddressDimensions (entity : Entity) : List DimensionValue :=
  match entity.ipAddresses with
  | [] => []
  | first :: _ => [createDimension limits ipAddressName (R.str first)]

def propertyDimensions (entity : Entity) : List DimensionValue :=
  entity.properties.map (fun cdProperty =>
    createDimension limits (entityDimensionPrefix ++ lower (cdProperty.1.replace ' ' ['_']))
      (R.str cdProperty.2))

def enrichLine (entityIdMap : OrderedDict Text Entity) (ingestLine : IngestLine PyValue) :
    IngestLine PyValue :=
  match entityIdMap.get ingestLine.entityId with
  | none => ingestLine
  | some entity => { ingestLine with
      dimensionValues := ingestLine.dimensionValues ++ ipAddressDimensions limits R entity ++
        propertyDimensions limits R lower entity }

def flattenAndEnrichMetricResults (fetchMetricResults : List (List (IngestLine PyValue)))
    (entityIdMap : OrderedDict Text Entity) : List (IngestLine PyValue) :=
  fetchMetricResults.flatten.map (enrichLine limits R lower entityIdMap)

end

def sortedEntity (entity : Entity) : Entity :=
  { entity with ipAddresses := (sortAddresses entity.ipAddresses).toOption.getD [] }

theorem buildEntityIdMap_eq {entities : List Entity}
    (h : ∀ entity ∈ entities, ∃ sorted, sortAddresses entity.ipAddresses = .ok sorted) :
    buildEntityIdMap [entities] = .ok (entities.foldl
      (fun result entity => result.set entity.id (sortedEntity entity)) .empty) := by
  have hfoldl : ∀ start : OrderedDict Text Entity, entities.foldlM (fun result entity => do
      let ipAddresses ← sortAddresses entity.ipAddresses
      return result.set entity.id { entity with ipAddresses := ipAddresses }) start =
        (.ok (entities.foldl (fun result entity => result.set entity.id (sortedEntity entity))
          start) : Except PyError _) := by
    induction entities with
    | nil =>
      intro start
      rfl
    | cons entity entities ih =>
      intro start
      obtain ⟨sorted, hsorted⟩ := h entity List.mem_cons_self
      have hentity : sortedEntity entity = { entity with ipAddresses := sorted } := by
        rw [sortedEntity, hsorted]
        rfl
      rw [List.foldlM_cons, List.foldl_cons, hentity, hsorted]
      exact ih (fun other hother => h other (List.mem_cons_of_mem _ hother)) _
  rw [buildEntityIdMap, List.flatten_singleton]
  exact hfoldl .empty

end GcpMonitor.Entities
