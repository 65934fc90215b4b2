import GcpMonitor.Entities.ResourceAddresses

namespace GcpMonitor.Entities

open Python Metrics ExceptList

/-- A page of the API, with nothing in its resources but the addresses that could keep them from
being mapped. -/
structure ApiPage (R : ExtractorRuntime) (svcDef : GCPService) (page : Json)
    (extractor : Extractor) (resources : List Json) (idOf : Json → Except PyError Text)
    (toEntity : Json → Except PyError Entity) : Prop where
  maps : MapsWith R svcDef page extractor resources idOf toEntity
  documented : ∀ cd ∈ resources, ∃ fields networks, cd = .map fields ∧
    DocumentedNetworks extractor fields networks
  described : ∀ cd ∈ resources, ∀ ipAddresses, extractor.readAddresses cd = .ok ipAddresses →
    ∃ entity, toEntity cd = .ok entity

/-- The resource is the last one of the page with its id, so that the entity is made of it. -/
def Reported (resources : List Json) (idOf : Json → Except PyError Text) (cd : Json) : Prop :=
  ∃ before after, resources = before ++ cd :: after ∧ ∀ other ∈ after, idOf other ≠ idOf cd

theorem Reported.mem {resources : List Json} {idOf : Json → Except PyError Text} {cd : Json}
    (h : Reported resources idOf cd) : cd ∈ resources := by
  obtain ⟨before, after, rfl, -⟩ := h
  exact List.mem_append_right _ List.mem_cons_self

def EnrichedWithLeast (limits : LengthLimits) (R : ExtractorRuntime) (lower : Text → Text)
    (mapped : Except PyError (List Entity)) (id : Text) (networks : List (Option (List Text))) :
    Prop :=
  ∃ entities idMap least, mapped = .ok entities ∧ buildEntityIdMap [entities] = .ok idMap ∧
    IsLeast (addressSet networks) least ∧
    ∀ (fetchMetricResults : List (List (IngestLine PyValue))) (i : ℕ) line,
      fetchMetricResults.flatten[i]? = some line → line.entityId = id →
        ∃ rest, (flattenAndEnrichMetricResults limits R lower fetchMetricResults idMap)[i]? =
          some { line with
            dimensionValues := line.dimensionValues ++ ⟨ipAddressName, least⟩ :: rest }

/-- No network of the resource lacks an address or has an empty one, nothing cuts or escapes the
least, and Cloud SQL finds an address in every network of the page. -/
structure KeepsLeast (limits : LengthLimits) (extractor : Extractor) (resources : List Json)
    (networks : List (Option (List Text))) : Prop where
  texts : extractor ≠ .filestoreInstance
  present : extractor = .cloudSql → ∀ other ∈ resources, none ∉ networksOf extractor other
  nonempty : ∀ network ∈ networks, ∃ address, address ≠ [] ∧ network = some [address]
  uncut : ∀ least, IsLeast (addressSet networks) least →
    createDimension limits ipAddressName least = ⟨ipAddressName, least⟩

section

variable {limits : LengthLimits} {R : ExtractorRuntime} {lower : Text → Text}
  {svcDef : GCPService} {page cd : Json} {extractor : Extractor} {resources : List Json}
  {idOf : Json → Except PyError Text} {toEntity : Json → Except PyError Entity}

theorem exists_readAddresses (h : ApiPage R svcDef page extractor resources idOf toEntity)
    (hpresent : extractor = .cloudSql → ∀ other ∈ resources, none ∉ networksOf extractor other)
    (hcd : cd ∈ resources) :
    ∃ ipAddresses, extractor.readAddresses cd = .ok ipAddresses := by
  obtain ⟨fields, networks, rfl, hdocumented⟩ := h.documented cd hcd
  cases h.maps with
  | cloudSql => exact ⟨_, readAddresses_cloudSql hdocumented (hpresent rfl _ hcd)⟩
  | filestoreInstance => exact ⟨_, readAddresses_filestoreInstance hdocumented⟩
  | gceInstance => exact ⟨_, readAddresses_gceInstance hdocumented⟩

theorem readAddresses_texts (h : ApiPage R svcDef page extractor resources idOf toEntity)
    (hextractor : extractor ≠ .filestoreInstance) (hcd : cd ∈ resources) {ipAddresses : List Json}
    (hread : extractor.readAddresses cd = .ok ipAddresses) :
    ipAddresses = ((networksOf extractor cd).map onlyAddress).map .str := by
  obtain ⟨fields, networks, rfl, hdocumented⟩ := h.documented cd hcd
  cases h.maps with
  | cloudSql =>
    rw [readAddresses_cloudSql hdocumented
      (present_of_readAddresses_cloudSql hdocumented hread)] at hread
    cases hread
    rw [List.map_map]
    rfl
  | filestoreInstance => contradiction
  | gceInstance =>
    rw [readAddresses_gceInstance hdocumented] at hread
    cases hread
    rw [List.map_map]
    rfl

theorem readAddresses_lists
    (h : ApiPage R svcDef page .filestoreInstance resources idOf toEntity) (hcd : cd ∈ resources)
    {ipAddresses : List Json}
    (hread : Extractor.filestoreInstance.readAddresses cd = .ok ipAddresses) :
    ipAddresses = ((networksOf .filestoreInstance cd).map (fun addresses => addresses.getD [])).map
      (fun texts => .list (texts.map .str)) := by
  obtain ⟨fields, networks, rfl, hdocumented⟩ := h.documented cd hcd
  rw [readAddresses_filestoreInstance hdocumented] at hread
  cases hread
  rw [List.map_map]
  rfl

theorem exists_sortAddresses (h : ApiPage R svcDef page extractor resources idOf toEntity)
    (hcd : cd ∈ resources) {ipAddresses : List Json}
    (hread : extractor.readAddresses cd = .ok ipAddresses) :
    ∃ sorted, sortAddresses ipAddresses = .ok sorted := by
  by_cases hextractor : extractor = .filestoreInstance
  · subst hextractor
    rw [readAddresses_lists h hcd hread]
    exact ⟨_, sortAddresses_lists _⟩
  · rw [readAddresses_texts h hextractor hcd hread]
    exact ⟨_, sortAddresses_texts _⟩

theorem exists_entity_of_mapped (h : ApiPage R svcDef page extractor resources idOf toEntity)
    (hreported : Reported resources idOf cd) {id : Text} (hid : idOf cd = .ok id)
    {entities : List Entity} (hentities : resources.mapM toEntity = .ok entities) :
    ∃ idMap entity, buildEntityIdMap [entities] = .ok idMap ∧
      extractor.readAddresses cd = .ok entity.ipAddresses ∧
      idMap.get id = some (sortedEntity entity) := by
  have hsorted : ∀ entity ∈ entities, ∃ sorted,
      sortAddresses entity.ipAddresses = .ok sorted := by
    intro entity hentity
    obtain ⟨other, hother, hto⟩ := exists_of_mem_mapM hentities hentity
    exact exists_sortAddresses h hother (h.maps.toEntity_ok hto).2
  obtain ⟨before, after, rfl, hafter⟩ := hreported
  rw [List.mapM_append] at hentities
  obtain ⟨first, -, hentities⟩ := bind_eq_ok_iff.mp hentities
  obtain ⟨last, hlast, hentities⟩ := bind_eq_ok_iff.mp hentities
  cases hentities
  rw [List.mapM_cons] at hlast
  obtain ⟨entity, hto, hlast⟩ := bind_eq_ok_iff.mp hlast
  obtain ⟨rest, hrest, hlast⟩ := bind_eq_ok_iff.mp hlast
  cases hlast
  obtain ⟨hidentity, hread⟩ := h.maps.toEntity_ok hto
  rw [hid, Except.ok.injEq] at hidentity
  subst hidentity
  refine ⟨_, entity, buildEntityIdMap_eq hsorted, hread, ?_⟩
  apply OrderedDict.get_foldl_set_last
  intro other hother heq
  obtain ⟨resource, hresource, hother'⟩ := exists_of_mem_mapM hrest hother
  apply hafter resource hresource
  rw [(h.maps.toEntity_ok hother').1, heq, hid]

theorem enriched_iff_first {idMap : OrderedDict Text Entity} {id least : Text} {entity : Entity}
    {first : Json} {others : List Json} (hget : idMap.get id = some entity)
    (hfirst : entity.ipAddresses = first :: others) :
    (∀ (fetchMetricResults : List (List (IngestLine PyValue))) (i : ℕ) line,
      fetchMetricResults.flatten[i]? = some line → line.entityId = id →
        ∃ rest, (flattenAndEnrichMetricResults limits R lower fetchMetricResults idMap)[i]? =
          some { line with
            dimensionValues := line.dimensionValues ++ ⟨ipAddressName, least⟩ :: rest }) ↔
      createDimension limits ipAddressName (R.str first) = ⟨ipAddressName, least⟩ := by
  have henrich : ∀ line : IngestLine PyValue, line.entityId = id →
      enrichLine limits R lower idMap line = { line with
        dimensionValues := line.dimensionValues ++
          createDimension limits ipAddressName (R.str first) ::
            propertyDimensions limits R lower entity } := by
    rintro line rfl
    simp only [enrichLine, hget, ipAddressDimensions, hfirst, List.append_assoc,
      List.singleton_append]
  constructor
  · intro h
    let line : IngestLine PyValue := ⟨id, [], [], .text [], 0, []⟩
    obtain ⟨rest, hrest⟩ := h [[line]] 0 line rfl rfl
    rw [flattenAndEnrichMetricResults, List.flatten_singleton, List.map_singleton,
      henrich line rfl] at hrest
    have hdimensions := congrArg IngestLine.dimensionValues (Option.some.inj hrest)
    exact (List.cons.inj hdimensions).1
  · intro h fetchMetricResults i line hline hid
    refine ⟨propertyDimensions limits R lower entity, ?_⟩
    rw [flattenAndEnrichMetricResults, List.getElem?_map, hline, Option.map_some, henrich line hid,
      h]

theorem head_createDimension_value {name s : Text} {c : Char}
    (h : (createDimension limits name ('[' :: s)).value.head? = some c) : c = '[' := by
  obtain ⟨v, hv, htruncate⟩ := mint.truncate_escape (withSpaces ('[' :: s)) (valueLimit limits)
  rw [createDimension_value, htruncate] at h
  have hspaces : withSpaces ('[' :: s) = '[' :: withSpaces s := rfl
  have hprefix := hspaces ▸ hv.isPrefix
  cases v with
  | nil => simp at h
  | cons d v =>
    obtain ⟨rfl, -⟩ := List.cons_prefix_cons.mp hprefix
    have hescape : mint.escape ('[' :: v) = '[' :: mint.escape v := rfl
    rw [hescape] at h
    cases h
    rfl

theorem createDimension_empty (name : Text) : (createDimension limits name []).value = [] := by
  obtain ⟨v, hv, htruncate⟩ := mint.truncate_escape (withSpaces []) (valueLimit limits)
  rw [createDimension_value, htruncate, List.prefix_nil.mp hv.isPrefix]
  rfl

theorem documented_addressTexts (h : ApiPage R svcDef page extractor resources idOf toEntity)
    (hcd : cd ∈ resources) {texts : List Text} (htexts : some texts ∈ networksOf extractor cd) :
    (∀ s ∈ texts, s.head? ≠ some '[') ∧
      (extractor ≠ .filestoreInstance → ∃ s, texts = [s]) := by
  obtain ⟨fields, networks, rfl, hdocumented⟩ := h.documented cd hcd
  rw [networksOf_eq hdocumented] at htexts
  obtain ⟨network, hnetwork, haddresses⟩ := List.mem_map.mp htexts
  obtain ⟨address, haddress, rfl⟩ := Option.map_eq_some_iff.mp haddresses
  obtain ⟨hbracket, hshape⟩ := hdocumented.address network hnetwork address haddress
  refine ⟨hbracket, ?_⟩
  intro hextractor
  rw [if_neg hextractor] at hshape
  obtain ⟨s, rfl⟩ := hshape
  exact ⟨s, rfl⟩

theorem addressSet_eq {networks : List (Option (List Text))}
    (h : ∀ network ∈ networks, ∃ address, address ≠ [] ∧ network = some [address]) :
    {address | address ∈ networks.map onlyAddress} = addressSet networks := by
  ext address
  simp only [Set.mem_ofPred_eq, addressSet, List.mem_map]
  constructor
  · rintro ⟨network, hnetwork, rfl⟩
    obtain ⟨address, hne, rfl⟩ := h network hnetwork
    exact ⟨hne, [address], hnetwork, List.mem_singleton_self _⟩
  · rintro ⟨-, texts, htexts, haddress⟩
    obtain ⟨only, -, heq⟩ := h _ htexts
    cases heq
    exact ⟨_, htexts, (List.mem_singleton.mp haddress).symm⟩

theorem networks_ne_nil {networks : List (Option (List Text))}
    (h : (addressSet networks).Nonempty) : networks ≠ [] := by
  obtain ⟨address, -, texts, htexts, -⟩ := h
  exact List.ne_nil_of_mem htexts

theorem exists_first_text (h : ApiPage R svcDef page extractor resources idOf toEntity)
    (hextractor : extractor ≠ .filestoreInstance) (hcd : cd ∈ resources) {entity : Entity}
    (hread : extractor.readAddresses cd = .ok entity.ipAddresses)
    (haddress : (addressSet (networksOf extractor cd)).Nonempty) :
    ∃ first others, (sortedEntity entity).ipAddresses = .str first :: others ∧
      IsLeast {address | address ∈ (networksOf extractor cd).map onlyAddress} first := by
  have hne : (networksOf extractor cd).map onlyAddress ≠ [] := by
    rw [ne_eq, List.map_eq_nil_iff]
    exact networks_ne_nil haddress
  obtain ⟨first, rest, hsorted⟩ := exists_mergeSort_cons hne
  refine ⟨first, rest.map .str, ?_, isLeast_of_mergeSort hsorted⟩
  rw [sortedEntity, readAddresses_texts h hextractor hcd hread, sortAddresses_texts, hsorted]
  rfl

theorem exists_first_list (h : ApiPage R svcDef page .filestoreInstance resources idOf toEntity)
    (hcd : cd ∈ resources) {entity : Entity}
    (hread : Extractor.filestoreInstance.readAddresses cd = .ok entity.ipAddresses)
    (haddress : (addressSet (networksOf .filestoreInstance cd)).Nonempty) :
    ∃ items others, (sortedEntity entity).ipAddresses = .list items :: others := by
  have hne : (networksOf .filestoreInstance cd).map (fun addresses => addresses.getD []) ≠ [] := by
    rw [ne_eq, List.map_eq_nil_iff]
    exact networks_ne_nil haddress
  obtain ⟨first, rest, hsorted⟩ := exists_mergeSort_cons hne
  refine ⟨first.map .str, rest.map (fun texts => .list (texts.map .str)), ?_⟩
  rw [sortedEntity, readAddresses_lists h hcd hread, sortAddresses_lists, hsorted]
  rfl

theorem present_of_mapped (h : ApiPage R svcDef page .cloudSql resources idOf toEntity)
    {entities : List Entity} (hentities : resources.mapM toEntity = .ok entities)
    (hcd : cd ∈ resources) : none ∉ networksOf .cloudSql cd := by
  obtain ⟨entity, -, hto⟩ := mem_mapM_of_mem hentities hcd
  obtain ⟨fields, networks, rfl, hdocumented⟩ := h.documented cd hcd
  exact present_of_readAddresses_cloudSql hdocumented (h.maps.toEntity_ok hto).2

theorem nonempty_of_least (h : ApiPage R svcDef page extractor resources idOf toEntity)
    (hextractor : extractor ≠ .filestoreInstance) (hcd : cd ∈ resources) {first : Text}
    (hfirst : IsLeast {address | address ∈ (networksOf extractor cd).map onlyAddress} first)
    (hne : first ≠ []) :
    ∀ network ∈ networksOf extractor cd, ∃ address, address ≠ [] ∧ network = some [address] := by
  intro network hnetwork
  have hle : first ≤ onlyAddress network := hfirst.2 (List.mem_map_of_mem hnetwork)
  have honly : onlyAddress network ≠ [] := by
    intro hempty
    rw [hempty] at hle
    exact hne (le_antisymm hle (not_lt.mp (List.not_lt_nil first)))
  cases network with
  | none => exact absurd rfl honly
  | some texts =>
    obtain ⟨address, rfl⟩ := (documented_addressTexts h hcd hnetwork).2 hextractor
    exact ⟨address, honly, rfl⟩

end

end GcpMonitor.Entities
