import GcpMonitor.Entities.EnrichedLine
import Mathlib.Order.Bounds.Basic

namespace GcpMonitor.Entities

open Python Metrics ExceptList

namespace Extractor

def networksKey : Extractor → String
  | gceInstance => "networkInterfaces"
  | cloudSql => "ipAddresses"
  | filestoreInstance => "networks"
  | _ => ""

def addressKey : Extractor → String
  | gceInstance => "networkIP"
  | cloudSql => "ipAddress"
  | filestoreInstance => "ipAddresses"
  | _ => ""

def readAddresses (cd : Json) : Extractor → Except PyError (List Json)
  | gceInstance => do
    (← (← cd.get "networkInterfaces" (.list [])).iter).mapM
      (fun interface => interface.get "networkIP" (text ""))
  | cloudSql => do
    (← (← cd.get "ipAddresses" (.list [])).iter).mapM (fun x => x.item "ipAddress")
  | filestoreInstance => do
    (← (← cd.get "networks" (.list [])).iter).mapM (fun x => x.get "ipAddresses" (.list []))
  | _ => return []

end Extractor

def addressTexts : Json → List Text
  | .str s => [s]
  | .list items => items.filterMap asText
  | _ => []

def networksOf (extractor : Extractor) : Json → List (Option (List Text))
  | .map fields =>
    match fields.lookup extractor.networksKey.toList with
    | some (.list networks) => networks.map (fun network =>
        match network with
        | .map fields => (fields.lookup extractor.addressKey.toList).map addressTexts
        | _ => none)
    | _ => []
  | _ => []

def addressSet (networks : List (Option (List Text))) : Set Text :=
  {address | address ≠ [] ∧ ∃ texts, some texts ∈ networks ∧ address ∈ texts}

/-- An address is a text, or a list of texts for Filestore; none begins as a list is written. -/
def DocumentedAddress (extractor : Extractor) (address : Json) : Prop :=
  (∀ s ∈ addressTexts address, s.head? ≠ some '[') ∧
    if extractor = .filestoreInstance then ∃ texts : List Text, address = .list (texts.map .str)
    else ∃ s, address = .str s

structure DocumentedNetworks (extractor : Extractor) (fields : List (Text × Json))
    (networks : List (List (Text × Json))) : Prop where
  listed : (fields.lookup extractor.networksKey.toList).getD (.list []) =
    .list (networks.map .map)
  address : ∀ network ∈ networks, ∀ address,
    network.lookup extractor.addressKey.toList = some address →
      DocumentedAddress extractor address

/-- How a page of one of the three extractors is mapped: by its resources one after another, each
with an id. -/
inductive MapsWith (R : ExtractorRuntime) (svcDef : GCPService) (page : Json) :
    Extractor → List Json → (Json → Except PyError Text) → (Json → Except PyError Entity) → Prop
  | cloudSql (resources : List Json) (h : page.get "items" (.list []) = .ok (.list resources)) :
      MapsWith R svcDef page .cloudSql resources
        (fun cd => getFuncCreateEntityId R (CloudSql.labelToApiResponseMapping R) cd svcDef)
        (CloudSql.toEntity R svcDef)
  | filestoreInstance (resources : List Json)
      (h : page.get "instances" (.list []) = .ok (.list resources)) :
      MapsWith R svcDef page .filestoreInstance resources
        (fun cd => getFuncCreateEntityId R (FilestoreInstance.labelToApiResponseMapping R) cd
          svcDef)
        (FilestoreInstance.toEntity R svcDef)
  | gceInstance (resources : List Json) (pageId : Text) (projectId zoneId : Json)
      (h : page.get "items" (.list []) = .ok (.list resources))
      (hid : page.get "id" .null = .ok (.str pageId))
      (hproject : GceInstance.extractLabel R (.str pageId) 1 = .ok projectId)
      (hzone : GceInstance.extractLabel R (.str pageId) 2 = .ok zoneId) :
      MapsWith R svcDef page .gceInstance resources
        (fun cd => getFuncCreateEntityId R (GceInstance.mappings projectId zoneId) cd svcDef)
        (GceInstance.toEntity R svcDef projectId zoneId)

theorem MapsWith.mapper_eq {R : ExtractorRuntime} {svcDef : GCPService} {page : Json}
    {extractor : Extractor} {resources : List Json} {idOf : Json → Except PyError Text}
    {toEntity : Json → Except PyError Entity}
    (h : MapsWith R svcDef page extractor resources idOf toEntity) :
    extractor.mapper R svcDef page = resources.mapM toEntity := by
  cases h with
  | cloudSql _ h =>
    simp only [Extractor.mapper, CloudSql.respToMonitoredEntities, mapItems, h, bind, Except.bind,
      Json.iter]
  | filestoreInstance _ h =>
    simp only [Extractor.mapper, FilestoreInstance.respToMonitoredEntities, mapItems, h, bind,
      Except.bind, Json.iter]
  | gceInstance _ pageId projectId zoneId h hid hproject hzone =>
    simp only [Extractor.mapper, GceInstance.respToMonitoredEntities, h, hid, hproject, hzone,
      bind, Except.bind, Json.truthy, Json.iter]
    cases resources <;> rfl

theorem MapsWith.toEntity_ok {R : ExtractorRuntime} {svcDef : GCPService} {page cd : Json}
    {extractor : Extractor} {resources : List Json} {idOf : Json → Except PyError Text}
    {toEntity : Json → Except PyError Entity}
    (h : MapsWith R svcDef page extractor resources idOf toEntity) {entity : Entity}
    (hentity : toEntity cd = .ok entity) :
    idOf cd = .ok entity.id ∧ extractor.readAddresses cd = .ok entity.ipAddresses := by
  cases h with
  | cloudSql _ h =>
    obtain ⟨id, hid, hentity⟩ := bind_eq_ok_iff.mp hentity
    obtain ⟨displayName, -, hentity⟩ := bind_eq_ok_iff.mp hentity
    obtain ⟨networks, hnetworks, hentity⟩ := bind_eq_ok_iff.mp hentity
    obtain ⟨items, hitems, hentity⟩ := bind_eq_ok_iff.mp hentity
    obtain ⟨ipAddresses, hip, hentity⟩ := bind_eq_ok_iff.mp hentity
    obtain ⟨properties, -, hentity⟩ := bind_eq_ok_iff.mp hentity
    cases hentity
    exact ⟨hid, bind_eq_ok_iff.mpr ⟨networks, hnetworks,
      bind_eq_ok_iff.mpr ⟨items, hitems, hip⟩⟩⟩
  | filestoreInstance _ h =>
    obtain ⟨id, hid, hentity⟩ := bind_eq_ok_iff.mp hentity
    obtain ⟨_, -, hentity⟩ := bind_eq_ok_iff.mp hentity
    obtain ⟨displayName, -, hentity⟩ := bind_eq_ok_iff.mp hentity
    obtain ⟨networks, hnetworks, hentity⟩ := bind_eq_ok_iff.mp hentity
    obtain ⟨items, hitems, hentity⟩ := bind_eq_ok_iff.mp hentity
    obtain ⟨ipAddresses, hip, hentity⟩ := bind_eq_ok_iff.mp hentity
    obtain ⟨properties, -, hentity⟩ := bind_eq_ok_iff.mp hentity
    cases hentity
    exact ⟨hid, bind_eq_ok_iff.mpr ⟨networks, hnetworks,
      bind_eq_ok_iff.mpr ⟨items, hitems, hip⟩⟩⟩
  | gceInstance _ pageId projectId zoneId h hid hproject hzone =>
    obtain ⟨networks, hnetworks, hentity⟩ := bind_eq_ok_iff.mp hentity
    obtain ⟨items, hitems, hentity⟩ := bind_eq_ok_iff.mp hentity
    obtain ⟨ipAddresses, hip, hentity⟩ := bind_eq_ok_iff.mp hentity
    obtain ⟨_, -, hentity⟩ := bind_eq_ok_iff.mp hentity
    obtain ⟨_, -, hentity⟩ := bind_eq_ok_iff.mp hentity
    obtain ⟨id, hid, hentity⟩ := bind_eq_ok_iff.mp hentity
    obtain ⟨displayName, -, hentity⟩ := bind_eq_ok_iff.mp hentity
    obtain ⟨properties, -, hentity⟩ := bind_eq_ok_iff.mp hentity
    cases hentity
    exact ⟨hid, bind_eq_ok_iff.mpr ⟨networks, hnetworks,
      bind_eq_ok_iff.mpr ⟨items, hitems, hip⟩⟩⟩

def addressesIn (extractor : Extractor) (network : List (Text × Json)) : Option (List Text) :=
  (network.lookup extractor.addressKey.toList).map addressTexts

def onlyAddress (addresses : Option (List Text)) : Text := (addresses.getD []).headD []

section

variable {extractor : Extractor} {fields : List (Text × Json)}
  {networks : List (List (Text × Json))}

theorem networksOf_eq (h : DocumentedNetworks extractor fields networks) :
    networksOf extractor (.map fields) = networks.map (addressesIn extractor) := by
  have hlisted := h.listed
  rw [networksOf]
  cases hlookup : fields.lookup extractor.networksKey.toList with
  | none =>
    rw [hlookup, Option.getD_none, Json.list.injEq, eq_comm, List.map_eq_nil_iff] at hlisted
    rw [hlisted]
    rfl
  | some value =>
    rw [hlookup, Option.getD_some] at hlisted
    subst hlisted
    simp only [List.map_map]
    rfl

theorem filterMap_asText (texts : List Text) : (texts.map Json.str).filterMap asText = texts := by
  rw [List.filterMap_map]
  exact List.filterMap_some

theorem readAddresses_gceInstance (h : DocumentedNetworks .gceInstance fields networks) :
    Extractor.gceInstance.readAddresses (.map fields) =
      .ok ((networksOf .gceInstance (.map fields)).map
        (fun addresses => .str (onlyAddress addresses))) := by
  have hlisted : (Json.map fields).get "networkInterfaces" (.list []) =
      .ok (.list (networks.map .map)) := congrArg Except.ok h.listed
  simp only [Extractor.readAddresses, hlisted, bind, Except.bind, Json.iter]
  rw [networksOf_eq h, List.map_map, mapM_eq_ok_iff, List.forall₂_map_left_iff,
    List.forall₂_map_right_iff, List.forall₂_same]
  intro network hnetwork
  simp only [Json.get, Function.comp_apply, addressesIn, onlyAddress, Extractor.addressKey]
  cases haddress : network.lookup "networkIP".toList with
  | none => rfl
  | some address =>
    obtain ⟨-, s, rfl⟩ := h.address network hnetwork address haddress
    rfl

theorem readAddresses_cloudSql (h : DocumentedNetworks .cloudSql fields networks)
    (hpresent : none ∉ networksOf .cloudSql (.map fields)) :
    Extractor.cloudSql.readAddresses (.map fields) =
      .ok ((networksOf .cloudSql (.map fields)).map
        (fun addresses => .str (onlyAddress addresses))) := by
  have hlisted : (Json.map fields).get "ipAddresses" (.list []) =
      .ok (.list (networks.map .map)) := congrArg Except.ok h.listed
  simp only [Extractor.readAddresses, hlisted, bind, Except.bind, Json.iter]
  rw [networksOf_eq h] at hpresent ⊢
  rw [List.map_map, mapM_eq_ok_iff, List.forall₂_map_left_iff, List.forall₂_map_right_iff,
    List.forall₂_same]
  intro network hnetwork
  simp only [Json.item, Function.comp_apply, addressesIn, onlyAddress, Extractor.addressKey]
  cases haddress : network.lookup "ipAddress".toList with
  | none =>
    have hnone : addressesIn .cloudSql network = none := by
      rw [addressesIn, Option.map_eq_none_iff]
      exact haddress
    exact absurd (List.mem_map.mpr ⟨network, hnetwork, hnone⟩) hpresent
  | some address =>
    obtain ⟨-, s, rfl⟩ := h.address network hnetwork address haddress
    rfl

theorem present_of_readAddresses_cloudSql (h : DocumentedNetworks .cloudSql fields networks)
    {ipAddresses : List Json}
    (hread : Extractor.cloudSql.readAddresses (.map fields) = .ok ipAddresses) :
    none ∉ networksOf .cloudSql (.map fields) := by
  have hlisted : (Json.map fields).get "ipAddresses" (.list []) =
      .ok (.list (networks.map .map)) := congrArg Except.ok h.listed
  simp only [Extractor.readAddresses, hlisted, bind, Except.bind, Json.iter] at hread
  rw [networksOf_eq h]
  intro hnone
  obtain ⟨network, hnetwork, haddress⟩ := List.mem_map.mp hnone
  obtain ⟨address, -, hitem⟩ := mem_mapM_of_mem hread (List.mem_map_of_mem hnetwork)
  rw [addressesIn, Option.map_eq_none_iff] at haddress
  simp only [Extractor.addressKey] at haddress
  simp only [Json.item, haddress] at hitem
  cases hitem

theorem readAddresses_filestoreInstance
    (h : DocumentedNetworks .filestoreInstance fields networks) :
    Extractor.filestoreInstance.readAddresses (.map fields) =
      .ok ((networksOf .filestoreInstance (.map fields)).map
        (fun addresses => .list ((addresses.getD []).map .str))) := by
  have hlisted : (Json.map fields).get "networks" (.list []) =
      .ok (.list (networks.map .map)) := congrArg Except.ok h.listed
  simp only [Extractor.readAddresses, hlisted, bind, Except.bind, Json.iter]
  rw [networksOf_eq h, List.map_map, mapM_eq_ok_iff, List.forall₂_map_left_iff,
    List.forall₂_map_right_iff, List.forall₂_same]
  intro network hnetwork
  simp only [Json.get, Function.comp_apply, addressesIn, Extractor.addressKey]
  cases haddress : network.lookup "ipAddresses".toList with
  | none => rfl
  | some address =>
    obtain ⟨-, texts, rfl⟩ := h.address network hnetwork address haddress
    simp only [Option.getD_some, Option.map_some, addressTexts, filterMap_asText]

end

section Sorting

theorem isLeast_of_mergeSort {α : Type} [LinearOrder α] {xs rest : List α} {first : α}
    (h : xs.mergeSort (fun a b => decide (a ≤ b)) = first :: rest) :
    IsLeast {x | x ∈ xs} first := by
  have hperm := List.mergeSort_perm xs (fun a b => decide (a ≤ b))
  have hsorted : (xs.mergeSort (fun a b => decide (a ≤ b))).Pairwise
      (fun a b => decide (a ≤ b) = true) := by
    apply List.pairwise_mergeSort
    · simpa using fun a b c => le_trans
    · simpa using le_total
  rw [h] at hperm hsorted
  constructor
  · exact hperm.mem_iff.mp List.mem_cons_self
  · intro x hx
    rcases List.mem_cons.mp (hperm.mem_iff.mpr hx) with rfl | hmem
    · exact le_refl _
    · exact of_decide_eq_true ((List.pairwise_cons.mp hsorted).1 x hmem)

theorem exists_mergeSort_cons {α : Type} [LinearOrder α] {xs : List α} (h : xs ≠ []) :
    ∃ first rest, xs.mergeSort (fun a b => decide (a ≤ b)) = first :: rest := by
  apply List.exists_cons_of_ne_nil
  intro hnil
  have hperm := List.mergeSort_perm xs (fun a b => decide (a ≤ b))
  rw [hnil] at hperm
  exact h hperm.nil_eq.symm

theorem mapM_asText (texts : List Text) : (texts.map Json.str).mapM asText = some texts := by
  induction texts with
  | nil => rfl
  | cons s texts ih =>
    rw [List.map_cons, List.mapM_cons, ih]
    rfl

theorem mapM_asTexts (lists : List (List Text)) :
    (lists.map (fun texts => Json.list (texts.map .str))).mapM asTexts = some lists := by
  induction lists with
  | nil => rfl
  | cons texts lists ih =>
    rw [List.map_cons, List.mapM_cons, ih]
    change (texts.map Json.str).mapM asText >>= _ = _
    rw [mapM_asText]
    rfl

theorem sortAddresses_texts (texts : List Text) :
    sortAddresses (texts.map .str) =
      .ok ((texts.mergeSort (fun a b => decide (a ≤ b))).map .str) := by
  rw [sortAddresses, mapM_asText]
  rfl

theorem sortAddresses_lists (lists : List (List Text)) :
    sortAddresses (lists.map (fun texts => .list (texts.map .str))) =
      .ok ((lists.mergeSort (fun a b => decide (a ≤ b))).map
        (fun texts => .list (texts.map .str))) := by
  cases lists with
  | nil => simp [sortAddresses, List.mergeSort_nil, pure, Except.pure]
  | cons texts lists =>
    have hnone : ((texts :: lists).map (fun texts => Json.list (texts.map .str))).mapM asText =
        none := rfl
    rw [sortAddresses, hnone, mapM_asTexts]
    rfl

end Sorting

end GcpMonitor.Entities
