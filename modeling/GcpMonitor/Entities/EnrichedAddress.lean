import GcpMonitor.Entities.MappedAddresses

namespace GcpMonitor.Entities

open Python Metrics ExceptList

section

variable {limits : LengthLimits} {R : ExtractorRuntime} {lower : Text → Text}
  {svcDef : GCPService} {page cd : Json} {extractor : Extractor} {resources : List Json}
  {idOf : Json → Except PyError Text} {toEntity : Json → Except PyError Entity}

theorem exists_first_of_enriched (h : ApiPage R svcDef page extractor resources idOf toEntity)
    (hreported : Reported resources idOf cd) {id : Text} (hid : idOf cd = .ok id)
    {networks : List (Option (List Text))}
    (henriched : EnrichedWithLeast limits R lower (extractor.mapper R svcDef page) id networks) :
    ∃ entities entity least, resources.mapM toEntity = .ok entities ∧
      extractor.readAddresses cd = .ok entity.ipAddresses ∧
      IsLeast (addressSet networks) least ∧
      ∀ first others, (sortedEntity entity).ipAddresses = first :: others →
        createDimension limits ipAddressName (R.str first) = ⟨ipAddressName, least⟩ := by
  rw [h.maps.mapper_eq] at henriched
  obtain ⟨entities, idMap, least, hentities, hbuild, hleast, hlines⟩ := henriched
  obtain ⟨idMap', entity, hbuild', hread, hget⟩ :=
    exists_entity_of_mapped h hreported hid hentities
  rw [hbuild, Except.ok.injEq] at hbuild'
  subst hbuild'
  exact ⟨entities, entity, least, hentities, hread, hleast,
    fun first others hfirst => (enriched_iff_first hget hfirst).mp hlines⟩

theorem texts_of_enriched (hlist : ∀ items, ∃ s, R.str (.list items) = '[' :: s)
    (h : ApiPage R svcDef page extractor resources idOf toEntity)
    (hreported : Reported resources idOf cd) {id : Text} (hid : idOf cd = .ok id)
    (haddress : (addressSet (networksOf extractor cd)).Nonempty)
    (henriched : EnrichedWithLeast limits R lower (extractor.mapper R svcDef page) id
      (networksOf extractor cd)) :
    extractor ≠ .filestoreInstance := by
  rintro rfl
  obtain ⟨entities, entity, least, -, hread, hleast, hdimension⟩ :=
    exists_first_of_enriched h hreported hid henriched
  obtain ⟨items, others, hfirst⟩ := exists_first_list h hreported.mem hread haddress
  obtain ⟨s, hs⟩ := hlist items
  have hdimension := hdimension _ _ hfirst
  obtain ⟨hne, texts, htexts, hmem⟩ := hleast.1
  obtain ⟨c, rest, rfl⟩ := List.exists_cons_of_ne_nil hne
  rw [hs] at hdimension
  have hhead := head_createDimension_value
    (congrArg (List.head? ∘ DimensionValue.value) hdimension)
  exact (documented_addressTexts h hreported.mem htexts).1 _ hmem (congrArg some hhead)

theorem keepsLeast_of_enriched (h : ApiPage R svcDef page extractor resources idOf toEntity)
    (hreported : Reported resources idOf cd) {id : Text} (hid : idOf cd = .ok id)
    (haddress : (addressSet (networksOf extractor cd)).Nonempty)
    (htexts : extractor ≠ .filestoreInstance)
    (henriched : EnrichedWithLeast limits R lower (extractor.mapper R svcDef page) id
      (networksOf extractor cd)) :
    KeepsLeast limits extractor resources (networksOf extractor cd) := by
  obtain ⟨entities, entity, least, hentities, hread, hleast, hdimension⟩ :=
    exists_first_of_enriched h hreported hid henriched
  obtain ⟨first, others, hfirst, hleastfirst⟩ :=
    exists_first_text h htexts hreported.mem hread haddress
  have hdimension := hdimension _ _ hfirst
  rw [R.str_str] at hdimension
  have hne : first ≠ [] := by
    rintro rfl
    apply hleast.1.1
    rw [← createDimension_empty ipAddressName, hdimension]
  have hnonempty := nonempty_of_least h htexts hreported.mem hleastfirst hne
  rw [addressSet_eq hnonempty] at hleastfirst
  refine ⟨htexts, ?_, hnonempty, ?_⟩
  · rintro rfl other hother
    exact present_of_mapped h hentities hother
  · intro other hother
    rw [hother.unique hleast, ← hdimension, hleast.unique hleastfirst]

theorem enriched_of_keepsLeast (h : ApiPage R svcDef page extractor resources idOf toEntity)
    (hreported : Reported resources idOf cd) {id : Text} (hid : idOf cd = .ok id)
    (haddress : (addressSet (networksOf extractor cd)).Nonempty)
    (hkeeps : KeepsLeast limits extractor resources (networksOf extractor cd)) :
    EnrichedWithLeast limits R lower (extractor.mapper R svcDef page) id
      (networksOf extractor cd) := by
  rw [h.maps.mapper_eq]
  obtain ⟨entities, hentities⟩ := exists_mapM_eq_ok (fun other hother => by
    obtain ⟨ipAddresses, hread⟩ := exists_readAddresses h hkeeps.present hother
    exact h.described other hother ipAddresses hread)
  obtain ⟨idMap, entity, hbuild, hread, hget⟩ :=
    exists_entity_of_mapped h hreported hid hentities
  obtain ⟨first, others, hfirst, hleastfirst⟩ :=
    exists_first_text h hkeeps.texts hreported.mem hread haddress
  rw [addressSet_eq hkeeps.nonempty] at hleastfirst
  refine ⟨entities, idMap, first, hentities, hbuild, hleastfirst, ?_⟩
  apply (enriched_iff_first hget hfirst).mpr
  rw [R.str_str]
  exact hkeeps.uncut first hleastfirst

theorem enriched_with_least_iff (hlist : ∀ items, ∃ s, R.str (.list items) = '[' :: s)
    (h : ApiPage R svcDef page extractor resources idOf toEntity)
    (hreported : Reported resources idOf cd) {id : Text} (hid : idOf cd = .ok id)
    (haddress : (addressSet (networksOf extractor cd)).Nonempty) :
    EnrichedWithLeast limits R lower (extractor.mapper R svcDef page) id
        (networksOf extractor cd) ↔
      KeepsLeast limits extractor resources (networksOf extractor cd) := by
  constructor
  · intro henriched
    exact keepsLeast_of_enriched h hreported hid haddress
      (texts_of_enriched hlist h hreported hid haddress henriched) henriched
  · exact enriched_of_keepsLeast h hreported hid haddress

end

def writingRuntime : ExtractorRuntime where
  word := Char.isAlphanum
  str := fun value =>
    match value with
    | .str s => s
    | .list items => '[' :: ", ".toList.intercalate
        ((items.filterMap asText).map (fun s => '\'' :: s ++ ['\''])) ++ [']']
    | _ => []
  str_str := fun _ => rfl
  createMmh3Hash := List.flatten

def instanceService : GCPService where
  name := "gce_instance".toList
  featureSet := "default_metrics".toList
  technologyName := "GCE".toList
  dimensions := []
  metrics := []
  activation := .map []
  minSamplePeriodOverride := 0
  monitoringFilter := []
  isEnabled := true
  extensionName := "com.dynatrace.extension.google-compute-engine".toList
  autodiscoveryEnabled := false

def instanceFields (interfaces : List (List (Text × Json))) : List (Text × Json) :=
  [("id".toList, text "7"), ("networkInterfaces".toList, .list (interfaces.map .map))]

def instancesPage (interfaces : List (List (Text × Json))) : Json :=
  .map [("id".toList, text "projects/p/zones/z/instances"),
    ("items".toList, .list [.map (instanceFields interfaces)])]

def instanceId (cd : Json) : Except PyError Text :=
  getFuncCreateEntityId writingRuntime (GceInstance.mappings (text "p") (text "z")) cd
    instanceService

theorem extractLabel_instancesPage :
    GceInstance.extractLabel writingRuntime (text "projects/p/zones/z/instances") 1 =
        .ok (text "p") ∧
      GceInstance.extractLabel writingRuntime (text "projects/p/zones/z/instances") 2 =
        .ok (text "z") := by
  have hgroups : matchGroups "/instances".toList
      (GceInstance.exportLabelsRegex writingRuntime).groups
        "projects/p/zones/z/instances".toList = some ["p".toList, "z".toList] := by
    decide +kernel
  have hsuffix : (GceInstance.exportLabelsRegex writingRuntime).suffix = "/instances" := rfl
  constructor <;>
    simp only [GceInstance.extractLabel, ExportLabelsRegex.extractLabel, text, hsuffix, hgroups] <;>
    rfl

theorem lookup_instanceFields (interfaces : List (List (Text × Json))) :
    (instanceFields interfaces).lookup "networkInterfaces".toList =
      some (.list (interfaces.map .map)) := by
  have hne : ("networkInterfaces".toList == "id".toList) = false := by decide +kernel
  rw [instanceFields, List.lookup_cons, hne, List.lookup_cons_self]

theorem documented_instanceFields {interfaces : List (List (Text × Json))}
    (h : ∀ network ∈ interfaces, ∀ address, network.lookup "networkIP".toList = some address →
      DocumentedAddress .gceInstance address) :
    DocumentedNetworks .gceInstance (instanceFields interfaces) interfaces where
  listed := by
    rw [Extractor.networksKey, lookup_instanceFields, Option.getD_some]
  address := h

theorem toEntity_instanceFields {interfaces : List (List (Text × Json))} {ipAddresses : List Json}
    (h : Extractor.gceInstance.readAddresses (.map (instanceFields interfaces)) =
      .ok ipAddresses) :
    ∃ entity, GceInstance.toEntity writingRuntime instanceService (text "p") (text "z")
      (.map (instanceFields interfaces)) = .ok entity := by
  obtain ⟨networks, hnetworks, h⟩ := bind_eq_ok_iff.mp h
  obtain ⟨items, hitems, h⟩ := bind_eq_ok_iff.mp h
  have htags : (Json.map (instanceFields interfaces)).get "tags" (.map []) = .ok (.map []) := by
    rfl
  exact ⟨_, bind_eq_ok_iff.mpr ⟨networks, hnetworks, bind_eq_ok_iff.mpr ⟨items, hitems,
    bind_eq_ok_iff.mpr ⟨ipAddresses, h, bind_eq_ok_iff.mpr ⟨_, htags,
      bind_eq_ok_iff.mpr ⟨_, rfl, bind_eq_ok_iff.mpr ⟨_, rfl,
        bind_eq_ok_iff.mpr ⟨_, rfl, bind_eq_ok_iff.mpr ⟨_, rfl, rfl⟩⟩⟩⟩⟩⟩⟩⟩⟩

theorem mapsWith_instancesPage (interfaces : List (List (Text × Json))) :
    MapsWith writingRuntime instanceService (instancesPage interfaces) .gceInstance
      [.map (instanceFields interfaces)] instanceId
      (GceInstance.toEntity writingRuntime instanceService (text "p") (text "z")) := by
  have hne : ("items".toList == "id".toList) = false := by decide +kernel
  have hitems : (instancesPage interfaces).get "items" (.list []) =
      .ok (.list [.map (instanceFields interfaces)]) := by
    rw [instancesPage, Json.get, List.lookup_cons, hne, List.lookup_cons_self]
    rfl
  have hid : (instancesPage interfaces).get "id" .null =
      .ok (text "projects/p/zones/z/instances") := by
    rw [instancesPage, Json.get, List.lookup_cons_self]
    rfl
  exact .gceInstance _ _ _ _ hitems hid extractLabel_instancesPage.1 extractLabel_instancesPage.2

theorem apiPage_instancesPage {interfaces : List (List (Text × Json))}
    (h : ∀ network ∈ interfaces, ∀ address, network.lookup "networkIP".toList = some address →
      DocumentedAddress .gceInstance address) :
    ApiPage writingRuntime instanceService (instancesPage interfaces) .gceInstance
      [.map (instanceFields interfaces)] instanceId
      (GceInstance.toEntity writingRuntime instanceService (text "p") (text "z")) where
  maps := mapsWith_instancesPage interfaces
  documented := by
    intro cd hcd
    rw [List.mem_singleton.mp hcd]
    exact ⟨_, interfaces, rfl, documented_instanceFields h⟩
  described := by
    intro cd hcd ipAddresses hread
    rw [List.mem_singleton.mp hcd] at hread ⊢
    exact toEntity_instanceFields hread

def twoInterfaces : List (List (Text × Json)) :=
  [[("networkIP".toList, text "10.0.0.3")], [("networkIP".toList, text "10.0.0.2")]]

def unaddressedInterface : List (List (Text × Json)) :=
  [[("networkIP".toList, text "10.0.0.3")], []]

theorem documentedAddress_gceInstance {s : Text} (h : s.head? ≠ some '[') :
    DocumentedAddress .gceInstance (.str s) := by
  constructor
  · intro t ht
    rw [List.mem_singleton.mp ht]
    exact h
  · exact ⟨s, rfl⟩

theorem networksOf_instanceFields {interfaces : List (List (Text × Json))}
    (h : ∀ network ∈ interfaces, ∀ address, network.lookup "networkIP".toList = some address →
      DocumentedAddress .gceInstance address) :
    networksOf .gceInstance (.map (instanceFields interfaces)) =
      interfaces.map (addressesIn .gceInstance) :=
  networksOf_eq (documented_instanceFields h)

theorem documented_twoInterfaces : ∀ network ∈ twoInterfaces, ∀ address,
    network.lookup "networkIP".toList = some address → DocumentedAddress .gceInstance address := by
  intro network hnetwork address haddress
  rcases List.mem_cons.mp hnetwork with rfl | hnetwork
  · rw [List.lookup_cons_self, Option.some.injEq] at haddress
    subst haddress
    exact documentedAddress_gceInstance (by decide +kernel)
  · rw [List.mem_singleton.mp hnetwork, List.lookup_cons_self, Option.some.injEq] at haddress
    subst haddress
    exact documentedAddress_gceInstance (by decide +kernel)

theorem documented_unaddressedInterface : ∀ network ∈ unaddressedInterface, ∀ address,
    network.lookup "networkIP".toList = some address → DocumentedAddress .gceInstance address := by
  intro network hnetwork address haddress
  rcases List.mem_cons.mp hnetwork with rfl | hnetwork
  · rw [List.lookup_cons_self, Option.some.injEq] at haddress
    subst haddress
    exact documentedAddress_gceInstance (by decide +kernel)
  · rw [List.mem_singleton.mp hnetwork] at haddress
    cases haddress

theorem networksOf_twoInterfaces :
    networksOf .gceInstance (.map (instanceFields twoInterfaces)) =
      [some ["10.0.0.3".toList], some ["10.0.0.2".toList]] := by
  rw [networksOf_instanceFields documented_twoInterfaces]
  simp only [twoInterfaces, List.map_cons, List.map_nil, addressesIn, Extractor.addressKey,
    List.lookup_cons_self, Option.map_some, text, addressTexts]

theorem networksOf_unaddressedInterface :
    networksOf .gceInstance (.map (instanceFields unaddressedInterface)) =
      [some ["10.0.0.3".toList], none] := by
  rw [networksOf_instanceFields documented_unaddressedInterface]
  simp only [unaddressedInterface, List.map_cons, List.map_nil, addressesIn, Extractor.addressKey,
    List.lookup_cons_self, List.lookup_nil, Option.map_some, Option.map_none, text, addressTexts]

theorem isLeast_twoInterfaces :
    IsLeast (addressSet [some ["10.0.0.3".toList], some ["10.0.0.2".toList]])
      "10.0.0.2".toList := by
  constructor
  · exact ⟨by decide +kernel, ["10.0.0.2".toList], by simp, List.mem_singleton_self _⟩
  · rintro address ⟨-, texts, htexts, haddress⟩
    simp only [List.mem_cons, List.not_mem_nil, or_false, Option.some.injEq] at htexts
    rcases htexts with rfl | rfl
    · rw [List.mem_singleton.mp haddress]
      decide +kernel
    · rw [List.mem_singleton.mp haddress]

theorem keepsLeast_twoInterfaces :
    KeepsLeast ⟨100, 250, 250, 100, 250⟩ .gceInstance [.map (instanceFields twoInterfaces)]
      [some ["10.0.0.3".toList], some ["10.0.0.2".toList]] where
  texts := by decide
  present := by
    intro h
    cases h
  nonempty := by
    intro network hnetwork
    simp only [List.mem_cons, List.not_mem_nil, or_false] at hnetwork
    rcases hnetwork with rfl | rfl
    · exact ⟨_, by decide +kernel, rfl⟩
    · exact ⟨_, by decide +kernel, rfl⟩
  uncut := by
    intro least hleast
    rw [hleast.unique isLeast_twoInterfaces]
    decide +kernel

theorem reported_singleton (cd : Json) : Reported [cd] instanceId cd :=
  ⟨[], [], rfl, by simp⟩

theorem writingRuntime_list (items : List Json) :
    ∃ s, writingRuntime.str (.list items) = '[' :: s :=
  ⟨_, rfl⟩

theorem enriched_with_least_two_interfaces :
    EnrichedWithLeast ⟨100, 250, 250, 100, 250⟩ writingRuntime (fun s => s.map Char.toLower)
      (Extractor.gceInstance.mapper writingRuntime instanceService (instancesPage twoInterfaces))
      "gce_instance".toList
      (networksOf .gceInstance (.map (instanceFields twoInterfaces))) := by
  have hid : instanceId (.map (instanceFields twoInterfaces)) = .ok "gce_instance".toList := rfl
  apply (enriched_with_least_iff writingRuntime_list
    (apiPage_instancesPage documented_twoInterfaces) (reported_singleton _) hid ?_).mpr
  · rw [networksOf_twoInterfaces]
    exact keepsLeast_twoInterfaces
  · rw [networksOf_twoInterfaces]
    exact ⟨_, isLeast_twoInterfaces.1⟩

theorem unaddressed_interface_hides_address :
    ¬ ∀ (limits : LengthLimits) (R : ExtractorRuntime) (lower : Text → Text) (svcDef : GCPService)
      (page cd : Json) (extractor : Extractor) (resources : List Json)
      (idOf : Json → Except PyError Text) (toEntity : Json → Except PyError Entity) (id : Text),
      (∀ items, ∃ s, R.str (.list items) = '[' :: s) →
      ApiPage R svcDef page extractor resources idOf toEntity →
      Reported resources idOf cd → idOf cd = .ok id →
      (addressSet (networksOf extractor cd)).Nonempty →
      EnrichedWithLeast limits R lower (extractor.mapper R svcDef page) id
        (networksOf extractor cd) := by
  intro hclaim
  have hid : instanceId (.map (instanceFields unaddressedInterface)) =
      .ok "gce_instance".toList := rfl
  have haddress : (addressSet (networksOf .gceInstance
      (.map (instanceFields unaddressedInterface)))).Nonempty := by
    rw [networksOf_unaddressedInterface]
    exact ⟨"10.0.0.3".toList, by decide +kernel, _, List.mem_cons_self,
      List.mem_singleton_self _⟩
  have hpage := apiPage_instancesPage documented_unaddressedInterface
  have henriched := hclaim ⟨100, 250, 250, 100, 250⟩ writingRuntime (fun s => s) instanceService _ _
    _ _ _ _ _ writingRuntime_list hpage (reported_singleton _) hid haddress
  have hkeeps := keepsLeast_of_enriched hpage (reported_singleton _) hid haddress (by decide)
    henriched
  rw [networksOf_unaddressedInterface] at hkeeps
  obtain ⟨address, -, hnone⟩ := hkeeps.nonempty none (by simp)
  cases hnone

end GcpMonitor.Entities
