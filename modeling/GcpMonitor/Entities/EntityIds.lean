import GcpMonitor.Entities.Extractors
import GcpMonitor.Library.ExceptList
import GcpMonitor.Metrics.FetchMetric

namespace GcpMonitor.Entities

open Python Metrics ExceptList

def resourceLabel (k : Text) : Text := "resource.labels.".toList ++ k

def metricLabel (k : Text) : Text := "metric.labels.".toList ++ k

def LabelName (k : Text) : Prop := k ≠ [] ∧ '.' ∉ k ∧ ':' ∉ k

inductive NamesLabel (definition : DimensionDefinition) : Prop
  | resource (k : Text) (hk : LabelName k)
      (hvalue : definition.value = some ("label:".toList ++ resourceLabel k))
  | metric (k : Text) (hk : LabelName k)
      (hvalue : definition.value = some ("label:".toList ++ metricLabel k))

inductive ExtractorMapping (R : ExtractorRuntime) : LabelToApiRspMapping → Prop
  | cloudFunction : ExtractorMapping R (CloudFunction.labelToApiResponseMapping R)
  | cloudSql : ExtractorMapping R (CloudSql.labelToApiResponseMapping R)
  | filestoreInstance : ExtractorMapping R (FilestoreInstance.labelToApiResponseMapping R)
  | pubsubSubscription : ExtractorMapping R (PubsubSubscription.labelToApiResponseMapping R)
  | gceInstance : ExtractorMapping R (GceInstance.labelToApiResponseMapping R)
  | gceInstancePage (projectId zoneId : Json) :
      ExtractorMapping R (GceInstance.mappings projectId zoneId)

/-- The functions of the mapping are defined on the item and give the labels, and nothing else
does. -/
structure LabelsOf (mapping : LabelToApiRspMapping) (rsp : Json)
    (labels : OrderedDict Text Text) : Prop where
  extracted : ∀ k f, mapping.get (resourceLabel k) = some f →
    ∃ v, f rsp = .ok (.str v) ∧ labels.get k = some v
  only : ∀ k, mapping.get (resourceLabel k) = none → labels.get k = none

theorem resourceLabel_injective {k l : Text} (h : resourceLabel k = resourceLabel l) : k = l := by
  unfold resourceLabel at h
  exact List.append_cancel_left h

theorem resourceLabel_ne_metricLabel (k l : Text) : resourceLabel k ≠ metricLabel l := by
  intro h
  have hhead : "resource.labels.".toList.head? = "metric.labels.".toList.head? := by
    have := congrArg List.head? h
    unfold resourceLabel metricLabel at this
    rwa [List.head?_append_of_ne_nil _ (by decide +kernel),
      List.head?_append_of_ne_nil _ (by decide +kernel)] at this
  exact absurd hhead (by decide +kernel)

theorem not_labelName_metricLabel (k : Text) : ¬ LabelName (metricLabel k) := by
  rintro ⟨-, hdot, -⟩
  have hdot' : '.' ∈ "metric.labels.".toList := by decide +kernel
  unfold metricLabel at hdot
  exact hdot (List.mem_append_left _ hdot')

theorem replaceAll_resourceLabel {k : Text} (hk : LabelName k) :
    (resourceLabel k).replaceAll "resource.labels.".toList [] = k := by
  have hne : "resource.labels.".toList ≠ [] := by decide +kernel
  have hdot : '.' ∈ "resource.labels.".toList := by decide +kernel
  unfold resourceLabel
  rw [Text.replaceAll_prefix _ _ hne, List.nil_append]
  exact Text.replaceAll_of_not_mem [] hdot hk.2.1

theorem replaceAll_metricLabel {k : Text} (hk : LabelName k) :
    (metricLabel k).replaceAll "resource.labels.".toList [] = metricLabel k := by
  have hdot : '.' ∈ "resource.labels.".toList := by decide +kernel
  have hstart : (metricLabel k).replaceAll "resource.labels.".toList [] =
      metricLabel (k.replaceAll "resource.labels.".toList []) := by
    unfold metricLabel
    simp [Text.replaceAll, Text.replaceFrom]
  rw [hstart]
  exact congrArg metricLabel (Text.replaceAll_of_not_mem [] hdot hk.2.1)

theorem colon_not_mem_append {s k : Text} (hs : ':' ∉ s) (hk : LabelName k) : ':' ∉ s ++ k := by
  rw [List.mem_append]
  rintro (h | h)
  · exact hs h
  · exact hk.2.2 h

theorem replaceAll_label {s : Text} (hs : ':' ∉ s) :
    Text.replaceAll ("label:".toList ++ s) "label:".toList [] = s := by
  have hcolon : ':' ∈ "label:".toList := by decide +kernel
  rw [Text.replaceAll_prefix _ _ (by decide +kernel), List.nil_append,
    Text.replaceAll_of_not_mem [] hcolon hs]

section

variable {definition : DimensionDefinition} {k : Text}

theorem init_resource (hk : LabelName k)
    (hvalue : definition.value = some ("label:".toList ++ resourceLabel k)) :
    (Dimension.init definition).keyForGetFuncCreateEntityId = resourceLabel k ∧
      (Dimension.init definition).keyForCreateEntityId = k := by
  have hcolon : ':' ∉ resourceLabel k := colon_not_mem_append (by decide +kernel) hk
  simp only [Dimension.init, hvalue, Option.getD_some, replaceAll_label hcolon,
    replaceAll_resourceLabel hk, orText, if_neg hk.1, and_self]

theorem init_metric (hk : LabelName k)
    (hvalue : definition.value = some ("label:".toList ++ metricLabel k)) :
    (Dimension.init definition).keyForGetFuncCreateEntityId = metricLabel k ∧
      (Dimension.init definition).keyForCreateEntityId = metricLabel k := by
  have hcolon : ':' ∉ metricLabel k := colon_not_mem_append (by decide +kernel) hk
  have hne : metricLabel k ≠ [] := List.append_ne_nil_of_left_ne_nil (by decide +kernel) k
  simp only [Dimension.init, hvalue, Option.getD_some, replaceAll_label hcolon,
    replaceAll_metricLabel hk, orText, if_neg hne, and_self]

end

theorem labelName_of_mappingOf {functions : List (String × ExtractPropertyFunc)}
    (hnames : ∀ entry ∈ functions, ∃ k, LabelName k ∧ entry.1.toList = resourceLabel k)
    {key : Text} {f : ExtractPropertyFunc} (h : (mappingOf functions).get key = some f) :
    ∃ k, LabelName k ∧ key = resourceLabel k := by
  have hkey : key ∈ (mappingOf functions).keys := by
    rw [← OrderedDict.get_isSome_iff, h]
    rfl
  rcases OrderedDict.mem_keys_foldl_set.mp hkey with hempty | ⟨entry, hentry, rfl⟩
  · simp at hempty
  · exact hnames entry hentry

def namesResourceLabel (name : String) : Bool :=
  let k := name.toList.drop "resource.labels.".length
  "resource.labels.".toList.isPrefixOf name.toList && !k.isEmpty && !k.contains '.' &&
    !k.contains ':'

theorem exists_labelName_of_namesResourceLabel {name : String} (h : namesResourceLabel name) :
    ∃ k, LabelName k ∧ name.toList = resourceLabel k := by
  simp only [namesResourceLabel, Bool.and_eq_true, List.isPrefixOf_iff_prefix] at h
  obtain ⟨⟨⟨⟨k, hk⟩, hne⟩, hdot⟩, hcolon⟩ := h
  refine ⟨k, ?_, hk.symm⟩
  rw [← hk, ← String.length_toList, List.drop_left] at hne hdot hcolon
  refine ⟨?_, ?_, ?_⟩
  · simpa using hne
  · simpa using hdot
  · simpa using hcolon

theorem labelName_of_get {R : ExtractorRuntime} {mapping : LabelToApiRspMapping}
    (hmapping : ExtractorMapping R mapping) {key : Text} {f : ExtractPropertyFunc}
    (h : mapping.get key = some f) : ∃ k, LabelName k ∧ key = resourceLabel k := by
  have hnames : ∀ functions : List (String × ExtractPropertyFunc),
      (functions.map Prod.fst).all namesResourceLabel = true →
        ∀ entry ∈ functions, ∃ k, LabelName k ∧ entry.1.toList = resourceLabel k := by
    intro functions hall entry hentry
    apply exists_labelName_of_namesResourceLabel
    exact List.all_eq_true.mp hall _ (List.mem_map_of_mem hentry)
  cases hmapping <;> refine labelName_of_mappingOf (hnames _ ?_) h <;>
    simp only [List.map_cons, List.map_nil] <;> decide +kernel

section

variable {Point : Type} {R : ExtractorRuntime} {mapping : LabelToApiRspMapping} {rsp : Json}
  {labels : OrderedDict Text Text}

def labelComponent (labels : OrderedDict Text Text) (dimension : Dimension) : Option Text :=
  (labels.get dimension.keyForCreateEntityId).filter (fun value => value ≠ [])

theorem entityIdComponent_of_extracted {dimension : Dimension} {f : ExtractPropertyFunc} {v : Text}
    (hget : mapping.get dimension.keyForGetFuncCreateEntityId = some f)
    (hv : f rsp = .ok (.str v)) :
    entityIdComponent R mapping rsp dimension =
      .ok ((some v).filter (fun value => value ≠ [])) := by
  simp only [entityIdComponent, hget, hv, bind, Except.bind, pure, Except.pure, Json.truthy,
    R.str_str, Option.filter_some]

theorem entityIdComponent_eq (hmapping : ExtractorMapping R mapping)
    (hlabels : LabelsOf mapping rsp labels) {definition : DimensionDefinition}
    (hdefinition : NamesLabel definition) :
    entityIdComponent R mapping rsp (.init definition) =
      .ok (labelComponent labels (.init definition)) := by
  cases hdefinition with
  | resource k hk hvalue =>
    obtain ⟨hkey, hlabel⟩ := init_resource hk hvalue
    cases hget : mapping.get (resourceLabel k) with
    | none =>
      rw [entityIdComponent, labelComponent, hkey, hlabel, hget, hlabels.only k hget]
      rfl
    | some f =>
      obtain ⟨v, hv, hvalue⟩ := hlabels.extracted k f hget
      rw [labelComponent, hlabel, hvalue]
      exact entityIdComponent_of_extracted (hkey ▸ hget) hv
  | metric k hk hvalue =>
    obtain ⟨hkey, hlabel⟩ := init_metric hk hvalue
    have hunmapped : mapping.get (metricLabel k) = none := by
      apply Option.eq_none_iff_forall_ne_some.mpr
      intro f hf
      obtain ⟨l, -, hl⟩ := labelName_of_get hmapping hf
      exact resourceLabel_ne_metricLabel l k hl.symm
    have hunlabelled : mapping.get (resourceLabel (metricLabel k)) = none := by
      apply Option.eq_none_iff_forall_ne_some.mpr
      intro f hf
      obtain ⟨l, hl, hkey⟩ := labelName_of_get hmapping hf
      exact not_labelName_metricLabel k (resourceLabel_injective hkey ▸ hl)
    rw [entityIdComponent, labelComponent, hkey, hlabel, hunmapped, hlabels.only _ hunlabelled]
    rfl

/-- The id that a line is sent with is the id of the entity that its resource stands for. -/
theorem createEntityId_eq_getFuncCreateEntityId (T : Runtime Point) {Y : YamlLibrary}
    {serviceDefinition : ServiceDefinition} {activation : Yaml} {isEnabled : Bool}
    {extensionName : Text} {autodiscoveryEnabled : Bool} {service : GCPService}
    (hservice : GCPService.init Y serviceDefinition activation isEnabled extensionName
      autodiscoveryEnabled = .ok service)
    (hdimensions : ∀ definition ∈ serviceDefinition.dimensions.getD [], NamesLabel definition)
    (hmapping : ExtractorMapping R mapping) (hlabels : LabelsOf mapping rsp labels)
    {timeSeries : TimeSeries Point} (htimeSeries : timeSeries.resourceLabels = some labels) :
    createEntityId T service.name service.dimensions timeSeries =
      getFuncCreateEntityId { R with createMmh3Hash := T.createMmh3Hash } mapping rsp service := by
  have hcomponents : service.dimensions.mapM (entityIdComponent R mapping rsp) =
      .ok (service.dimensions.map (labelComponent labels)) := by
    apply mapM_eq_ok_map
    intro dimension hdimension
    rw [GCPService.init_dimensions hservice] at hdimension
    obtain ⟨definition, hdefinition, rfl⟩ := List.mem_map.mp hdimension
    exact entityIdComponent_eq hmapping hlabels (hdimensions definition hdefinition)
  have hid : getFuncCreateEntityId { R with createMmh3Hash := T.createMmh3Hash } mapping rsp
      service = .ok (T.createMmh3Hash (service.name ::
        (service.dimensions.map (labelComponent labels)).reduceOption)) :=
    bind_eq_ok_iff.mpr ⟨_, hcomponents, rfl⟩
  have hreduce : (service.dimensions.map (labelComponent labels)).reduceOption =
      service.dimensions.filterMap (labelComponent labels) := List.filterMap_map
  rw [hid, createEntityId, htimeSeries, hreduce]
  rfl

end

theorem get_mappingOf_snoc (functions : List (String × ExtractPropertyFunc)) (name : String)
    (f : ExtractPropertyFunc) (key : Text) :
    (mappingOf (functions ++ [(name, f)])).get key =
      if key = name.toList then some f else (mappingOf functions).get key := by
  have hsnoc : mappingOf (functions ++ [(name, f)]) = (mappingOf functions).set name.toList f :=
    List.foldl_append
  rw [hsnoc]
  split_ifs with h
  · rw [h, OrderedDict.get_set_self]
  · exact OrderedDict.get_set_of_ne _ _ h

def metricRuntime : Runtime Unit where
  floatText := .wholeOrFraction
  limits := ⟨100, 250, 250, 100, 250⟩
  dtSecurityContextValue := []
  createMmh3Hash := List.flatten
  timestamp := fun _ => .ok 1000
  extractValue := fun _ _ _ => .ok none

def noYaml : YamlLibrary where
  safeLoad := fun content => if content = [] then some .null else none
  safeLoad_empty := rfl
  str := fun _ => []

def instanceDefinition : ServiceDefinition where
  service := some "gce_instance".toList
  featureSet := none
  techName := none
  dimensions := some [
    ⟨none, some ("label:".toList ++ resourceLabel "instance_id".toList)⟩,
    ⟨none, some ("label:".toList ++ metricLabel "instance_name".toList)⟩,
    ⟨none, some ("label:".toList ++ resourceLabel "instance_id".toList)⟩]
  metrics := none
  gcpMonitoringFilter := none

def instanceLabels : OrderedDict Text Text :=
  ((OrderedDict.empty.set "instance_id".toList "7".toList).set "zone".toList "z".toList).set
    "project_id".toList "p".toList

def instanceSeries : TimeSeries Unit where
  metricLabels := .empty
  resourceLabels := some instanceLabels
  systemLabels := .empty
  userLabels := .empty
  valueType := "INT64".toList
  points := []

def instanceItem : Json := .map [("id".toList, text "7")]

theorem labelsOf_instanceItem :
    LabelsOf (GceInstance.mappings (text "p") (text "z")) instanceItem instanceLabels := by
  have hmapped : ∀ k, (GceInstance.mappings (text "p") (text "z")).get (resourceLabel k) =
      if k = "project_id".toList then some (fun _ => return text "p")
      else if k = "zone".toList then some (fun _ => return text "z")
      else if k = "instance_id".toList then some (fun x => x.get "id" (text ""))
      else none := by
    have hname : ∀ (name : String) (k l : Text), name.toList = resourceLabel l →
        (resourceLabel k = name.toList ↔ k = l) := by
      intro name k l hname
      rw [hname]
      exact ⟨resourceLabel_injective, congrArg resourceLabel⟩
    intro k
    have hproject := hname "resource.labels.project_id" k "project_id".toList (by decide +kernel)
    have hzone := hname "resource.labels.zone" k "zone".toList (by decide +kernel)
    have hinstance := hname "resource.labels.instance_id" k "instance_id".toList (by decide +kernel)
    refine (get_mappingOf_snoc [_, _] _ _ _).trans ?_
    refine (if_congr hproject rfl (get_mappingOf_snoc [_] _ _ _)).trans ?_
    refine if_congr Iff.rfl rfl ((if_congr hzone rfl (get_mappingOf_snoc [] _ _ _)).trans ?_)
    exact if_congr Iff.rfl rfl (if_congr hinstance rfl rfl)
  have hlabelled : ∀ k, instanceLabels.get k =
      if k = "project_id".toList then some "p".toList
      else if k = "zone".toList then some "z".toList
      else if k = "instance_id".toList then some "7".toList
      else none := by
    intro k
    split_ifs with hproject hzone hinstance
    · subst hproject
      decide +kernel
    · subst hzone
      decide +kernel
    · subst hinstance
      decide +kernel
    · rw [instanceLabels, OrderedDict.get_set_of_ne _ _ hproject,
        OrderedDict.get_set_of_ne _ _ hzone, OrderedDict.get_set_of_ne _ _ hinstance,
        OrderedDict.get_empty]
  constructor
  · intro k f hf
    rw [hmapped] at hf
    rw [hlabelled]
    split_ifs at hf ⊢ <;> cases hf
    · exact ⟨_, rfl, rfl⟩
    · exact ⟨_, rfl, rfl⟩
    · exact ⟨_, by simp [instanceItem, Json.get, text], rfl⟩
  · intro k hk
    rw [hmapped] at hk
    rw [hlabelled]
    split_ifs at hk ⊢
    rfl

theorem createEntityId_eq_getFuncCreateEntityId_instance :
    ∃ service, GCPService.init noYaml instanceDefinition (.map []) true [] false = .ok service ∧
      createEntityId metricRuntime service.name service.dimensions instanceSeries =
        getFuncCreateEntityId { extractorRuntime with createMmh3Hash := List.flatten }
          (GceInstance.mappings (text "p") (text "z")) instanceItem service := by
  obtain ⟨service, hservice⟩ := GCPService.init_empty noYaml instanceDefinition true [] false
  refine ⟨service, hservice, ?_⟩
  have hinstance : LabelName "instance_id".toList := by
    refine ⟨?_, ?_, ?_⟩ <;> decide +kernel
  have hname : LabelName "instance_name".toList := by
    refine ⟨?_, ?_, ?_⟩ <;> decide +kernel
  have hdimensions : ∀ definition ∈ instanceDefinition.dimensions.getD [],
      NamesLabel definition := by
    simp only [instanceDefinition, Option.getD_some, List.forall_mem_cons]
    exact ⟨.resource _ hinstance rfl, .metric _ hname rfl, .resource _ hinstance rfl, nofun⟩
  exact createEntityId_eq_getFuncCreateEntityId (R := extractorRuntime) metricRuntime hservice
    hdimensions (.gceInstancePage (text "p") (text "z")) labelsOf_instanceItem rfl

end GcpMonitor.Entities
