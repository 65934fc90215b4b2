import GcpMonitor.Library.OrderedDict
import GcpMonitor.Library.TaskPool
import GcpMonitor.Library.TransitionSystem
import GcpMonitor.SelfMonitoring.MetricDescriptors

namespace GcpMonitor.SelfMonitoring

open TransitionSystem TaskPool

inductive DescriptorRequest where
  | delete (metricType : Text)
  | create (metricDescriptor : MetricDescriptor) (metricType : Text)
  deriving DecidableEq

def existingMetricTypes (listed : List MetricDescriptor) : OrderedDict Text MetricDescriptor :=
  listed.foldl (fun d metric => d.set (metric.type.getD []) metric) .empty

def differs (existing metricDescriptor : MetricDescriptor) : Bool :=
  extractLabelKeys existing ≠ extractLabelKeys metricDescriptor ||
    existing.displayName.getD [] ≠ metricDescriptor.displayName.getD []

def replaceMetricDescriptorIfRequired (existing metricDescriptor : MetricDescriptor)
    (metricType : Text) : List DescriptorRequest :=
  if differs existing metricDescriptor then
    [.delete metricType, .create metricDescriptor metricType]
  else []

def sfmCreateDescriptorsIfMissing (metricMap : List (Text × MetricDescriptor))
    (listed : List MetricDescriptor) : List DescriptorRequest :=
  metricMap.flatMap (fun entry =>
    match (existingMetricTypes listed).get entry.1 with
    | some existing => replaceMetricDescriptorIfRequired existing entry.2 entry.1
    | none => [.create entry.2 entry.1])

structure ProjectDescriptors where
  byType : OrderedDict Text MetricDescriptor
  typed : ∀ type metricDescriptor, byType.get type = some metricDescriptor →
    metricDescriptor.type = some type

namespace ProjectDescriptors

def empty : ProjectDescriptors := ⟨.empty, by simp⟩

def put (project : ProjectDescriptors) (metricDescriptor : MetricDescriptor) :
    ProjectDescriptors :=
  match h : metricDescriptor.type with
  | none => project
  | some type =>
    ⟨project.byType.set type metricDescriptor, by
      intro type' other hother
      by_cases htype : type' = type
      · subst htype
        rw [OrderedDict.get_set_self, Option.some.injEq] at hother
        rw [← hother, h]
      · rw [OrderedDict.get_set_of_ne _ _ htype] at hother
        exact project.typed type' other hother⟩

def delete (project : ProjectDescriptors) (metricType : Text) : ProjectDescriptors :=
  ⟨project.byType.erase metricType, by
    intro type other hother
    rw [OrderedDict.get_erase] at hother
    split_ifs at hother
    exact project.typed type other hother⟩

def list (project : ProjectDescriptors) : List MetricDescriptor :=
  (project.byType.entries.filter
    (fun entry => selfMonitoringMetricPrefix.toList.isPrefixOf entry.1)).map Prod.snd

end ProjectDescriptors

/-- What the service keeps when a descriptor is created: as it was sent, but an existing one of the
type is updated, and then none of its labels is ever removed. -/
structure MonitoringApi where
  stored : Option MetricDescriptor → MetricDescriptor → MetricDescriptor
  stored_type : ∀ existing metricDescriptor,
    (stored existing metricDescriptor).type = metricDescriptor.type
  stored_same : ∀ existing metricDescriptor,
    (∀ old ∈ existing, extractLabelKeys old ⊆ extractLabelKeys metricDescriptor) →
      differs (stored existing metricDescriptor) metricDescriptor = false
  keeps_labels : ∀ existing metricDescriptor,
    ∀ old ∈ existing, extractLabelKeys old ⊆ extractLabelKeys (stored existing metricDescriptor)

def ProjectDescriptors.create (api : MonitoringApi) (project : ProjectDescriptors)
    (metricDescriptor : MetricDescriptor) : ProjectDescriptors :=
  project.put
    (api.stored (metricDescriptor.type.bind project.byType.get) metricDescriptor)

inductive ListAnswer where
  | served
  | refused
  | raised
  deriving DecidableEq

inductive RequestAnswer where
  | answered (status : ℕ)
  | raised (carriedOut : Bool)
  deriving DecidableEq

structure DescriptorTask where
  kind : SfmKind
  pending : List DescriptorRequest := []
  deriving DecidableEq

structure DescriptorState where
  project : ProjectDescriptors
  tasks : List DescriptorTask

/-- `autocreated` is a time series of a type that has no descriptor, for which the service makes
one up. -/
inductive DescriptorEvent where
  | list (i : ℕ) (answer : ListAnswer)
  | request (i : ℕ) (answer : RequestAnswer)
  | autocreated (metricDescriptor : MetricDescriptor)
  deriving DecidableEq

section

variable (api : MonitoringApi)

def DescriptorRequest.carryOut (project : ProjectDescriptors) :
    DescriptorRequest → ProjectDescriptors
  | .delete metricType => project.delete metricType
  | .create metricDescriptor _ => project.create api metricDescriptor

def DescriptorRequest.succeeds : DescriptorRequest → ℕ → Bool
  | .delete _, status => status = 200
  | .create _ _, status => status ≤ 202

namespace DescriptorTask

def listed (task : DescriptorTask) (project : ProjectDescriptors) : ListAnswer → DescriptorTask
  | .served =>
    { task with pending := sfmCreateDescriptorsIfMissing task.kind.metricMap project.list }
  | .refused => { task with pending := sfmCreateDescriptorsIfMissing task.kind.metricMap [] }
  | .raised => task

def requested (task : DescriptorTask) (project : ProjectDescriptors) :
    RequestAnswer → ProjectDescriptors × DescriptorTask
  | answer =>
    match task.pending with
    | [] => (project, task)
    | request :: rest =>
      match answer with
      | .answered status =>
        (if request.succeeds status then request.carryOut api project else project,
          { task with pending := rest })
      | .raised carriedOut =>
        (if carriedOut then request.carryOut api project else project, { task with pending := [] })

end DescriptorTask

namespace DescriptorState

def step (s : DescriptorState) : DescriptorEvent → Option DescriptorState
  | .list i answer =>
    onTask s.tasks i (fun task => task.pending = []) fun task =>
      { s with tasks := s.tasks.set i (task.listed s.project answer) }
  | .request i answer =>
    onTask s.tasks i (fun task => task.pending ≠ []) fun task =>
      let (project, task) := task.requested api s.project answer
      ⟨project, s.tasks.set i task⟩
  | .autocreated metricDescriptor =>
    match metricDescriptor.type with
    | none => none
    | some type =>
      if (s.project.byType.get type).isNone then
        some { s with project := s.project.put metricDescriptor }
      else none

end DescriptorState

def descriptorSystem (start : DescriptorState) : System DescriptorState DescriptorEvent where
  init := start
  step := DescriptorState.step api

end

section Listing

variable {project : ProjectDescriptors} {type : Text} {existing metricDescriptor : MetricDescriptor}
  {metricMap : List (Text × MetricDescriptor)} {listed : List MetricDescriptor}

namespace ProjectDescriptors

theorem mem_list_iff : existing ∈ project.list ↔
    ∃ type, project.byType.get type = some existing ∧
      selfMonitoringMetricPrefix.toList.isPrefixOf type = true := by
  rw [list, List.mem_map]
  constructor
  · rintro ⟨⟨type, other⟩, hentry, rfl⟩
    obtain ⟨hmem, hlisted⟩ := List.mem_filter.mp hentry
    exact ⟨type, OrderedDict.get_of_mem_entries hmem, hlisted⟩
  · rintro ⟨type, hget, hlisted⟩
    exact ⟨(type, existing),
      List.mem_filter.mpr ⟨OrderedDict.mem_entries_of_get hget, hlisted⟩, rfl⟩

theorem list_types : project.list.map (fun metric => metric.type.getD []) =
    (project.byType.entries.filter
      (fun entry => selfMonitoringMetricPrefix.toList.isPrefixOf entry.1)).map Prod.fst := by
  rw [list, List.map_map]
  apply List.map_congr_left
  rintro ⟨type, other⟩ hentry
  have hget := OrderedDict.get_of_mem_entries (List.mem_filter.mp hentry).1
  rw [Function.comp_apply, project.typed type other hget, Option.getD_some]

theorem existingMetricTypes_list
    (h : selfMonitoringMetricPrefix.toList.isPrefixOf type = true) :
    (existingMetricTypes project.list).get type = project.byType.get type := by
  have hnodup : (project.list.map (fun metric => metric.type.getD [])).Nodup := by
    rw [list_types]
    exact project.byType.nodup.sublist (List.filter_sublist.map Prod.fst)
  cases hget : project.byType.get type with
  | some existing =>
    have hmem : existing ∈ project.list := mem_list_iff.mpr ⟨type, hget, h⟩
    have hlast : (existingMetricTypes project.list).get (existing.type.getD []) = some existing :=
      OrderedDict.get_foldl_set_of_nodup hnodup hmem
    rw [project.typed type existing hget, Option.getD_some] at hlast
    exact hlast
  | none =>
    refine (OrderedDict.get_foldl_set_of_forall_ne ?_).trans (OrderedDict.get_empty type)
    intro other hother htype
    obtain ⟨type', hget', -⟩ := mem_list_iff.mp hother
    rw [project.typed type' other hget', Option.getD_some] at htype
    rw [← htype, hget'] at hget
    contradiction

end ProjectDescriptors

def Agrees (project : ProjectDescriptors) (type : Text) (metricDescriptor : MetricDescriptor) :
    Prop :=
  ∃ existing, project.byType.get type = some existing ∧ differs existing metricDescriptor = false

theorem mem_sfmCreateDescriptorsIfMissing {request : DescriptorRequest}
    (h : request ∈ sfmCreateDescriptorsIfMissing metricMap listed) :
    ∃ type metricDescriptor, (type, metricDescriptor) ∈ metricMap ∧
      (request = .delete type ∨ request = .create metricDescriptor type) := by
  obtain ⟨⟨type, metricDescriptor⟩, hentry, hrequest⟩ := List.mem_flatMap.mp h
  refine ⟨type, metricDescriptor, hentry, ?_⟩
  dsimp only at hrequest
  split at hrequest
  · rw [replaceMetricDescriptorIfRequired] at hrequest
    split_ifs at hrequest
    · simpa using hrequest
    · exact absurd hrequest List.not_mem_nil
  · exact .inr (List.mem_singleton.mp hrequest)

theorem planned_create (hentry : (type, metricDescriptor) ∈ metricMap)
    (h : ∀ existing, (existingMetricTypes listed).get type = some existing →
      differs existing metricDescriptor = true) :
    .create metricDescriptor type ∈ sfmCreateDescriptorsIfMissing metricMap listed := by
  refine List.mem_flatMap.mpr ⟨_, hentry, ?_⟩
  dsimp only
  split
  · next existing hget => simp [replaceMetricDescriptorIfRequired, h existing hget]
  · exact List.mem_singleton_self _

theorem planned_nothing_iff : sfmCreateDescriptorsIfMissing metricMap listed = [] ↔
    ∀ entry ∈ metricMap, ∃ existing, (existingMetricTypes listed).get entry.1 = some existing ∧
      differs existing entry.2 = false := by
  rw [sfmCreateDescriptorsIfMissing, List.flatMap_eq_nil_iff]
  refine forall₂_congr fun entry hentry => ?_
  cases hget : (existingMetricTypes listed).get entry.1 with
  | none => simp
  | some existing =>
    cases hdiffers : differs existing entry.2 <;>
      simp [replaceMetricDescriptorIfRequired, hdiffers]

theorem served_nothing_iff {kind : SfmKind} :
    sfmCreateDescriptorsIfMissing kind.metricMap project.list = [] ↔
      ∀ entry ∈ kind.metricMap, Agrees project entry.1 entry.2 := by
  rw [planned_nothing_iff]
  refine forall₂_congr fun entry hentry => ?_
  have hall : (entry.1, entry.2) ∈ allMetrics := mem_allMetrics hentry
  rw [ProjectDescriptors.existingMetricTypes_list (listed_of_mem_allMetrics hall), Agrees]

end Listing

end GcpMonitor.SelfMonitoring
