import GcpMonitor.Library.Reconciliation
import GcpMonitor.SelfMonitoring.DescriptorRequests

namespace GcpMonitor.SelfMonitoring

open TransitionSystem TaskPool Reconciliation

def DescriptorRequest.toRequest : DescriptorRequest → Request Text
  | .delete metricType => .remove metricType
  | .create _ metricType => .write metricType

def DescriptorState.toState (s : DescriptorState) : State Text MetricDescriptor where
  store := s.project.byType.get
  agendas := s.tasks.map (fun task => task.pending.map DescriptorRequest.toRequest)

def Acceptable (type : Text) (existing : MetricDescriptor) : Prop :=
  ∀ metricDescriptor, (type, metricDescriptor) ∈ allMetrics →
    differs existing metricDescriptor = false

def DescriptorTask.Valid (task : DescriptorTask) : Prop :=
  ∀ metricDescriptor type, .create metricDescriptor type ∈ task.pending →
    (type, metricDescriptor) ∈ task.kind.metricMap

variable {api : MonitoringApi} {s t : DescriptorState} {e : DescriptorEvent} {type : Text}
  {metricDescriptor : MetricDescriptor}

theorem agrees_iff_holds (h : (type, metricDescriptor) ∈ allMetrics) :
    Agrees s.project type metricDescriptor ↔ Holds Acceptable s.toState.store type := by
  refine exists_congr fun existing => and_congr_right fun _ => ?_
  constructor
  · intro hsame other hother
    have hlookup := OrderedDict.lookup_of_mem allMetrics_nodup h
    rw [OrderedDict.lookup_of_mem allMetrics_nodup hother, Option.some.injEq] at hlookup
    rw [hlookup]
    exact hsame
  · intro hacceptable
    exact hacceptable metricDescriptor h

theorem write_mem_toRequest {pending : List DescriptorRequest} :
    .write type ∈ pending.map DescriptorRequest.toRequest ↔
      ∃ metricDescriptor, .create metricDescriptor type ∈ pending := by
  rw [List.mem_map]
  constructor
  · rintro ⟨request, hrequest, heq⟩
    cases request with
    | delete metricType => cases heq
    | create metricDescriptor metricType =>
      cases heq
      exact ⟨metricDescriptor, hrequest⟩
  · rintro ⟨metricDescriptor, hmem⟩
    exact ⟨_, hmem, rfl⟩

theorem restoring_planned (metricMap : List (Text × MetricDescriptor))
    (listed : List MetricDescriptor) :
    Restoring
      ((sfmCreateDescriptorsIfMissing metricMap listed).map DescriptorRequest.toRequest) := by
  rw [sfmCreateDescriptorsIfMissing, List.map_flatMap]
  apply restoring_flatMap
  intro entry hentry
  split
  · rw [replaceMetricDescriptorIfRequired]
    split_ifs
    · exact restoring_replace
    · exact restoring_nil
  · exact restoring_write

theorem valid_planned (kind : SfmKind) (listed : List MetricDescriptor) :
    DescriptorTask.Valid ⟨kind, sfmCreateDescriptorsIfMissing kind.metricMap listed⟩ := by
  intro metricDescriptor type hmem
  obtain ⟨type', other, hentry, heq | heq⟩ := mem_sfmCreateDescriptorsIfMissing hmem
  · cases heq
  · cases heq
    exact hentry

theorem get_put {project : ProjectDescriptors} (h : metricDescriptor.type = some type) :
    (project.put metricDescriptor).byType.get =
      Function.update project.byType.get type (some metricDescriptor) := by
  funext type'
  rw [ProjectDescriptors.put]
  split
  · next hnone =>
    rw [hnone] at h
    contradiction
  · next type'' hsome =>
    rw [hsome, Option.some.injEq] at h
    subst h
    by_cases htype : type' = type''
    · subst htype
      rw [OrderedDict.get_set_self, Function.update_self]
    · rw [OrderedDict.get_set_of_ne _ _ htype, Function.update_of_ne htype]

theorem get_create {project : ProjectDescriptors} (h : metricDescriptor.type = some type) :
    (project.create api metricDescriptor).byType.get = Function.update project.byType.get type
      (some (api.stored (project.byType.get type) metricDescriptor)) := by
  rw [ProjectDescriptors.create, h, Option.bind_some]
  exact get_put ((api.stored_type _ _).trans h)

theorem get_delete {project : ProjectDescriptors} (metricType : Text) :
    (project.delete metricType).byType.get =
      Function.update project.byType.get metricType none := by
  funext type'
  rw [ProjectDescriptors.delete, OrderedDict.get_erase, Function.update_apply]

theorem get_carryOut {project : ProjectDescriptors} {kind : SfmKind} {request : DescriptorRequest}
    (h : DescriptorTask.Valid ⟨kind, [request]⟩) :
    ∃ content, (request.carryOut api project).byType.get =
      Function.update project.byType.get request.toRequest.key content := by
  cases request with
  | delete metricType => exact ⟨none, get_delete metricType⟩
  | create metricDescriptor type =>
    have htype := type_of_mem_allMetrics (mem_allMetrics (h metricDescriptor type (by simp)))
    exact ⟨_, get_create htype⟩

theorem get_carryOut_ite (api : MonitoringApi) (project : ProjectDescriptors) {kind : SfmKind}
    {request : DescriptorRequest} (h : DescriptorTask.Valid ⟨kind, [request]⟩) (carriedOut : Bool) :
    ∃ content, (if carriedOut then request.carryOut api project else project).byType.get =
      Function.update project.byType.get request.toRequest.key content := by
  cases carriedOut with
  | true => exact get_carryOut h
  | false => exact ⟨_, (Function.update_eq_self request.toRequest.key project.byType.get).symm⟩

theorem set_toState {i : ℕ} {project : ProjectDescriptors} {task : DescriptorTask} :
    DescriptorState.toState ⟨project, s.tasks.set i task⟩ =
      ⟨project.byType.get,
        s.toState.agendas.set i (task.pending.map DescriptorRequest.toRequest)⟩ := by
  simp [DescriptorState.toState, List.map_set]

theorem getElem?_agendas {i : ℕ} {task : DescriptorTask} (h : s.tasks[i]? = some task) :
    s.toState.agendas[i]? = some (task.pending.map DescriptorRequest.toRequest) := by
  simp [DescriptorState.toState, h]

theorem DescriptorTask.Valid.head {kind : SfmKind} {request : DescriptorRequest}
    {rest : List DescriptorRequest} (h : DescriptorTask.Valid ⟨kind, request :: rest⟩) :
    DescriptorTask.Valid ⟨kind, [request]⟩ := by
  intro metricDescriptor type hmem
  exact h metricDescriptor type (List.mem_cons.mpr (.inl (List.mem_singleton.mp hmem)))

theorem DescriptorTask.Valid.tail {kind : SfmKind} {request : DescriptorRequest}
    {rest : List DescriptorRequest} (h : DescriptorTask.Valid ⟨kind, request :: rest⟩) :
    DescriptorTask.Valid ⟨kind, rest⟩ := by
  intro metricDescriptor type hmem
  exact h metricDescriptor type (List.mem_cons_of_mem _ hmem)

theorem requested_cases (api : MonitoringApi) {task : DescriptorTask}
    (project : ProjectDescriptors) (answer : RequestAnswer) (h : task.pending ≠ []) :
    ∃ request rest carriedOut, task.pending = request :: rest ∧
      (task.requested api project answer).1 =
        (if carriedOut = true then request.carryOut api project else project) ∧
      (((task.requested api project answer).2 = { task with pending := rest } ∧
          ∃ status, answer = .answered status ∧ carriedOut = request.succeeds status) ∨
        ((task.requested api project answer).2 = { task with pending := [] } ∧
          answer = .raised carriedOut)) := by
  obtain ⟨request, rest, hpending⟩ := List.exists_cons_of_ne_nil h
  cases answer with
  | answered status =>
    exact ⟨request, rest, request.succeeds status, hpending,
      by simp [DescriptorTask.requested, hpending],
      .inl ⟨by simp [DescriptorTask.requested, hpending], status, rfl, rfl⟩⟩
  | raised carriedOut =>
    exact ⟨request, rest, carriedOut, hpending, by simp [DescriptorTask.requested, hpending],
      .inr ⟨by simp [DescriptorTask.requested, hpending], rfl⟩⟩

theorem listed_pending (task : DescriptorTask) (project : ProjectDescriptors)
    (answer : ListAnswer) :
    task.listed project answer = task ∨
      ∃ listed, task.listed project answer =
        ⟨task.kind, sfmCreateDescriptorsIfMissing task.kind.metricMap listed⟩ := by
  cases answer with
  | served => exact .inr ⟨project.list, rfl⟩
  | refused => exact .inr ⟨[], rfl⟩
  | raised => exact .inl rfl

def DescriptorState.Takes (s : DescriptorState) (type : Text) : DescriptorEvent → Prop
  | .list _ _ => False
  | .request i (.answered _) => ∃ task metricDescriptor rest, s.tasks[i]? = some task ∧
      task.pending = .create metricDescriptor type :: rest
  | .request i (.raised _) => ∃ task metricDescriptor, s.tasks[i]? = some task ∧
      .create metricDescriptor type ∈ task.pending
  | .autocreated _ => False

/-- The processes refine parties that bring one store into shape. -/
theorem step_move (hs : ∀ task ∈ s.tasks, task.Valid) (h : s.step api e = some t) :
    (∃ taken, Move s.toState t.toState taken ∧ ∀ type, taken type → s.Takes type e) ∧
      ∀ task ∈ t.tasks, task.Valid := by
  cases e with
  | list i answer =>
    obtain ⟨task, htask, hidle, rfl⟩ := onTask_eq_some.mp h
    have hagenda := getElem?_agendas htask
    rw [hidle] at hagenda
    rcases listed_pending task s.project answer with hsame | ⟨listed, hlisted⟩
    · obtain ⟨hi, rfl⟩ := List.getElem?_eq_some_iff.mp htask
      rw [hsame, List.set_getElem_self]
      exact ⟨⟨_, .idle, fun _ => False.elim⟩, hs⟩
    · rw [hlisted]
      refine ⟨?_, forall_mem_set hs (valid_planned task.kind listed)⟩
      rw [set_toState]
      exact ⟨_, .look hagenda (restoring_planned _ _), fun _ => False.elim⟩
  | request i answer =>
    obtain ⟨task, htask, hne, rfl⟩ := onTask_eq_some.mp h
    have hvalid := hs task (List.mem_of_getElem? htask)
    obtain ⟨request, rest, carriedOut, hpending, hproject, hcase⟩ :=
      requested_cases api s.project answer hne
    obtain ⟨kind, pending⟩ := task
    subst hpending
    obtain ⟨content, hcontent⟩ := get_carryOut_ite api s.project hvalid.head carriedOut
    have hagenda := getElem?_agendas htask
    dsimp only
    rw [set_toState, hproject, hcontent]
    rcases hcase with ⟨htask', status, rfl, -⟩ | ⟨htask', rfl⟩
    · rw [htask']
      refine ⟨⟨_, .request content hagenda, ?_⟩, forall_mem_set hs hvalid.tail⟩
      intro type htaken
      cases request with
      | delete metricType => cases htaken
      | create metricDescriptor metricType =>
        cases htaken
        exact ⟨_, metricDescriptor, rest, htask, rfl⟩
    · rw [htask']
      refine ⟨⟨_, .abandon content hagenda, ?_⟩, forall_mem_set hs ?_⟩
      · intro type htaken
        rw [← List.map_cons] at htaken
        obtain ⟨metricDescriptor, hmem⟩ := write_mem_toRequest.mp htaken
        exact ⟨_, metricDescriptor, htask, hmem⟩
      · intro metricDescriptor type hmem
        exact absurd hmem List.not_mem_nil
  | autocreated metricDescriptor =>
    rw [DescriptorState.step] at h
    split at h
    · contradiction
    · next type htype =>
      obtain ⟨hnone, hstep⟩ := Option.ite_none_right_eq_some.mp h
      cases hstep
      refine ⟨⟨_, ?_, fun _ => False.elim⟩, hs⟩
      change Move s.toState
        ⟨(s.project.put metricDescriptor).byType.get, s.toState.agendas⟩ (fun _ => False)
      rw [get_put htype]
      exact Move.foreign (s := s.toState) metricDescriptor (Option.isNone_iff_eq_none.mp hnone)

end GcpMonitor.SelfMonitoring
