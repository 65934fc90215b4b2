import GcpMonitor.SelfMonitoring.DescriptorMoves

namespace GcpMonitor.SelfMonitoring

open TransitionSystem TaskPool Reconciliation

section Settling

variable {api : MonitoringApi} {s t : DescriptorState} {e : DescriptorEvent} {type : Text}
  {metricDescriptor : MetricDescriptor}

def CreatePending (s : DescriptorState) (type : Text) : Prop :=
  ∃ task ∈ s.tasks, ∃ metricDescriptor, .create metricDescriptor type ∈ task.pending

/-- A `create` of the type is refused, or an exception keeps a process from making it. -/
def DescriptorState.Fails (s : DescriptorState) (type : Text) : DescriptorEvent → Prop
  | .list _ _ => False
  | .request i (.answered status) => 202 < status ∧ s.Takes type (.request i (.answered status))
  | .request i (.raised carriedOut) => s.Takes type (.request i (.raised carriedOut))
  | .autocreated _ => False

/-- A `create` of the type is answered as a success, but the project has a descriptor of the type
with a label that is not wanted. -/
def DescriptorState.MeetsOldLabel (s : DescriptorState) (type : Text)
    (metricDescriptor : MetricDescriptor) : DescriptorEvent → Prop
  | .list _ _ => False
  | .request i (.answered status) =>
    status ≤ 202 ∧ s.Takes type (.request i (.answered status)) ∧
      ∃ old, s.project.byType.get type = some old ∧
        ¬ extractLabelKeys old ⊆ extractLabelKeys metricDescriptor
  | .request _ (.raised _) => False
  | .autocreated _ => False

def Loses (api : MonitoringApi) (type : Text) (metricDescriptor : MetricDescriptor)
    (s : DescriptorState) (e : DescriptorEvent) : Prop :=
  (s.Fails type e ∨ s.MeetsOldLabel type metricDescriptor e) ∧
    ∀ t, s.step api e = some t → ¬ Agrees t.project type metricDescriptor

theorem agrees_of_answered_iff {i status : ℕ} (hvalid : ∀ task ∈ s.tasks, task.Valid)
    (hentry : (type, metricDescriptor) ∈ allMetrics) (hstatus : status ≤ 202)
    (htakes : s.Takes type (.request i (.answered status)))
    (h : s.step api (.request i (.answered status)) = some t) :
    Agrees t.project type metricDescriptor ↔
      ∀ old ∈ s.project.byType.get type,
        extractLabelKeys old ⊆ extractLabelKeys metricDescriptor := by
  obtain ⟨task, htask, hne, rfl⟩ := onTask_eq_some.mp h
  obtain ⟨task', other, rest, htask', hpending⟩ := htakes
  rw [htask, Option.some.injEq] at htask'
  subst htask'
  have hother : (type, other) ∈ allMetrics := by
    apply mem_allMetrics (hvalid task (List.mem_of_getElem? htask) other type _)
    rw [hpending]
    exact List.mem_cons_self
  have hsame : other = metricDescriptor := by
    have hlookup := OrderedDict.lookup_of_mem allMetrics_nodup hother
    rw [OrderedDict.lookup_of_mem allMetrics_nodup hentry, Option.some.injEq] at hlookup
    exact hlookup.symm
  subst hsame
  have hget : (task.requested api s.project (.answered status)).1.byType.get type =
      some (api.stored (s.project.byType.get type) other) := by
    simp only [DescriptorTask.requested, hpending, DescriptorRequest.succeeds, hstatus, decide_true,
      ↓reduceIte, DescriptorRequest.carryOut]
    rw [get_create (type_of_mem_allMetrics hentry), Function.update_self]
  rw [Agrees]
  dsimp only
  rw [hget]
  constructor
  · rintro ⟨existing, hexisting, hsame⟩ old hold
    cases hexisting
    have hkeys : extractLabelKeys (api.stored (s.project.byType.get type) other) =
        extractLabelKeys other := by
      simp only [differs, Bool.or_eq_false_iff, decide_eq_false_iff_not, not_not] at hsame
      exact hsame.1
    exact hkeys ▸ api.keeps_labels _ other old hold
  · intro hlabels
    exact ⟨_, rfl, api.stored_same _ other hlabels⟩

theorem loses_or_agrees (hvalid : ∀ task ∈ s.tasks, task.Valid)
    (hentry : (type, metricDescriptor) ∈ allMetrics) (htakes : s.Takes type e)
    (h : s.step api e = some t) :
    (s.Fails type e ∨ s.MeetsOldLabel type metricDescriptor e) ∨
      Agrees t.project type metricDescriptor := by
  cases e with
  | list i answer => exact htakes.elim
  | request i answer =>
    cases answer with
    | answered status =>
      by_cases hstatus : status ≤ 202
      · rw [agrees_of_answered_iff hvalid hentry hstatus htakes h]
        by_contra hnot
        push Not at hnot
        obtain ⟨⟨-, hmeets⟩, old, hold, hlabels⟩ := hnot
        exact hmeets ⟨hstatus, htakes, old, hold, hlabels⟩
      · exact .inl (.inl ⟨Nat.lt_of_not_le hstatus, htakes⟩)
    | raised carriedOut => exact .inl (.inl htakes)
  | autocreated metricDescriptor => exact htakes.elim

theorem settled_iff (hentry : (type, metricDescriptor) ∈ allMetrics) :
    Settled Acceptable s.toState type ↔
      Agrees s.project type metricDescriptor ∨ CreatePending s type := by
  rw [Settled, ← agrees_iff_holds hentry]
  refine or_congr_right ?_
  constructor
  · rintro ⟨agenda, hagenda, hwrite⟩
    obtain ⟨task, htask, rfl⟩ := List.mem_map.mp hagenda
    exact ⟨task, htask, write_mem_toRequest.mp hwrite⟩
  · rintro ⟨task, htask, hcreate⟩
    exact ⟨_, List.mem_map_of_mem htask, write_mem_toRequest.mpr hcreate⟩

theorem step_settled (hvalid : ∀ task ∈ s.tasks, task.Valid)
    (hrestoring : ∀ agenda ∈ s.toState.agendas, Restoring agenda)
    (hentry : (type, metricDescriptor) ∈ allMetrics)
    (hs : Settled Acceptable s.toState type) (h : s.step api e = some t)
    (hkept : ¬ Loses api type metricDescriptor s e) : Settled Acceptable t.toState type := by
  obtain ⟨⟨taken, hmove, htakes⟩, -⟩ := step_move hvalid h
  refine hmove.settled hrestoring (fun htaken => ?_) hs
  rw [← agrees_iff_holds hentry]
  rcases loses_or_agrees hvalid hentry (htakes type htaken) h with hloses | hagrees
  · by_contra hnot
    refine hkept ⟨hloses, fun t' ht' => ?_⟩
    rw [h, Option.some.injEq] at ht'
    rw [← ht']
    exact hnot
  · exact hagrees

structure DescriptorState.Sound (s : DescriptorState) : Prop where
  valid : ∀ task ∈ s.tasks, task.Valid
  restoring : ∀ agenda ∈ s.toState.agendas, Restoring agenda

theorem DescriptorState.Sound.step (hs : s.Sound) (h : s.step api e = some t) : t.Sound := by
  obtain ⟨⟨taken, hmove, -⟩, hvalid⟩ := step_move hs.valid h
  exact ⟨hvalid, hmove.restoring hs.restoring⟩

theorem sound_of_idle (h : ∀ task ∈ s.tasks, task.pending = []) : s.Sound where
  valid := by
    intro task htask metricDescriptor type hmem
    rw [h task htask] at hmem
    exact absurd hmem List.not_mem_nil
  restoring := by
    intro agenda hagenda
    obtain ⟨task, htask, rfl⟩ := List.mem_map.mp hagenda
    rw [h task htask]
    exact restoring_nil

theorem step_kinds (h : s.step api e = some t) :
    t.tasks.map DescriptorTask.kind = s.tasks.map DescriptorTask.kind := by
  cases e with
  | list i answer =>
    obtain ⟨task, htask, -, rfl⟩ := onTask_eq_some.mp h
    apply map_set_of_eq _ htask
    cases answer <;> rfl
  | request i answer =>
    obtain ⟨task, htask, hne, rfl⟩ := onTask_eq_some.mp h
    obtain ⟨request, rest, carriedOut, -, -, hcase⟩ :=
      requested_cases api s.project answer hne
    apply map_set_of_eq _ htask
    rcases hcase with ⟨htask', -⟩ | ⟨htask', -⟩ <;> rw [htask']
  | autocreated metricDescriptor =>
    rw [DescriptorState.step] at h
    split at h
    · contradiction
    · obtain ⟨-, hstep⟩ := Option.ite_none_right_eq_some.mp h
      cases hstep
      rfl

theorem list_settled {i : ℕ} {answer : ListAnswer} {kind : SfmKind} (hanswer : answer ≠ .raised)
    (hkind : (s.tasks.map DescriptorTask.kind)[i]? = some kind)
    (hentry : (type, metricDescriptor) ∈ kind.metricMap)
    (h : s.step api (.list i answer) = some t) : Settled Acceptable t.toState type := by
  obtain ⟨task, htask, hidle, rfl⟩ := onTask_eq_some.mp h
  rw [List.getElem?_map, htask, Option.map_some, Option.some.injEq] at hkind
  subst hkind
  have hagenda := getElem?_agendas htask
  rw [hidle] at hagenda
  have hall := mem_allMetrics hentry
  have hplanned : ∀ listed, (∀ existing,
      (existingMetricTypes listed).get type = some existing →
        differs existing metricDescriptor = false → Agrees s.project type metricDescriptor) →
      Settled Acceptable (DescriptorState.toState ⟨s.project, s.tasks.set i
        ⟨task.kind, sfmCreateDescriptorsIfMissing task.kind.metricMap listed⟩⟩) type := by
    intro listed hlisted
    rw [set_toState]
    have hplans : Plans Acceptable (fun key => key = type) s.toState.store
        ((sfmCreateDescriptorsIfMissing task.kind.metricMap listed).map
          DescriptorRequest.toRequest) := by
      refine ⟨restoring_planned _ _, ?_⟩
      rintro key rfl
      by_cases hagrees : Agrees s.project key metricDescriptor
      · exact .inl ((agrees_iff_holds hall).mp hagrees)
      · refine .inr (write_mem_toRequest.mpr ⟨metricDescriptor, planned_create hentry ?_⟩)
        intro existing hexisting
        by_contra hsame
        exact hagrees (hlisted existing hexisting (Bool.eq_false_iff.mpr hsame))
    exact settled_of_look hagenda hplans rfl
  cases answer with
  | served =>
    apply hplanned
    intro existing hexisting hsame
    rw [ProjectDescriptors.existingMetricTypes_list (listed_of_mem_allMetrics hall)] at hexisting
    exact ⟨existing, hexisting, hsame⟩
  | refused =>
    apply hplanned
    intro existing hexisting
    rw [existingMetricTypes, List.foldl_nil, OrderedDict.get_empty] at hexisting
    contradiction
  | raised => exact absurd rfl hanswer

theorem run_sound {start : DescriptorState} (hidle : ∀ task ∈ start.tasks, task.pending = [])
    {trace : List DescriptorEvent} (hrun : (descriptorSystem api start).run trace = some s) :
    s.Sound ∧ s.tasks.map DescriptorTask.kind = start.tasks.map DescriptorTask.kind := by
  refine System.invariant (descriptorSystem api start)
    (fun s => s.Sound ∧ s.tasks.map DescriptorTask.kind = start.tasks.map DescriptorTask.kind)
    ⟨sound_of_idle hidle, rfl⟩ ?_ ⟨trace, hrun⟩
  rintro s e t ⟨hs, hkinds⟩ hstep
  exact ⟨hs.step hstep, (step_kinds hstep).trans hkinds⟩

theorem runFrom_settled {start : DescriptorState} {after : List DescriptorEvent} (hs : s.Sound)
    (hentry : (type, metricDescriptor) ∈ allMetrics) (hsettled : Settled Acceptable s.toState type)
    (hrun : (descriptorSystem api start).runFrom s after = some t)
    (hkept : ∀ middle e rest u, after = middle ++ e :: rest →
      (descriptorSystem api start).runFrom s middle = some u →
        ¬ Loses api type metricDescriptor u e) : Settled Acceptable t.toState type := by
  induction after generalizing s with
  | nil =>
    cases hrun
    exact hsettled
  | cons e after ih =>
    obtain ⟨u, hstep, hrest⟩ := Option.bind_eq_some_iff.mp hrun
    have hnext := step_settled hs.valid hs.restoring hentry hsettled hstep
      (hkept [] e after s rfl rfl)
    refine ih (hs.step hstep) hnext hrest ?_
    rintro middle e' rest v rfl hv
    refine hkept (e :: middle) e' rest v rfl ?_
    exact Option.bind_eq_some_iff.mpr ⟨u, hstep, hv⟩

theorem step_foreign {existing : MetricDescriptor} (hs : s.Sound)
    (htype : type ∉ allMetrics.map Prod.fst) (hget : s.project.byType.get type = some existing)
    (h : s.step api e = some t) : t.project.byType.get type = some existing := by
  cases e with
  | list i answer =>
    obtain ⟨task, htask, -, rfl⟩ := onTask_eq_some.mp h
    exact hget
  | request i answer =>
    obtain ⟨task, htask, hne, rfl⟩ := onTask_eq_some.mp h
    obtain ⟨request, rest, carriedOut, hpending, hproject, -⟩ :=
      requested_cases api s.project answer hne
    obtain ⟨kind, pending⟩ := task
    subst hpending
    have hvalid := hs.valid _ (List.mem_of_getElem? htask)
    obtain ⟨content, hcontent⟩ := get_carryOut_ite api s.project hvalid.head carriedOut
    have hne : type ≠ request.toRequest.key := by
      rintro rfl
      apply htype
      have hwrite : .write request.toRequest.key ∈
          (request :: rest).map DescriptorRequest.toRequest := by
        cases request with
        | create metricDescriptor type => exact List.mem_map_of_mem List.mem_cons_self
        | delete metricType =>
          have hagenda := hs.restoring _ (List.mem_of_getElem? (getElem?_agendas htask))
          exact List.mem_cons_of_mem _ ((restoring_cons.mp hagenda).1 metricType rfl)
      obtain ⟨metricDescriptor, hmem⟩ := write_mem_toRequest.mp hwrite
      exact List.mem_map_of_mem (mem_allMetrics (hvalid metricDescriptor _ hmem))
    dsimp only
    rw [hproject, hcontent, Function.update_of_ne hne, hget]
  | autocreated metricDescriptor =>
    rw [DescriptorState.step] at h
    split at h
    · contradiction
    · next type' htype' =>
      obtain ⟨hnone, hstep⟩ := Option.ite_none_right_eq_some.mp h
      cases hstep
      rw [get_put htype', Function.update_of_ne, hget]
      rintro rfl
      rw [hget] at hnone
      contradiction

theorem run_foreign {start : DescriptorState} (hidle : ∀ task ∈ start.tasks, task.pending = [])
    {trace : List DescriptorEvent} (hrun : (descriptorSystem api start).run trace = some s)
    {existing : MetricDescriptor} (htype : type ∉ allMetrics.map Prod.fst)
    (hget : start.project.byType.get type = some existing) :
    s.project.byType.get type = some existing := by
  refine (System.invariant (descriptorSystem api start)
    (fun s => s.Sound ∧ s.project.byType.get type = some existing)
    ⟨sound_of_idle hidle, hget⟩ ?_ ⟨trace, hrun⟩).2
  rintro s e t ⟨hs, hget⟩ hstep
  exact ⟨hs.step hstep, step_foreign hs htype hget hstep⟩

end Settling

section

variable (api : MonitoringApi) (start s : DescriptorState)

/-- Any number of processes, one of which has listed the descriptors: whatever the others do, a
descriptor of its map is there or is going to be created, until a failure loses it. -/
theorem descriptors_settle (hidle : ∀ task ∈ start.tasks, task.pending = [])
    (before after : List DescriptorEvent) (i : ℕ) (answer : ListAnswer)
    (hrun : (descriptorSystem api start).run (before ++ .list i answer :: after) = some s)
    (hanswer : answer ≠ .raised) (kind : SfmKind)
    (hkind : (start.tasks.map DescriptorTask.kind)[i]? = some kind)
    (type : Text) (metricDescriptor : MetricDescriptor)
    (hentry : (type, metricDescriptor) ∈ kind.metricMap)
    (hkept : ∀ middle e rest u, after = middle ++ e :: rest →
      (descriptorSystem api start).run (before ++ .list i answer :: middle) = some u →
        ¬ Loses api type metricDescriptor u e) :
    Agrees s.project type metricDescriptor ∨ CreatePending s type := by
  have hsplit : ∀ rest, (descriptorSystem api start).run (before ++ .list i answer :: rest) =
      ((descriptorSystem api start).run (before ++ [.list i answer])).bind
        (fun u => (descriptorSystem api start).runFrom u rest) := by
    intro rest
    rw [System.run, ← List.singleton_append, ← List.append_assoc, System.runFrom_append]
    rfl
  rw [hsplit] at hrun
  obtain ⟨u, hu, hafter⟩ := Option.bind_eq_some_iff.mp hrun
  obtain ⟨r, hr, hlist⟩ := System.run_snoc_some _ hu
  obtain ⟨hrsound, hkinds⟩ := run_sound hidle hr
  have hstep : r.step api (.list i answer) = some u := hlist
  have husound := hrsound.step hstep
  have husettled := list_settled hanswer (hkinds ▸ hkind) hentry hstep
  apply (settled_iff (mem_allMetrics hentry)).mp
  refine runFrom_settled husound (mem_allMetrics hentry) husettled hafter ?_
  intro middle e rest v hmiddle hv
  refine hkept middle e rest v hmiddle ?_
  rw [hsplit, hu]
  exact hv

def keptLabels (existing : Option MetricDescriptor) (metricDescriptor : MetricDescriptor) :
    List LabelDescriptor :=
  ((existing.bind MetricDescriptor.labels).getD []).filter
    (fun label => !(extractLabelKeys metricDescriptor).contains (label.key.getD []))

theorem mem_extractLabelKeys {metricDescriptor : MetricDescriptor} {key : Text} :
    key ∈ extractLabelKeys metricDescriptor ↔
      ∃ label ∈ metricDescriptor.labels.getD [], label.key.getD [] = key := by
  rw [extractLabelKeys, List.mem_insertionSort, List.mem_map]

def keepingApi : MonitoringApi where
  stored existing metricDescriptor :=
    { metricDescriptor with
      labels := some (metricDescriptor.labels.getD [] ++ keptLabels existing metricDescriptor) }
  stored_type _ _ := rfl
  stored_same existing metricDescriptor hlabels := by
    have hkept : keptLabels existing metricDescriptor = [] := by
      rw [keptLabels, List.filter_eq_nil_iff]
      intro label hlabel
      cases existing with
      | none => exact absurd hlabel List.not_mem_nil
      | some old => simpa using hlabels old rfl (mem_extractLabelKeys.mpr ⟨label, hlabel, rfl⟩)
    simp [differs, extractLabelKeys, hkept]
  keeps_labels existing metricDescriptor := by
    rintro old rfl key hkey
    rw [mem_extractLabelKeys, Option.getD_some]
    obtain ⟨label, hlabel, rfl⟩ := mem_extractLabelKeys.mp hkey
    by_cases hwanted : label.key.getD [] ∈ extractLabelKeys metricDescriptor
    · obtain ⟨same, hsame, heq⟩ := mem_extractLabelKeys.mp hwanted
      exact ⟨same, List.mem_append_left _ hsame, heq⟩
    · refine ⟨label, List.mem_append_right _ (List.mem_filter.mpr ⟨hlabel, ?_⟩), rfl⟩
      simpa using hwanted

def outdatedConnectivity : MetricDescriptor :=
  { selfMonitoringConnectivityMetricDescriptor with displayName := none }

def outdatedState : DescriptorState :=
  ⟨ProjectDescriptors.empty.put outdatedConnectivity, [⟨.metrics, []⟩, ⟨.metrics, []⟩]⟩

theorem descriptors_settle_twice_deleted :
    let after : List DescriptorEvent :=
      [.list 1 .served, .request 0 (.answered 200), .request 0 (.answered 200),
        .request 1 (.answered 200), .request 1 (.answered 200)]
    ∃ s, (descriptorSystem keepingApi outdatedState).run ([] ++ .list 0 .served :: after) = some s ∧
      (Agrees s.project selfMonitoringConnectivityMetricType
          selfMonitoringConnectivityMetricDescriptor ∨
        CreatePending s selfMonitoringConnectivityMetricType) := by
  intro after
  obtain ⟨s, hs⟩ : ∃ s, (descriptorSystem keepingApi outdatedState).run
      ([] ++ .list 0 .served :: after) = some s := ⟨_, rfl⟩
  refine ⟨s, hs, descriptors_settle keepingApi outdatedState s (by decide) [] after 0 .served hs
    (by decide) .metrics rfl _ _ (by decide) ?_⟩
  rintro middle e rest u hafter hu ⟨hfails | hmeets, -⟩
  · have hmem : e ∈ after := by simp [hafter]
    simp only [after, List.mem_cons, List.not_mem_nil, or_false] at hmem
    rcases hmem with rfl | rfl | rfl | rfl | rfl
    · exact hfails
    all_goals exact absurd hfails.1 (by decide)
  · have hold : ∃ old, u.project.byType.get selfMonitoringConnectivityMetricType = some old ∧
        ¬ extractLabelKeys old ⊆ extractLabelKeys selfMonitoringConnectivityMetricDescriptor := by
      cases e with
      | list i answer => exact hmeets.elim
      | request i answer =>
        cases answer with
        | answered status => exact hmeets.2.2
        | raised carriedOut => exact hmeets.elim
      | autocreated metricDescriptor => exact hmeets.elim
    obtain ⟨old, hget, hlabels⟩ := hold
    have hall : ∀ k < 5, ((descriptorSystem keepingApi outdatedState).run
        (.list 0 .served :: after.take k)).all (fun u =>
          (u.project.byType.get selfMonitoringConnectivityMetricType).all (fun old =>
            extractLabelKeys old ⊆ extractLabelKeys selfMonitoringConnectivityMetricDescriptor)) =
          true := by
      decide +kernel
    have hlength : middle.length < 5 := by
      have := congrArg List.length hafter
      simp only [after, List.length_append, List.length_cons, List.length_nil] at this
      omega
    have hwanted := hall _ hlength
    rw [hafter, List.take_left, ← List.nil_append (_ :: middle), hu, Option.all_some, hget,
      Option.all_some, decide_eq_true_eq] at hwanted
    exact hlabels hwanted

/-- A run leaves the descriptors of other metrics alone, and a listing in its end leads to no
request exactly when every descriptor of the map is there. -/
theorem descriptors_left_alone (hidle : ∀ task ∈ start.tasks, task.pending = [])
    (trace : List DescriptorEvent)
    (hrun : (descriptorSystem api start).run trace = some s) :
    (∀ type existing, type ∉ allMetrics.map Prod.fst →
      start.project.byType.get type = some existing →
        s.project.byType.get type = some existing) ∧
    ∀ i t task, s.step api (.list i .served) = some t → t.tasks[i]? = some task →
      (task.pending = [] ↔
        ∀ entry ∈ task.kind.metricMap, Agrees t.project entry.1 entry.2) := by
  constructor
  · intro type existing htype hget
    exact run_foreign hidle hrun htype hget
  · intro i t task hlist htask
    obtain ⟨task', htask', -, rfl⟩ := onTask_eq_some.mp hlist
    dsimp only at htask
    rw [List.getElem?_set_self (List.getElem?_eq_some_iff.mp htask').1, Option.some.injEq] at htask
    subst htask
    exact served_nothing_iff

def foreignDescriptor : MetricDescriptor where
  type := some "custom.googleapis.com/dynatrace/other".toList
  valueType := some "INT64".toList
  metricKind := some "GAUGE".toList
  displayName := some "Other".toList
  labels := none

theorem descriptors_left_alone_after_replacement :
    let start : DescriptorState :=
      ⟨(ProjectDescriptors.empty.put foreignDescriptor).put outdatedConnectivity, [⟨.metrics, []⟩]⟩
    ∃ s t, (descriptorSystem keepingApi start).run
        (.list 0 .served :: List.replicate 5 (.request 0 (.answered 200))) = some s ∧
      s.project.byType.get "custom.googleapis.com/dynatrace/other".toList =
        some foreignDescriptor ∧
      s.step keepingApi (.list 0 .served) = some t ∧
      ∀ entry ∈ SfmKind.metrics.metricMap, Agrees t.project entry.1 entry.2 := by
  intro start
  obtain ⟨s, hs⟩ : ∃ s, (descriptorSystem keepingApi start).run
      (.list 0 .served :: List.replicate 5 (.request 0 (.answered 200))) = some s := ⟨_, rfl⟩
  obtain ⟨hforeign, hlisting⟩ := descriptors_left_alone keepingApi start s (by decide) _ hs
  obtain ⟨t, hstep, htasks⟩ : ∃ t, s.step keepingApi (.list 0 .served) = some t ∧
      t.tasks[0]? = some ⟨.metrics, []⟩ := by
    cases hs
    exact ⟨_, rfl, by decide +kernel⟩
  exact ⟨s, t, hs, hforeign _ _ (by decide +kernel) rfl, hstep,
    (hlisting 0 t _ hstep htasks).mp rfl⟩

end

end GcpMonitor.SelfMonitoring
