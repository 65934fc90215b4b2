import GcpMonitor.Metrics.PushOrder

namespace GcpMonitor.Metrics

open Python TransitionSystem TaskPool

variable {Line Payload : Type}

namespace Call

variable {S : IngestSettings Line Payload} {call call' : Call Line}
  {context context' : PushContext}

structure Concluded (call : Call Line) : Prop where
  done : call.result.isSome = true →
    0 < call.raiseCount ∨ ∀ task ∈ call.tasks, task.phase.endedOk = true
  returns : ∀ result, call.result = some result → result = .ok ()

theorem handleOutcome_ok (context : PushContext) (outcome : Except PyError Unit) :
    (handleOutcome context outcome).1 = .ok () := by
  unfold handleOutcome
  split <;> rfl

theorem sequentialOutcome_eq_some {tasks : List (BatchTask Line)} {outcome : Except PyError Unit}
    (h : sequentialOutcome tasks = some outcome) :
    0 < (tasks.map (fun task => Call.raises task.phase)).sum ∨
      ∀ task ∈ tasks, task.phase.endedOk = true := by
  induction tasks with
  | nil =>
    right
    intro task hmem
    cases hmem
  | cons task tasks ih =>
    rw [List.map_cons, List.sum_cons]
    unfold sequentialOutcome at h
    split at h
    · next value hphase =>
      obtain hraised | hended := ih h
      · exact .inl (by omega)
      · right
        intro other hmem
        obtain rfl | hmem := List.mem_cons.mp hmem
        · rw [hphase]
          rfl
        · exact hended other hmem
    · next e hphase =>
      have hone : Call.raises task.phase = 1 := by
        rw [hphase]
        rfl
      exact .inl (by omega)
    · cases h

theorem endedOk_of_isOver {phase : BatchPhase} (hover : phase.isOver = true)
    (hskipped : phase ≠ .skipped) (hraises : Call.raises phase = 0) : phase.endedOk = true := by
  cases phase with
  | skipped => contradiction
  | pushing phase =>
    cases phase with
    | ended result =>
      cases result with
      | error e => cases hraises
      | ok value => rfl
    | _ => cases hover
  | _ => cases hover

theorem gatherOutcome_eq_some {tasks : List (BatchTask Line)} {outcome : Except PyError Unit}
    (h : gatherOutcome tasks = some outcome) : ∀ task ∈ tasks, task.phase.isOver = true := by
  obtain ⟨hover, -⟩ := Option.ite_none_right_eq_some.mp h
  exact List.all_eq_true.mp hover

theorem done_of_outcome {outcome : Except PyError Unit} (hr : call.Recorded S)
    (h : call.Ordered S) (houtcome : call.outcome S = some outcome) :
    0 < call.raiseCount ∨ ∀ task ∈ call.tasks, task.phase.endedOk = true := by
  rw [hr.raises]
  unfold Call.outcome at houtcome
  split_ifs at houtcome with hmode
  · exact sequentialOutcome_eq_some houtcome
  · have hover := gatherOutcome_eq_some houtcome
    by_cases hraised : 0 < call.raiseCount
    · exact .inl (hr.raises ▸ hraised)
    · right
      intro task hmem
      apply endedOk_of_isOver (hover task hmem)
      · intro hskipped
        have habort := h.aborted (not_le.mp hmode) task hmem hskipped
        exact hraised ((h.abort (not_le.mp hmode)).mp habort)
      · by_contra hraises
        apply hraised
        rw [hr.raises]
        exact sum_map_pos hmem (Nat.pos_of_ne_zero hraises)

theorem Concluded.step (hr : call.Recorded S) (h : call.Ordered S) (hnone : call.result = none)
    (hm : call.Moves S context call' context') : call'.Concluded := by
  obtain ⟨i, batch, old, new, added, ha⟩ | ⟨outcome, houtcome, rfl⟩ := hm.advances
  · have hresult : call'.result = none := ha.result.trans hnone
    constructor
    · intro hsome
      rw [hresult] at hsome
      cases hsome
    · intro result hsome
      rw [hresult] at hsome
      cases hsome
  · constructor
    · intro _
      have hdone := done_of_outcome hr h houtcome
      exact hdone
    · intro result hresult
      cases hresult
      exact handleOutcome_ok context outcome

structure Valid (S : IngestSettings Line Payload) (call : Call Line) : Prop where
  recorded : call.Recorded S
  ordered : call.Ordered S
  concluded : call.Concluded

theorem Valid.step {e : CallEvent} (h : call.Valid S)
    (hs : call.step S context e = some (call', context')) : call'.Valid S := by
  obtain ⟨hnone, hm⟩ := moves_of_step hs
  exact ⟨h.recorded.step hm, h.ordered.step h.recorded hm,
    Concluded.step h.recorded h.ordered hnone hm⟩

theorem Valid.skip (S : IngestSettings Line Payload) (projectId : Text)
    (fetchMetricResults : List Line) (skipped : Bool)
    (hempty : skipped = false → fetchMetricResults = []) :
    (⟨projectId, fetchMetricResults, skipped, [], false, 0, some (.ok ()), []⟩ :
      Call Line).Valid S where
  recorded := by
    refine ⟨?_, ?_, rfl, rfl⟩
    · intro hskipped
      obtain rfl := hempty hskipped
      rfl
    · intro _
      rfl
  ordered := by
    refine ⟨?_, ?_, ?_, ?_, ?_, List.Pairwise.nil⟩
    · intro _
      exact List.Pairwise.nil
    · intro _ task hmem
      cases hmem
    · intro _ hne
      exact absurd rfl hne
    · intro _
      simp [raiseCount]
    · intro _ task hmem
      cases hmem
  concluded := by
    constructor
    · intro _
      right
      intro task hmem
      cases hmem
    · rintro _ ⟨⟩
      rfl

theorem sum_created {M : Type} [AddCommMonoid M] {tasks : List (BatchTask Line)}
    {f : BatchTask Line → M} (hcreated : ∀ task ∈ tasks, task.phase = .created)
    (hf : ∀ batch, f ⟨batch, .created⟩ = 0) : (tasks.map f).sum = 0 := by
  apply List.sum_eq_zero
  intro x hx
  obtain ⟨⟨batch, phase⟩, hmem, rfl⟩ := List.mem_map.mp hx
  obtain rfl := hcreated _ hmem
  exact hf batch

theorem Valid.start (S : IngestSettings Line Payload) (context : PushContext) (projectId : Text)
    (fetchMetricResults : List Line) :
    (Call.start S context projectId fetchMetricResults).Valid S := by
  unfold Call.start
  split_ifs with hconnectivity hempty
  · apply Valid.skip
    intro hskipped
    cases hskipped
  · apply Valid.skip
    intro _
    exact hempty
  · have hcreated : ∀ task ∈ (makeBatches S.metricIngestBatchSize fetchMetricResults).map
        (fun batch => (⟨batch, .created⟩ : BatchTask Line)), task.phase = .created := by
      intro task hmem
      obtain ⟨batch, -, rfl⟩ := List.mem_map.mp hmem
      rfl
    refine ⟨⟨?_, ?_, ?_, ?_⟩, ⟨?_, ?_, ?_, ?_, ?_, List.Pairwise.nil⟩, ⟨?_, ?_⟩⟩
    · intro _
      simp [List.map_map, Function.comp_def]
    · intro j
      simp only [List.getElem?_map]
      cases (makeBatches S.metricIngestBatchSize fetchMetricResults)[j]? <;> rfl
    · exact (sum_created hcreated (fun _ => rfl)).symm
    · exact (sum_created hcreated (fun _ => rfl)).symm
    · intro _
      apply List.Pairwise.imp_of_mem (R := fun _ _ => True) _
        (List.pairwise_of_forall (fun _ _ => trivial))
      intro earlier later _ hlater _ hstarted
      rw [hcreated later hlater] at hstarted
      cases hstarted
    · intro _ task hmem
      exact .inl (hcreated task hmem)
    · intro _ _
      exact congrArg (fun n => S.metricIngestConcurrentPushes.toNat + n)
        (sum_created hcreated (fun _ => rfl))
    · intro _
      simp [raiseCount]
    · intro _ task hmem hskipped
      rw [hcreated task hmem] at hskipped
      cases hskipped
    · rintro ⟨⟩
    · rintro _ ⟨⟩

end Call

end GcpMonitor.Metrics
