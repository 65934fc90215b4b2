import GcpMonitor.Metrics.PushInvariants
import Mathlib.Algebra.BigOperators.Group.Multiset.Basic

namespace GcpMonitor.Metrics

open Python TransitionSystem TaskPool
open Logs (DynatraceConnectivity)

variable {Line Payload : Type} {S : IngestSettings Line Payload}

namespace Call

variable {call call' : Call Line} {context context' : PushContext}

theorem sum_inProgress_le_one {tasks : List (BatchTask Line)} (h : InTurn tasks) :
    (tasks.map (fun task => task.phase.inProgress.toNat)).sum ≤ 1 := by
  induction tasks with
  | nil => exact Nat.zero_le _
  | cons task tasks ih =>
    obtain ⟨hfirst, hrest⟩ := List.pairwise_cons.mp h
    have hbefore := ih hrest
    rw [List.map_cons, List.sum_cons]
    by_cases hlater : ∀ later ∈ tasks, later.phase.isStarted = false
    · have hzero : (tasks.map (fun task => task.phase.inProgress.toNat)).sum = 0 := by
        apply List.sum_eq_zero
        intro x hx
        obtain ⟨later, hmem, rfl⟩ := List.mem_map.mp hx
        have hnot := hlater later hmem
        cases hphase : later.phase with
        | pushing phase =>
          rw [hphase] at hnot
          cases hnot
        | _ => rfl
      have hone := Bool.toNat_le task.phase.inProgress
      omega
    · obtain ⟨later, hmem, hstarted⟩ : ∃ later ∈ tasks, later.phase.isStarted = true := by
        simpa using hlater
      have hended := hfirst later hmem hstarted
      have hzero : task.phase.inProgress.toNat = 0 := by
        cases hphase : task.phase with
        | pushing phase =>
          cases phase with
          | ended result => rfl
          | _ =>
            rw [hphase] at hended
            cases hended
        | _ => rfl
      omega

theorem Valid.inProgress_le (h : call.Valid S) :
    (call.inProgress : ℤ) ≤ max 1 S.metricIngestConcurrentPushes := by
  by_cases hmode : S.metricIngestConcurrentPushes ≤ 1
  · have hone := sum_inProgress_le_one (h.ordered.sequential hmode)
    rw [Call.inProgress]
    omega
  · by_cases hnil : call.tasks = []
    · rw [Call.inProgress, hnil, List.map_nil, List.sum_nil]
      omega
    · have hpermits := h.ordered.permits (not_le.mp hmode) hnil
      omega

theorem Valid.starts_le (h : call.Valid S) (i : ℕ) :
    call.history.countP (Happening.startsBatch i) ≤ 1 := by
  rw [h.recorded.starts]
  cases call.tasks[i]? with
  | none => exact Nat.zero_le _
  | some task => exact Bool.toNat_le _

theorem isStarted_of_endedOk {phase : BatchPhase} (h : phase.endedOk = true) :
    phase.isStarted = true := by
  cases phase with
  | pushing phase => rfl
  | _ => cases h

theorem Valid.pushed (h : call.Valid S) (hskipped : call.skipped = false)
    (hdone : call.result.isSome = true) (hnone : call.raiseCount = 0) :
    (∀ i < (makeBatches S.metricIngestBatchSize call.fetchMetricResults).length,
      call.history.countP (Happening.startsBatch i) = 1) ∧
    (call.history.filterMap Happening.pushed : Multiset (List Line)) =
      makeBatches S.metricIngestBatchSize call.fetchMetricResults := by
  have hbatches := h.recorded.batches hskipped
  obtain hraised | hended := h.concluded.done hdone
  · omega
  rw [← hbatches]
  constructor
  · intro i hi
    rw [List.length_map] at hi
    rw [h.recorded.starts, List.getElem?_eq_getElem hi, Option.elim_some,
      isStarted_of_endedOk (hended _ (List.getElem_mem hi))]
    rfl
  · rw [h.recorded.pushed]
    have hone : call.tasks.map pushedBatch =
        (call.tasks.map BatchTask.batch).map (fun batch => ({batch} : Multiset (List Line))) := by
      rw [List.map_map]
      apply List.map_congr_left
      intro task hmem
      rw [pushedBatch, if_pos (hended task hmem)]
      rfl
    rw [hone, ← Multiset.sum_coe, ← Multiset.map_coe, Multiset.sum_map_singleton]

def phaseStepsLeft : BatchPhase → ℕ
  | .created => 10
  | .waiting => 9
  | .skipped => 0
  | .pushing phase => phase.stepsLeft

def stepsLeft (call : Call Line) : ℕ :=
  (call.tasks.map (fun task => phaseStepsLeft task.phase)).sum +
    if call.result.isSome then 0 else 1

theorem stepsLeft_start (R : PushRuntime Line Payload) (batch : List Line) :
    (PushPhase.start R batch).stepsLeft < 9 := by
  unfold PushPhase.start
  split
  · decide
  · exact Nat.succ_pos _

theorem Advances.stepsLeft_lt {i : ℕ} {batch : List Line} {old new : BatchPhase}
    {added : List (Happening Line)} (ha : Advances call call' i batch old new added)
    (hlt : phaseStepsLeft new < phaseStepsLeft old) : call'.stepsLeft < call.stepsLeft := by
  have hsum : ((call.tasks.set i ⟨batch, new⟩).map
      (fun task => phaseStepsLeft task.phase)).sum <
        (call.tasks.map (fun task => phaseStepsLeft task.phase)).sum :=
    sum_map_set_lt ha.task hlt
  rw [stepsLeft, stepsLeft, ha.tasks, ha.result]
  omega

theorem Moves.stepsLeft_lt (hnone : call.result = none)
    (hm : call.Moves S context call' context') : call'.stepsLeft < call.stepsLeft := by
  cases hm with
  | wait _ htask =>
    apply (advances_setPhase htask .wait).stepsLeft_lt
    decide
  | skip _ htask hphase =>
    apply (advances_setPhase htask (.skip hphase)).stepsLeft_lt
    obtain rfl | rfl := hphase
    · decide
    · decide
  | @next i batch _ htask =>
    apply (advances_startPush htask (.inl rfl) call.permits).stepsLeft_lt
    have := stepsLeft_start S.toPushRuntime batch
    simp only [phaseStepsLeft]
    omega
  | @acquire i batch _ htask =>
    apply (advances_startPush htask (.inr rfl) _).stepsLeft_lt
    exact stepsLeft_start S.toPushRuntime batch
  | resume htask hresume =>
    apply (advances_runPush htask (hasEnded_of_resume hresume) _).stepsLeft_lt
    exact PushPhase.resume_stepsLeft hresume
  | complete houtcome =>
    rw [stepsLeft, stepsLeft, hnone]
    simp only [Option.isSome_some, if_true, Option.isSome_none, Bool.false_eq_true, if_false]
    omega

theorem exists_next_of_sequentialOutcome {tasks : List (BatchTask Line)}
    (hreached : ∀ task ∈ tasks, task.phase = .created ∨ task.phase.isStarted = true)
    (hidle : ∀ task ∈ tasks, task.phase.inProgress = false)
    (hnone : sequentialOutcome tasks = none) :
    ∃ i batch, tasks[i]? = some ⟨batch, .created⟩ ∧
      ∀ task ∈ tasks.take i, task.phase.endedOk = true := by
  induction tasks with
  | nil => cases hnone
  | cons task tasks ih =>
    obtain ⟨batch, phase⟩ := task
    have hcreated := hreached _ List.mem_cons_self
    have hended := hidle _ List.mem_cons_self
    unfold sequentialOutcome at hnone
    split at hnone
    · next value hphase =>
      dsimp only at hphase
      obtain ⟨i, batch', hi, hbefore⟩ :=
        ih (fun task hmem => hreached task (List.mem_cons_of_mem _ hmem))
          (fun task hmem => hidle task (List.mem_cons_of_mem _ hmem)) hnone
      refine ⟨i + 1, batch', hi, ?_⟩
      intro task hmem
      rw [List.take_succ_cons] at hmem
      obtain rfl | hmem := List.mem_cons.mp hmem
      · rw [hphase]
        rfl
      · exact hbefore task hmem
    · cases hnone
    · next hok herror =>
      dsimp only at hok herror hcreated hended
      obtain rfl | hstarted := hcreated
      · refine ⟨0, batch, rfl, ?_⟩
        intro task hmem
        cases hmem
      · cases phase with
        | pushing phase =>
          cases phase with
          | ended result =>
            cases result with
            | ok value => exact absurd rfl (hok value)
            | error e => exact absurd rfl (herror e)
          | _ => cases hended
        | _ => cases hstarted

theorem inProgress_eq_zero_of_idle (hidle : ∀ task ∈ call.tasks, task.phase.inProgress = false) :
    call.inProgress = 0 := by
  apply List.sum_eq_zero
  intro x hx
  obtain ⟨task, hmem, rfl⟩ := List.mem_map.mp hx
  rw [hidle task hmem]
  rfl

section

variable (hnone : call.result = none) {i : ℕ} {batch : List Line}

include hnone

theorem exists_complete {outcome : Except PyError Unit} (houtcome : call.outcome S = some outcome) :
    ∃ e next, call.step S context e = some next := by
  let handled := handleOutcome context outcome
  refine ⟨.complete, ({ call with result := some handled.1 }, handled.2), ?_⟩
  simp only [Call.step, hnone, Option.isSome_none, Bool.false_eq_true, if_false, complete, houtcome,
    Option.map_some, handled]

theorem exists_next (hmode : S.metricIngestConcurrentPushes ≤ 1)
    (htask : call.tasks[i]? = some ⟨batch, .created⟩)
    (hbefore : ∀ task ∈ call.tasks.take i, task.phase.endedOk = true) :
    ∃ e next, call.step S context e = some next := by
  refine ⟨.next i, (call.startPush S i batch, context), ?_⟩
  simp only [Call.step, hnone, Option.isSome_none, Bool.false_eq_true, if_false, if_pos hmode,
    nextBatch, htask, if_pos (List.all_eq_true.mpr hbefore), Option.map_some]

theorem exists_wake (hmode : ¬ S.metricIngestConcurrentPushes ≤ 1)
    (htask : call.tasks[i]? = some ⟨batch, .created⟩) :
    ∃ e next, call.step S context e = some next := by
  let phase : BatchPhase := if call.abort then .skipped else .waiting
  refine ⟨.wake i, (call.setPhase i batch phase, context), ?_⟩
  simp only [Call.step, hnone, Option.isSome_none, Bool.false_eq_true, if_false, if_neg hmode,
    wakeTask, htask, Option.map_some, phase]

theorem exists_acquire (hmode : ¬ S.metricIngestConcurrentPushes ≤ 1)
    (htask : call.tasks[i]? = some ⟨batch, .waiting⟩) (hpermits : call.permits ≠ 0) :
    ∃ e next, call.step S context e = some next := by
  refine ⟨.acquire i, ?_⟩
  simp only [Call.step, hnone, Option.isSome_none, Bool.false_eq_true, if_false, if_neg hmode,
    acquireTask, htask, if_neg hpermits]
  split_ifs
  · exact ⟨_, rfl⟩
  · exact ⟨_, rfl⟩

theorem exists_resumeTask {phase : PushPhase}
    (htask : call.tasks[i]? = some ⟨batch, .pushing phase⟩) (hphase : phase.hasEnded = false) :
    ∃ e next, call.step S context e = some next := by
  obtain ⟨input, next, hresume⟩ : ∃ input next,
      phase.resume S.toPushRuntime call.projectId batch context input = some next :=
    PushPhase.exists_resume hphase
  refine ⟨.resume i input, (call.runPush S i batch next.1, next.2), ?_⟩
  simp only [Call.step, hnone, Option.isSome_none, Bool.false_eq_true, if_false,
    resumeTask, htask, hresume, Option.map_some]

end

theorem Valid.exists_step (h : call.Valid S) (hnone : call.result = none)
    (context : PushContext) : ∃ e next, call.step S context e = some next := by
  by_cases hidle : ∀ task ∈ call.tasks, task.phase.inProgress = false
  · by_cases hmode : S.metricIngestConcurrentPushes ≤ 1
    · cases houtcome : sequentialOutcome call.tasks with
      | some outcome => exact exists_complete hnone ((if_pos hmode).trans houtcome)
      | none =>
        obtain ⟨i, batch, htask, hbefore⟩ := exists_next_of_sequentialOutcome
          (h.ordered.reached hmode) hidle houtcome
        exact exists_next hnone hmode htask hbefore
    · by_cases hover : ∀ task ∈ call.tasks, task.phase.isOver = true
      · apply exists_complete hnone
        exact (if_neg hmode).trans (if_pos (List.all_eq_true.mpr hover))
      · obtain ⟨task, hmem, hnot⟩ : ∃ task ∈ call.tasks, task.phase.isOver = false := by
          simpa using hover
        obtain ⟨i, hi⟩ := List.mem_iff_getElem?.mp hmem
        obtain ⟨batch, phase⟩ := task
        cases phase with
        | created => exact exists_wake hnone hmode hi
        | waiting =>
          apply exists_acquire hnone hmode hi
          have hpermits := h.ordered.permits (not_le.mp hmode) (List.ne_nil_of_mem hmem)
          rw [inProgress_eq_zero_of_idle hidle] at hpermits
          omega
        | skipped => cases hnot
        | pushing phase => exact exists_resumeTask hnone hi hnot
  · obtain ⟨task, hmem, hprogress⟩ : ∃ task ∈ call.tasks, task.phase.inProgress = true := by
      simpa using hidle
    obtain ⟨i, hi⟩ := List.mem_iff_getElem?.mp hmem
    obtain ⟨batch, phase⟩ := task
    cases phase with
    | pushing phase => exact exists_resumeTask hnone hi (Bool.not_eq_true' _ ▸ hprogress)
    | _ => cases hprogress

theorem Moves.connectivity (hm : call.Moves S context call' context') :
    context'.dynatraceConnectivity = context.dynatraceConnectivity ∨
      context'.dynatraceConnectivity ≠ .ok := by
  cases hm with
  | resume htask hresume => exact PushPhase.resume_connectivity hresume
  | @complete outcome houtcome =>
    unfold handleOutcome
    split
    · exact .inl rfl
    · right
      rintro ⟨⟩
    · exact .inl rfl
  | _ => exact .inl rfl

def Undisturbed (call : Call Line) : Prop :=
  call.skipped = false ∧ call.result.isSome = true ∧ call.raiseCount = 0

instance (call : Call Line) : Decidable call.Undisturbed :=
  inferInstanceAs (Decidable (_ ∧ _ ∧ _))

end Call

namespace PollingState

variable {s t : PollingState Line}

theorem step_cases {e : PollingEvent Line} (h : s.step S e = some t) :
    (∃ projectId results,
      t = { s with calls := s.calls ++ [Call.start S s.context projectId results] }) ∨
    ∃ c call e' next, e = .of c e' ∧ s.calls[c]? = some call ∧
      call.step S s.context e' = some next ∧ t = ⟨next.2, s.calls.set c next.1⟩ := by
  cases e with
  | call projectId results =>
    cases h
    exact .inl ⟨projectId, results, rfl⟩
  | of c e' =>
    simp only [step] at h
    split at h
    · next call hcall =>
      obtain ⟨next, hnext, ht⟩ := Option.map_eq_some_iff.mp h
      exact .inr ⟨c, call, e', next, rfl, hcall, hnext, ht.symm⟩
    · cases h

theorem calls_valid (h : (pushSystem S).Reachable s) : ∀ call ∈ s.calls, call.Valid S := by
  apply (pushSystem S).invariant (fun s => ∀ call ∈ s.calls, call.Valid S) _ _ h
  · intro call hmem
    cases hmem
  · intro s e t hvalid hstep
    obtain ⟨projectId, results, rfl⟩ | ⟨c, call, e', next, -, hcall, hnext, rfl⟩ := step_cases hstep
    · intro call hmem
      obtain hmem | hmem := List.mem_append.mp hmem
      · exact hvalid call hmem
      · rw [List.mem_singleton.mp hmem]
        exact Call.Valid.start S _ _ _
    · exact forall_mem_set hvalid ((hvalid call (List.mem_of_getElem? hcall)).step hnext)

theorem silent_of_connectivity (hconnectivity : s.context.dynatraceConnectivity ≠ .ok) :
    ∀ after t, (pushSystem S).runFrom s after = some t →
      t.context.dynatraceConnectivity ≠ .ok ∧ s.calls.length ≤ t.calls.length ∧
        ∀ c call, s.calls.length ≤ c → t.calls[c]? = some call →
          call.result.isSome = true ∧ call.history = [] := by
  let M : System (PollingState Line) (PollingEvent Line) := ⟨s, PollingState.step S⟩
  apply M.trace_invariant (fun _ t => t.context.dynatraceConnectivity ≠ .ok ∧
    s.calls.length ≤ t.calls.length ∧ ∀ c call, s.calls.length ≤ c → t.calls[c]? = some call →
      call.result.isSome = true ∧ call.history = [])
  · refine ⟨hconnectivity, le_rfl, ?_⟩
    intro c call hc hcall
    rw [List.getElem?_eq_none hc] at hcall
    cases hcall
  · rintro - t e u - ⟨hlost, hlength, hsilent⟩ hstep
    obtain ⟨projectId, results, rfl⟩ | ⟨c, call, e', next, -, hcall, hnext, rfl⟩ := step_cases hstep
    · refine ⟨hlost, ?_, ?_⟩
      · rw [List.length_append]
        omega
      · intro c call hc hcall
        rw [List.getElem?_append] at hcall
        split_ifs at hcall with hlt
        · exact hsilent c call hc hcall
        · have hmem := List.mem_of_getElem? hcall
          rw [List.mem_singleton.mp hmem, Call.start, if_pos hlost]
          exact ⟨rfl, rfl⟩
    · obtain ⟨hnone, hm⟩ := Call.moves_of_step hnext
      refine ⟨?_, ?_, ?_⟩
      · obtain hsame | hother := hm.connectivity
        · rw [hsame]
          exact hlost
        · exact hother
      · rw [List.length_set]
        exact hlength
      · intro c' call' hc' hcall'
        by_cases hsame : c = c'
        · subst hsame
          have hreturned := (hsilent c call hc' hcall).1
          rw [hnone] at hreturned
          cases hreturned
        · rw [List.getElem?_set_ne hsame] at hcall'
          exact hsilent c' call' hc' hcall'

theorem exists_finish {c : ℕ} {call : Call Line} (hreachable : (pushSystem S).Reachable s)
    (hcall : s.calls[c]? = some call) :
    ∃ after t done, (∀ e ∈ after, ∃ e', e = .of c e') ∧
      (pushSystem S).runFrom s after = some t ∧ t.calls[c]? = some done ∧
        done.result = some (.ok ()) := by
  induction hn : call.stepsLeft using Nat.strong_induction_on generalizing s call with
  | _ n ih =>
    have hvalid := calls_valid hreachable call (List.mem_of_getElem? hcall)
    cases hresult : call.result with
    | some result =>
      refine ⟨[], s, call, ?_, rfl, hcall, ?_⟩
      · intro e hmem
        cases hmem
      · rw [hresult, hvalid.concluded.returns result hresult]
    | none =>
      obtain ⟨e, next, hnext⟩ := hvalid.exists_step hresult s.context
      have hstep : (pushSystem S).step s (.of c e) = some ⟨next.2, s.calls.set c next.1⟩ := by
        simp only [pushSystem, step, hcall, hnext, Option.map_some]
      obtain ⟨hlt, -⟩ := List.getElem?_eq_some_iff.mp hcall
      have hmoved : (s.calls.set c next.1)[c]? = some next.1 := List.getElem?_set_self hlt
      have hless : next.1.stepsLeft < n :=
        hn ▸ (Call.moves_of_step hnext).2.stepsLeft_lt hresult
      obtain ⟨after, t, done, hown, hrun, hdone, hreturned⟩ :=
        ih next.1.stepsLeft hless (hreachable.step hstep) hmoved rfl
      refine ⟨.of c e :: after, t, done, ?_, ?_, hdone, hreturned⟩
      · intro e' hmem
        obtain rfl | hmem := List.mem_cons.mp hmem
        · exact ⟨e, rfl⟩
        · exact hown e' hmem
      · rw [System.runFrom, List.foldlM_cons, hstep]
        exact hrun

end PollingState

def IngestSettings.sequential (S : IngestSettings Line Payload) : IngestSettings Line Payload :=
  { S with metricIngestConcurrentPushes := 1 }

def twoAtATime : IngestSettings ℕ Unit where
  payload := fun _ => .ok ()
  float := fun _ => none
  printable := fun _ _ => true
  dynatraceUrl := "https://environment".toList
  metricIngestBatchSize := 1
  metricIngestConcurrentPushes := 2

def interleavedPushes : List (PollingEvent ℕ) :=
  .call "project".toList [10, 20, 30] ::
    [.wake 0, .wake 1, .wake 2, .acquire 1, .acquire 0, .resume 1 .networkError,
      .resume 0 (.response 202 none), .resume 0 (.body none), .acquire 2, .resume 1 .slept,
      .resume 2 (.response 202 none), .resume 1 (.response 202 none), .resume 1 (.body none),
      .resume 2 (.body none), .complete].map (.of 0)

end GcpMonitor.Metrics
