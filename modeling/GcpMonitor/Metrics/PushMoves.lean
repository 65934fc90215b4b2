import GcpMonitor.Metrics.PushIngestLines

namespace GcpMonitor.Metrics

open Python TransitionSystem TaskPool

variable {Line Payload : Type}

namespace Call

variable {S : IngestSettings Line Payload}

inductive Moves (S : IngestSettings Line Payload) (call : Call Line) (context : PushContext) :
    Call Line → PushContext → Prop
  | wait {i : ℕ} {batch : List Line} (hmode : 1 < S.metricIngestConcurrentPushes)
      (htask : call.tasks[i]? = some ⟨batch, .created⟩) (habort : call.abort = false) :
      Moves S call context (call.setPhase i batch .waiting) context
  | skip {i : ℕ} {batch : List Line} {phase : BatchPhase}
      (hmode : 1 < S.metricIngestConcurrentPushes)
      (htask : call.tasks[i]? = some ⟨batch, phase⟩)
      (hphase : phase = .created ∨ phase = .waiting) (habort : call.abort = true) :
      Moves S call context (call.setPhase i batch .skipped) context
  | next {i : ℕ} {batch : List Line} (hmode : S.metricIngestConcurrentPushes ≤ 1)
      (htask : call.tasks[i]? = some ⟨batch, .created⟩)
      (hbefore : ∀ task ∈ call.tasks.take i, task.phase.endedOk = true) :
      Moves S call context (call.startPush S i batch) context
  | acquire {i : ℕ} {batch : List Line} (hmode : 1 < S.metricIngestConcurrentPushes)
      (htask : call.tasks[i]? = some ⟨batch, .waiting⟩) (hpermits : 0 < call.permits)
      (habort : call.abort = false) :
      Moves S call context ({ call with permits := call.permits - 1 }.startPush S i batch) context
  | resume {i : ℕ} {batch : List Line} {phase phase' : PushPhase} {context' : PushContext}
      {input : PushInput} (htask : call.tasks[i]? = some ⟨batch, .pushing phase⟩)
      (hresume : phase.resume S.toPushRuntime call.projectId batch context input =
        some (phase', context')) :
      Moves S call context (call.runPush S i batch phase') context'
  | complete {outcome : Except PyError Unit} (houtcome : call.outcome S = some outcome) :
      Moves S call context { call with result := some (handleOutcome context outcome).1 }
        (handleOutcome context outcome).2

theorem moves_of_step {call call' : Call Line} {context context' : PushContext} {e : CallEvent}
    (h : call.step S context e = some (call', context')) :
    call.result = none ∧ call.Moves S context call' context' := by
  unfold step at h
  split at h
  · cases h
  next hresult =>
  refine ⟨Option.not_isSome_iff_eq_none.mp hresult, ?_⟩
  cases e with
  | resume i input =>
    simp only [resumeTask] at h
    split at h
    · next batch phase htask =>
      obtain ⟨⟨phase', context''⟩, hresume, hnext⟩ := Option.map_eq_some_iff.mp h
      cases hnext
      exact .resume htask hresume
    · cases h
  | complete =>
    obtain ⟨outcome, houtcome, hnext⟩ := Option.map_eq_some_iff.mp h
    cases hnext
    exact .complete houtcome
  | next i =>
    obtain ⟨hmode, h⟩ := Option.ite_none_right_eq_some.mp h
    obtain ⟨moved, hmoved, h⟩ := Option.map_eq_some_iff.mp h
    cases h
    unfold nextBatch at hmoved
    split at hmoved
    · next batch htask =>
      obtain ⟨hbefore, hmoved⟩ := Option.ite_none_right_eq_some.mp hmoved
      cases hmoved
      exact .next hmode htask (List.all_eq_true.mp hbefore)
    · cases hmoved
  | wake i =>
    obtain ⟨hmode, h⟩ := Option.ite_none_left_eq_some.mp h
    obtain ⟨moved, hmoved, h⟩ := Option.map_eq_some_iff.mp h
    cases h
    unfold wakeTask at hmoved
    split at hmoved
    · next batch htask =>
      cases hmoved
      by_cases habort : call.abort = true
      · rw [if_pos habort]
        exact .skip (not_le.mp hmode) htask (.inl rfl) habort
      · rw [if_neg habort]
        exact .wait (not_le.mp hmode) htask (Bool.not_eq_true _ ▸ habort)
    · cases hmoved
  | acquire i =>
    obtain ⟨hmode, h⟩ := Option.ite_none_left_eq_some.mp h
    obtain ⟨moved, hmoved, h⟩ := Option.map_eq_some_iff.mp h
    cases h
    unfold acquireTask at hmoved
    split at hmoved
    · next batch htask =>
      split_ifs at hmoved with hpermits habort
      · cases hmoved
        exact .skip (not_le.mp hmode) htask (.inr rfl) habort
      · cases hmoved
        exact .acquire (not_le.mp hmode) htask (Nat.pos_of_ne_zero hpermits)
          (Bool.not_eq_true _ ▸ habort)
    · cases hmoved

inductive TaskMove (i : ℕ) (batch : List Line) :
    BatchPhase → BatchPhase → List (Happening Line) → Prop
  | wait : TaskMove i batch .created .waiting []
  | skip {old : BatchPhase} (hold : old = .created ∨ old = .waiting) :
      TaskMove i batch old .skipped []
  | start {old : BatchPhase} (hold : old = .created ∨ old = .waiting) (phase : PushPhase) :
      TaskMove i batch old (.pushing phase) (.started i batch :: happenings i batch phase)
  | resume {phase : PushPhase} (hphase : phase.hasEnded = false) (phase' : PushPhase) :
      TaskMove i batch (.pushing phase) (.pushing phase') (happenings i batch phase')

structure Advances (call call' : Call Line) (i : ℕ) (batch : List Line) (old new : BatchPhase)
    (added : List (Happening Line)) : Prop where
  task : call.tasks[i]? = some ⟨batch, old⟩
  move : TaskMove i batch old new added
  tasks : call'.tasks = call.tasks.set i ⟨batch, new⟩
  history : call'.history = call.history ++ added
  result : call'.result = call.result
  skipped : call'.skipped = call.skipped
  fetchMetricResults : call'.fetchMetricResults = call.fetchMetricResults

theorem hasEnded_of_resume {R : PushRuntime Line Payload} {projectId : Text}
    {batch : List Line} {context : PushContext} {phase : PushPhase} {input : PushInput}
    {next : PushPhase × PushContext}
    (h : phase.resume R projectId batch context input = some next) : phase.hasEnded = false := by
  cases phase with
  | ended result => cases input <;> cases h
  | _ => rfl

theorem advances_startPush {call : Call Line} {i : ℕ} {batch : List Line} {old : BatchPhase}
    (htask : call.tasks[i]? = some ⟨batch, old⟩) (hold : old = .created ∨ old = .waiting)
    (permits : ℕ) :
    Advances call ({ call with permits }.startPush S i batch) i batch old
      (.pushing (.start S.toPushRuntime batch))
      (.started i batch :: happenings i batch (.start S.toPushRuntime batch)) := by
  rw [startPush, runPush_eq]
  exact ⟨htask, .start hold _, rfl, List.append_assoc _ _ _, rfl, rfl, rfl⟩

theorem advances_runPush {call : Call Line} {i : ℕ} {batch : List Line} {phase : PushPhase}
    (htask : call.tasks[i]? = some ⟨batch, .pushing phase⟩) (hphase : phase.hasEnded = false)
    (phase' : PushPhase) :
    Advances call (call.runPush S i batch phase') i batch (.pushing phase) (.pushing phase')
      (happenings i batch phase') := by
  rw [runPush_eq]
  exact ⟨htask, .resume hphase _, rfl, rfl, rfl, rfl, rfl⟩

theorem advances_setPhase {call : Call Line} {i : ℕ} {batch : List Line} {old new : BatchPhase}
    (htask : call.tasks[i]? = some ⟨batch, old⟩) (hmove : TaskMove i batch old new []) :
    Advances call (call.setPhase i batch new) i batch old new [] :=
  ⟨htask, hmove, rfl, (List.append_nil _).symm, rfl, rfl, rfl⟩

theorem Moves.advances {call call' : Call Line} {context context' : PushContext}
    (h : call.Moves S context call' context') :
    (∃ i batch old new added, Advances call call' i batch old new added) ∨
      ∃ outcome, call.outcome S = some outcome ∧
        call' = { call with result := some (handleOutcome context outcome).1 } := by
  cases h with
  | wait hmode htask habort => exact .inl ⟨_, _, _, _, _, advances_setPhase htask .wait⟩
  | skip hmode htask hphase habort =>
    exact .inl ⟨_, _, _, _, _, advances_setPhase htask (.skip hphase)⟩
  | next hmode htask hbefore =>
    exact .inl ⟨_, _, _, _, _, advances_startPush htask (.inl rfl) call.permits⟩
  | acquire hmode htask hpermits habort =>
    exact .inl ⟨_, _, _, _, _, advances_startPush htask (.inr rfl) _⟩
  | resume htask hresume =>
    exact .inl ⟨_, _, _, _, _, advances_runPush htask (hasEnded_of_resume hresume) _⟩
  | complete houtcome => exact .inr ⟨_, houtcome, rfl⟩

def raises (phase : BatchPhase) : ℕ := phase.error.isSome.toNat

def pushedBatch (task : BatchTask Line) : Multiset (List Line) :=
  if task.phase.endedOk then {task.batch} else 0

theorem countP_startsBatch_happenings (i j : ℕ) (batch : List Line) (phase : PushPhase) :
    (happenings i batch phase).countP (Happening.startsBatch j) = 0 := by
  cases phase <;> rfl

theorem countP_isRaise_happenings (i : ℕ) (batch : List Line) (phase : PushPhase) :
    (happenings i batch phase).countP Happening.isRaise = raises (.pushing phase) := by
  cases phase with
  | ended result => cases result <;> rfl
  | _ => rfl

theorem filterMap_pushed_happenings (i : ℕ) (batch : List Line) (phase : PushPhase) :
    ((happenings i batch phase).filterMap Happening.pushed : Multiset (List Line)) =
      pushedBatch ⟨batch, .pushing phase⟩ := by
  cases phase with
  | ended result => cases result <;> rfl
  | _ => rfl

namespace TaskMove

variable {i : ℕ} {batch : List Line} {old new : BatchPhase} {added : List (Happening Line)}

theorem startsBatch (h : TaskMove i batch old new added) (j : ℕ) :
    added.countP (Happening.startsBatch j) + (if i = j then old.isStarted.toNat else 0) =
      if i = j then new.isStarted.toNat else 0 := by
  cases h with
  | wait => exact Nat.zero_add _
  | skip hold =>
    obtain rfl | rfl := hold
    · exact Nat.zero_add _
    · exact Nat.zero_add _
  | start hold phase =>
    have hold' : old.isStarted = false := by
      obtain rfl | rfl := hold
      · rfl
      · rfl
    rw [List.countP_cons, countP_startsBatch_happenings, hold']
    simp only [Happening.startsBatch, decide_eq_true_eq]
    split_ifs <;> rfl
  | resume hphase phase' =>
    rw [countP_startsBatch_happenings, Nat.zero_add]
    rfl

theorem raises (h : TaskMove i batch old new added) :
    added.countP Happening.isRaise + Call.raises old = Call.raises new := by
  cases h with
  | wait => rfl
  | skip hold =>
    obtain rfl | rfl := hold
    · rfl
    · rfl
  | start hold phase =>
    rw [List.countP_cons_of_neg Bool.false_ne_true, countP_isRaise_happenings]
    obtain rfl | rfl := hold
    · rfl
    · rfl
  | @resume phase hphase phase' =>
    rw [countP_isRaise_happenings]
    cases phase with
    | ended result => cases hphase
    | _ => rfl

theorem pushed (h : TaskMove i batch old new added) :
    (added.filterMap Happening.pushed : Multiset (List Line)) + pushedBatch ⟨batch, old⟩ =
      pushedBatch ⟨batch, new⟩ := by
  cases h with
  | wait => rfl
  | skip hold =>
    obtain rfl | rfl := hold
    · rfl
    · rfl
  | start hold phase =>
    rw [List.filterMap_cons_none rfl, filterMap_pushed_happenings]
    obtain rfl | rfl := hold
    · exact add_zero _
    · exact add_zero _
  | @resume phase hphase phase' =>
    rw [filterMap_pushed_happenings]
    cases phase with
    | ended result => cases hphase
    | _ => exact add_zero _

end TaskMove

def inProgress (call : Call Line) : ℕ :=
  (call.tasks.map (fun task => task.phase.inProgress.toNat)).sum

def raiseCount (call : Call Line) : ℕ := call.history.countP Happening.isRaise

end Call

end GcpMonitor.Metrics
