import GcpMonitor.Library.TransitionSystem
import GcpMonitor.Library.TaskPool
import GcpMonitor.Logs.DynatraceClient
import Mathlib.Algebra.Order.Group.Multiset

namespace GcpMonitor.Logs

open TransitionSystem TaskPool

variable {AckId : Type}

inductive SendPhase where
  | waiting
  | sending
  | reporting
  | done
  deriving DecidableEq

structure SendTask (AckId : Type) where
  batch : LogBatch AckId
  outcome : SendOutcome
  phase : SendPhase

structure PushState (AckId : Type) where
  tasks : List (SendTask AckId)
  shared : SendState AckId
  permits : ℕ

/-- `semaphore` and `drain` are steps of the other workers and of the self-monitoring loop, which
share the semaphore and the queue with this call of `push_logs`. -/
inductive PushEvent where
  | start (i : ℕ)
  | respond (i : ℕ)
  | report (i : ℕ)
  | semaphore (permits : ℕ)
  | drain (count : ℕ)
  deriving DecidableEq

def PushEvent.own : PushEvent → Bool
  | .start _ => true
  | .respond _ => true
  | .report _ => true
  | .semaphore _ => false
  | .drain _ => false

namespace PushState

def step (compressedLength : String → ℕ) (s : PushState AckId) :
    PushEvent → Option (PushState AckId)
  | .start i =>
    onTask s.tasks i (fun task => task.phase = .waiting ∧ 0 < s.permits) fun task =>
      { tasks := s.tasks.set i { task with phase := .sending }
        shared := s.shared.sendRequest
        permits := s.permits - 1 }
  | .respond i =>
    onTask s.tasks i (fun task => task.phase = .sending) fun task =>
      { s with
        tasks := s.tasks.set i { task with phase := .reporting }
        shared := (s.shared.sendResponse compressedLength task.batch task.outcome).1 }
  | .report i =>
    onTask s.tasks i (fun task => task.phase = .reporting ∧ s.shared.sfmQueue.isFull = false)
      fun task =>
        { tasks := s.tasks.set i { task with phase := .done }
          shared := s.shared.sendFinally task.batch
          permits := s.permits + 1 }
  | .semaphore permits => some { s with permits }
  | .drain count => some { s with shared := s.shared.drainQueue count }

def allDone (s : PushState AckId) : Bool := s.tasks.all (fun task => task.phase = .done)

end PushState

def pushLogsStart (sfmQueue : SfmQueue) (permits : ℕ) (sendingTimeStart : ℚ)
    (sends : List (LogBatch AckId × SendOutcome)) : PushState AckId where
  tasks := sends.map (fun (batch, outcome) => ⟨batch, outcome, .waiting⟩)
  shared := ⟨{ sendingTimeStart }, [], sfmQueue⟩
  permits := permits

def pushLogsSystem (compressedLength : String → ℕ) (start : PushState AckId) :
    System (PushState AckId) PushEvent where
  init := start
  step := PushState.step compressedLength

def pushLogsResult (s : PushState AckId) (now : ℚ) : List AckId × SfmQueue :=
  if s.tasks.length = 0 then ([], s.shared.sfmQueue)
  else (s.shared.ackIdsToSend,
    putSfmIntoQueue s.shared.sfmQueue (s.shared.selfMonitoring.calculateSendingTime now))

def SendTask.acknowledged (task : SendTask AckId) : Multiset AckId :=
  match task.phase with
  | .waiting => 0
  | .sending => 0
  | .reporting => if task.outcome.accepted then task.batch.ackIds else 0
  | .done => if task.outcome.accepted then task.batch.ackIds else 0

def SendTask.send (task : SendTask AckId) : LogBatch AckId × SendOutcome :=
  (task.batch, task.outcome)

def SendTask.stepsLeft (task : SendTask AckId) : ℕ :=
  match task.phase with
  | .waiting => 3
  | .sending => 2
  | .reporting => 1
  | .done => 0

namespace PushState

variable {compressedLength : String → ℕ} {s t : PushState AckId}

theorem step_cases {e : PushEvent} (h : s.step compressedLength e = some t) :
    (e.own = false ∧ t.tasks = s.tasks ∧ ∃ count, t.shared = s.shared.drainQueue count) ∨
    ∃ i task, s.tasks[i]? = some task ∧
      ((e = .start i ∧ task.phase = .waiting ∧
          t.tasks = s.tasks.set i { task with phase := .sending } ∧
          t.shared = s.shared.sendRequest) ∨
        (e = .respond i ∧ task.phase = .sending ∧
          t.tasks = s.tasks.set i { task with phase := .reporting } ∧
          t.shared = (s.shared.sendResponse compressedLength task.batch task.outcome).1) ∨
        (e = .report i ∧ task.phase = .reporting ∧
          t.tasks = s.tasks.set i { task with phase := .done } ∧
          t.shared = s.shared.sendFinally task.batch)) := by
  cases e with
  | start i =>
    obtain ⟨task, htask, ⟨hphase, -⟩, rfl⟩ := onTask_eq_some.mp h
    exact .inr ⟨i, task, htask, .inl ⟨rfl, hphase, rfl, rfl⟩⟩
  | respond i =>
    obtain ⟨task, htask, hphase, rfl⟩ := onTask_eq_some.mp h
    exact .inr ⟨i, task, htask, .inr (.inl ⟨rfl, hphase, rfl, rfl⟩)⟩
  | report i =>
    obtain ⟨task, htask, ⟨hphase, -⟩, rfl⟩ := onTask_eq_some.mp h
    exact .inr ⟨i, task, htask, .inr (.inr ⟨rfl, hphase, rfl, rfl⟩)⟩
  | semaphore permits =>
    cases h
    exact .inl ⟨rfl, rfl, 0, rfl⟩
  | drain count =>
    cases h
    exact .inl ⟨rfl, rfl, count, rfl⟩

theorem step_sends {e : PushEvent} (h : s.step compressedLength e = some t) :
    t.tasks.map SendTask.send = s.tasks.map SendTask.send := by
  rcases step_cases h with ⟨-, ht, -⟩ | ⟨i, task, htask, hcase⟩
  · rw [ht]
  · rcases hcase with ⟨-, -, ht, -⟩ | ⟨-, -, ht, -⟩ | ⟨-, -, ht, -⟩ <;>
      rw [ht] <;> exact map_set_of_eq SendTask.send htask rfl

theorem step_acknowledged {e : PushEvent} (h : s.step compressedLength e = some t)
    (hs : (s.shared.ackIdsToSend : Multiset AckId) = (s.tasks.map SendTask.acknowledged).sum) :
    (t.shared.ackIdsToSend : Multiset AckId) = (t.tasks.map SendTask.acknowledged).sum := by
  rcases step_cases h with ⟨-, ht, count, ha⟩ | ⟨i, task, htask, hcase⟩
  · rw [ht, ha, SendState.drainQueue_ackIdsToSend, hs]
  · rcases hcase with ⟨-, hp, ht, ha⟩ | ⟨-, hp, ht, ha⟩ | ⟨-, hp, ht, ha⟩
    · have hsum := sum_map_set SendTask.acknowledged { task with phase := .sending } htask
      rw [ht, ha, SendState.sendRequest_ackIdsToSend, hs]
      simpa [SendTask.acknowledged, hp] using hsum.symm
    · have hsum := sum_map_set SendTask.acknowledged { task with phase := .reporting } htask
      rw [ht, ha, SendState.sendResponse_ackIdsToSend, ← Multiset.coe_add, hs]
      simp only [SendTask.acknowledged, hp, add_zero] at hsum
      rw [hsum]
      congr 1
      split_ifs <;> rfl
    · have hsum := sum_map_set SendTask.acknowledged { task with phase := .done } htask
      rw [ht, ha, SendState.sendFinally_ackIdsToSend, hs]
      simp only [SendTask.acknowledged, hp] at hsum
      exact (add_right_cancel hsum).symm

theorem step_stepsLeft_own {e : PushEvent} (h : s.step compressedLength e = some t)
    (he : e.own = true) :
    (t.tasks.map SendTask.stepsLeft).sum < (s.tasks.map SendTask.stepsLeft).sum := by
  rcases step_cases h with ⟨hown, -, -⟩ | ⟨i, task, htask, hcase⟩
  · rw [he] at hown
    cases hown
  · rcases hcase with ⟨-, hp, ht, -⟩ | ⟨-, hp, ht, -⟩ | ⟨-, hp, ht, -⟩ <;>
      rw [ht] <;> exact sum_map_set_lt htask (by simp [SendTask.stepsLeft, hp])

theorem step_enabled (compressedLength : String → ℕ) (s : PushState AckId)
    (hs : s.allDone = false) (hpermits : 0 < s.permits)
    (hqueue : s.shared.sfmQueue.isFull = false) :
    ∃ e t, e.own = true ∧ s.step compressedLength e = some t := by
  obtain ⟨task, hmem, hphase⟩ := List.all_eq_false.mp hs
  obtain ⟨i, hi⟩ := List.mem_iff_getElem?.mp hmem
  cases hp : task.phase with
  | waiting => exact ⟨.start i, _, rfl, onTask_eq_some.mpr ⟨task, hi, ⟨hp, hpermits⟩, rfl⟩⟩
  | sending => exact ⟨.respond i, _, rfl, onTask_eq_some.mpr ⟨task, hi, hp, rfl⟩⟩
  | reporting => exact ⟨.report i, _, rfl, onTask_eq_some.mpr ⟨task, hi, ⟨hp, hqueue⟩, rfl⟩⟩
  | done => simp [hp] at hphase

def relieved (s : PushState AckId) : PushState AckId :=
  { s with shared := s.shared.drainQueue s.shared.sfmQueue.put.length, permits := 1 }

theorem relieved_isFull (s : PushState AckId) : s.relieved.shared.sfmQueue.isFull = false := by
  rw [SfmQueue.isFull, decide_eq_false_iff_not]
  simp only [relieved, SendState.drainQueue]
  omega

theorem can_finish (compressedLength : String → ℕ) (start s : PushState AckId) :
    ∃ trace t, (pushLogsSystem compressedLength start).runFrom s trace = some t ∧
      t.allDone = true := by
  induction hn : (s.tasks.map SendTask.stepsLeft).sum using Nat.strong_induction_on
    generalizing s with
  | _ n ih =>
    cases hdone : s.allDone with
    | true => exact ⟨[], s, rfl, hdone⟩
    | false =>
      obtain ⟨e, next, hown, hstep⟩ := step_enabled compressedLength s.relieved hdone Nat.one_pos
        (relieved_isFull s)
      have hlt := step_stepsLeft_own hstep hown
      obtain ⟨trace, t, hrun, ht⟩ := ih _ (hn ▸ hlt) next rfl
      refine ⟨.semaphore 1 :: .drain s.shared.sfmQueue.put.length :: e :: trace, t, ?_, ht⟩
      change (s.relieved.step compressedLength e).bind
        (fun u => (pushLogsSystem compressedLength start).runFrom u trace) = some t
      rw [hstep]
      exact hrun

end PushState

section Run

variable (compressedLength : String → ℕ) (sfmQueue : SfmQueue) (permits : ℕ)
  (sendingTimeStart : ℚ) (sends : List (LogBatch AckId × SendOutcome))

theorem pushLogs_acknowledged (trace : List PushEvent) (s : PushState AckId)
    (hrun : (pushLogsSystem compressedLength
      (pushLogsStart sfmQueue permits sendingTimeStart sends)).run trace = some s) :
    s.tasks.map SendTask.send = sends ∧
      (s.shared.ackIdsToSend : Multiset AckId) = (s.tasks.map SendTask.acknowledged).sum := by
  refine System.invariant _ (fun s => s.tasks.map SendTask.send = sends ∧
    (s.shared.ackIdsToSend : Multiset AckId) = (s.tasks.map SendTask.acknowledged).sum)
    ?_ ?_ ⟨trace, hrun⟩
  · constructor
    · simp [pushLogsSystem, pushLogsStart, SendTask.send, Function.comp_def]
    · simp [pushLogsSystem, pushLogsStart, SendTask.acknowledged, Function.comp_def]
  · rintro s e t ⟨hsends, hack⟩ hstep
    exact ⟨(PushState.step_sends hstep).trans hsends, PushState.step_acknowledged hstep hack⟩

theorem pushLogs_allDone (trace : List PushEvent) (s : PushState AckId)
    (hrun : (pushLogsSystem compressedLength
      (pushLogsStart sfmQueue permits sendingTimeStart sends)).run trace = some s)
    (hdone : s.allDone = true) :
    (s.shared.ackIdsToSend : Multiset AckId) =
      (sends.map (fun (batch, outcome) =>
        if outcome.accepted then (batch.ackIds : Multiset AckId) else 0)).sum := by
  obtain ⟨hsends, hack⟩ := pushLogs_acknowledged compressedLength sfmQueue permits
    sendingTimeStart sends trace s hrun
  rw [hack, ← hsends, List.map_map]
  congr 1
  apply List.map_congr_left
  intro task htask
  have hphase := List.all_eq_true.mp hdone task htask
  simp only [decide_eq_true_eq] at hphase
  simp only [Function.comp_apply, SendTask.acknowledged, hphase]
  rfl

theorem pushLogsResult_ackIds (trace : List PushEvent) (s : PushState AckId)
    (hrun : (pushLogsSystem compressedLength
      (pushLogsStart sfmQueue permits sendingTimeStart sends)).run trace = some s) (now : ℚ) :
    (pushLogsResult s now).1 = s.shared.ackIdsToSend := by
  unfold pushLogsResult
  split_ifs with hlen
  · obtain ⟨-, hack⟩ := pushLogs_acknowledged compressedLength sfmQueue permits
      sendingTimeStart sends trace s hrun
    rw [List.eq_nil_of_length_eq_zero hlen] at hack
    exact ((Multiset.coe_eq_zero _).mp hack).symm
  · rfl

end Run

end GcpMonitor.Logs
