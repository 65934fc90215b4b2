import GcpMonitor.Logs.PulledCounters

namespace GcpMonitor.Logs

open Python TransitionSystem TaskPool

variable {AckId : Type}

variable {compressedLength : String → ℕ} {s t : PushState AckId} {e : PushEvent}

def SendTask.pending (counter : SfmCounter) (task : SendTask AckId) : ℕ :=
  if task.phase = .done then 0 else counter.read task.batch.selfMonitoring

theorem sendResponse_sfmQueue (st : SendState AckId) (batch : LogBatch AckId)
    (outcome : SendOutcome) :
    (st.sendResponse compressedLength batch outcome).1.sfmQueue = st.sfmQueue := by
  cases outcome with
  | response status =>
    simp only [SendState.sendResponse]
    split_ifs
    · cases dynatraceErrorCodeDesc status <;> rfl
    · rfl
  | exception isClientResponseError => cases isClientResponseError <;> rfl

theorem sendResponse_read (counter : SfmCounter) (st : SendState AckId) (batch : LogBatch AckId)
    (outcome : SendOutcome) :
    counter.read (st.sendResponse compressedLength batch outcome).1.selfMonitoring =
      counter.read st.selfMonitoring := by
  cases outcome with
  | response status =>
    simp only [SendState.sendResponse]
    split_ifs
    · cases dynatraceErrorCodeDesc status <;> cases counter <;> rfl
    · cases counter <;> rfl
  | exception isClientResponseError => cases isClientResponseError <;> cases counter <;> rfl

namespace PushState

theorem step_counters (counter : SfmCounter) (h : s.step compressedLength e = some t) :
    counter.total t.shared.sfmQueue.put + (t.tasks.map (SendTask.pending counter)).sum =
      counter.total s.shared.sfmQueue.put + (s.tasks.map (SendTask.pending counter)).sum := by
  rcases step_cases h with ⟨-, ht, count, hshared⟩ | ⟨i, task, htask, hcase⟩
  · rw [ht, hshared]
    rfl
  · rcases hcase with ⟨-, hp, ht, hshared⟩ | ⟨-, hp, ht, hshared⟩ | ⟨-, hp, ht, hshared⟩
    · have hsum := sum_map_set (SendTask.pending counter) { task with phase := .sending } htask
      simp only [SendTask.pending, hp, reduceCtorEq, ↓reduceIte] at hsum
      rw [ht, hshared]
      change counter.total s.shared.sfmQueue.put + _ = _
      rw [Nat.add_right_cancel hsum]
    · have hsum := sum_map_set (SendTask.pending counter) { task with phase := .reporting } htask
      simp only [SendTask.pending, hp, reduceCtorEq, ↓reduceIte] at hsum
      rw [ht, hshared, sendResponse_sfmQueue, Nat.add_right_cancel hsum]
    · have hsum := sum_map_set (SendTask.pending counter) { task with phase := .done } htask
      simp only [SendTask.pending, hp, reduceCtorEq, ↓reduceIte, add_zero] at hsum
      have hput : counter.total (s.shared.sendFinally task.batch).sfmQueue.put =
          counter.total s.shared.sfmQueue.put + counter.read task.batch.selfMonitoring := by
        simp [SendState.sendFinally, SfmQueue.push]
      rw [ht, hshared, hput, ← hsum]
      omega

theorem step_read (counter : SfmCounter) (h : s.step compressedLength e = some t) :
    counter.read t.shared.selfMonitoring = counter.read s.shared.selfMonitoring := by
  rcases step_cases h with ⟨-, -, count, hshared⟩ | ⟨i, task, -, hcase⟩
  · rw [hshared]
    rfl
  · rcases hcase with ⟨-, -, -, hshared⟩ | ⟨-, -, -, hshared⟩ | ⟨-, -, -, hshared⟩
    · rw [hshared]
      cases counter <;> rfl
    · rw [hshared]
      exact sendResponse_read counter _ _ _
    · rw [hshared]
      rfl

theorem step_extends (h : s.step compressedLength e = some t) :
    s.shared.sfmQueue.put <+: t.shared.sfmQueue.put := by
  rcases step_cases h with ⟨-, -, count, hshared⟩ | ⟨i, task, -, hcase⟩
  · rw [hshared]
    exact List.prefix_refl _
  · rcases hcase with ⟨-, -, -, hshared⟩ | ⟨-, -, -, hshared⟩ | ⟨-, -, -, hshared⟩
    · rw [hshared]
      exact List.prefix_refl _
    · rw [hshared, sendResponse_sfmQueue]
    · rw [hshared]
      exact List.prefix_append _ _

end PushState

theorem pushLogs_counters (counter : SfmCounter) (compressedLength : String → ℕ)
    (sfmQueue : SfmQueue) (permits : ℕ) (sendingTimeStart : ℚ)
    (sends : List (LogBatch AckId × SendOutcome)) (trace : List PushEvent) (s : PushState AckId)
    (hrun : (pushLogsSystem compressedLength
      (pushLogsStart sfmQueue permits sendingTimeStart sends)).run trace = some s) :
    counter.total s.shared.sfmQueue.put + (s.tasks.map (SendTask.pending counter)).sum =
        counter.total sfmQueue.put +
          counter.total (sends.map (fun send => send.1.selfMonitoring)) ∧
      counter.read s.shared.selfMonitoring = 0 ∧ sfmQueue.put <+: s.shared.sfmQueue.put := by
  refine System.invariant _ (fun s : PushState AckId =>
    counter.total s.shared.sfmQueue.put + (s.tasks.map (SendTask.pending counter)).sum =
        counter.total sfmQueue.put +
          counter.total (sends.map (fun send => send.1.selfMonitoring)) ∧
      counter.read s.shared.selfMonitoring = 0 ∧ sfmQueue.put <+: s.shared.sfmQueue.put)
    ?_ ?_ ⟨trace, hrun⟩
  · refine ⟨?_, by cases counter <;> rfl, List.prefix_refl _⟩
    simp [pushLogsSystem, pushLogsStart, SendTask.pending, SfmCounter.total, Function.comp_def]
  · rintro s e t ⟨hsum, hread, hprefix⟩ hstep
    exact ⟨(PushState.step_counters counter hstep).trans hsum,
      (PushState.step_read counter hstep).trans hread,
      hprefix.trans (PushState.step_extends hstep)⟩

theorem pending_of_allDone (counter : SfmCounter) {s : PushState AckId} (h : s.allDone = true) :
    (s.tasks.map (SendTask.pending counter)).sum = 0 := by
  apply List.sum_eq_zero
  intro n hn
  obtain ⟨task, htask, rfl⟩ := List.mem_map.mp hn
  have hphase := List.all_eq_true.mp h task htask
  rw [SendTask.pending, if_pos (of_decide_eq_true hphase)]

theorem pushLogsResult_counters (counter : SfmCounter) {s : PushState AckId}
    (hread : counter.read s.shared.selfMonitoring = 0) (now : ℚ) :
    counter.total (pushLogsResult s now).2.put = counter.total s.shared.sfmQueue.put ∧
      s.shared.sfmQueue.put <+: (pushLogsResult s now).2.put := by
  rw [pushLogsResult]
  split_ifs
  · exact ⟨rfl, List.prefix_refl _⟩
  · refine ⟨putSfmIntoQueue_total ?_ _, putSfmIntoQueue_extends _ _⟩
    rw [← hread]
    cases counter <;> rfl

end GcpMonitor.Logs
