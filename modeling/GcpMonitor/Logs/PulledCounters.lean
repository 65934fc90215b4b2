import GcpMonitor.Logs.ProcessMessage
import Mathlib.Data.List.Infix

namespace GcpMonitor.Logs

open Python TransitionSystem TaskPool

variable {AckId Body : Type}

inductive SfmCounter where
  | parsingErrors
  | tooOldRecords
  | publishTimeFallbackRecords
  | recordsWithTooLongContent
  deriving DecidableEq

namespace SfmCounter

def read : SfmCounter → LogSelfMonitoring → ℕ
  | .parsingErrors, sfm => sfm.parsingErrors
  | .tooOldRecords, sfm => sfm.tooOldRecords
  | .publishTimeFallbackRecords, sfm => sfm.publishTimeFallbackRecords
  | .recordsWithTooLongContent, sfm => sfm.recordsWithTooLongContent

def total (counter : SfmCounter) (sfms : List LogSelfMonitoring) : ℕ :=
  (sfms.map counter.read).sum

@[simp] theorem total_nil (counter : SfmCounter) : counter.total [] = 0 := rfl

@[simp] theorem total_append (counter : SfmCounter) (sfms sfms' : List LogSelfMonitoring) :
    counter.total (sfms ++ sfms') = counter.total sfms + counter.total sfms' := by
  simp [total]

@[simp] theorem total_singleton (counter : SfmCounter) (sfm : LogSelfMonitoring) :
    counter.total [sfm] = counter.read sfm := by
  simp [total]

theorem read_addTo (counter : SfmCounter) (aggregated sfm : LogSelfMonitoring) :
    counter.read (aggregated.addTo sfm) = counter.read aggregated + counter.read sfm := by
  cases counter <;> rfl

theorem read_aggregate (counter : SfmCounter) (sfms : List LogSelfMonitoring)
    (aggregated : LogSelfMonitoring) :
    counter.read (aggregateSelfMonitoringMetrics aggregated sfms) =
      counter.read aggregated + counter.total sfms := by
  induction sfms generalizing aggregated with
  | nil => rfl
  | cons sfm sfms ih =>
    have hrest := ih (aggregated.addTo sfm)
    rw [read_addTo] at hrest
    simp only [total, List.map_cons, List.sum_cons] at hrest ⊢
    rw [← add_assoc]
    exact hrest

theorem read_empty (counter : SfmCounter) : counter.read {} = 0 := by
  cases counter <;> rfl

end SfmCounter

def processedSfm : Processed → LogSelfMonitoring
  | .payload _ sfm => sfm
  | .skipped sfm => sfm
  | .raised sfm now =>
    { sfm with parsingErrors := sfm.parsingErrors + 1 }.calculateProcessingTime now
  | .queueFull => {}

def counterOf (process : Body → Processed) (counter : SfmCounter)
    (message : ReceivedMessage AckId Body) : ℕ :=
  counter.read (processedSfm (process message.message))

def oversize (limits : RequestLimits) (process : Body → Processed)
    (message : ReceivedMessage AckId Body) : Bool :=
  (messageJob process message).any (tooLarge limits)

def NeverFull (limits : RequestLimits) (process : Body → Processed) :
    PullLoop AckId → List (ReceivedMessage AckId Body) → Prop
  | _, [] => True
  | st, message :: messages =>
    st.sfmQueue.isFull = false ∧ NeverFull limits process (st.receive limits process message)
      messages

namespace Iteration

variable (it : Iteration AckId Body)

def finalQueue : Option SfmQueue :=
  match it.pulled with
  | .error _ => none
  | .ok (batches, _, sfmQueue) =>
    let start := pushLogsStart sfmQueue it.permits it.sendingTimeStart (it.sends batches)
    match (pushLogsSystem it.compressedLength start).run it.trace with
    | none => none
    | some s => if s.allDone then some (pushLogsResult s it.sendingTimeEnd).2 else none

def putInto (final : SfmQueue) : List LogSelfMonitoring :=
  final.put.drop it.sfmQueue.put.length

/-- Every counter adds up to the number of the messages that have raised it. -/
def CountersConserved (final : SfmQueue) : Prop :=
  ∀ counter : SfmCounter, counter.total (it.putInto final) =
    it.receivedMessages.countP (fun message => 0 < counterOf it.process counter message)

end Iteration

section Batches

theorem step_counters (counter : SfmCounter) (limits : RequestLimits) (st : BatchLoop AckId)
    (job : LogProcessingJob AckId) :
    counter.total ((st.step limits job).batches.map LogBatch.selfMonitoring) +
        counter.total (st.step limits job).batchSfmMonitoringList =
      counter.total (st.batches.map LogBatch.selfMonitoring) +
        counter.total st.batchSfmMonitoringList + counter.read job.selfMonitoring := by
  unfold BatchLoop.step
  dsimp only
  split_ifs
  · simp [BatchLoop.appendEntry, BatchLoop.closeBatch, BatchLoop.nextBatch,
      SfmCounter.read_aggregate, SfmCounter.read_empty]
  · simp [BatchLoop.appendEntry, add_assoc]

theorem foldl_step_counters (counter : SfmCounter) (limits : RequestLimits)
    (logs : List (LogProcessingJob AckId)) (st : BatchLoop AckId) :
    counter.total ((logs.foldl (BatchLoop.step limits) st).batches.map LogBatch.selfMonitoring) +
        counter.total (logs.foldl (BatchLoop.step limits) st).batchSfmMonitoringList =
      counter.total (st.batches.map LogBatch.selfMonitoring) +
        counter.total st.batchSfmMonitoringList +
          counter.total (logs.map LogProcessingJob.selfMonitoring) := by
  induction logs generalizing st with
  | nil => rfl
  | cons job rest ih =>
    rw [List.foldl_cons, ih, step_counters, List.map_cons, ← List.singleton_append,
      SfmCounter.total_append, SfmCounter.total_singleton]
    omega

theorem prepareBatches_counters (counter : SfmCounter) (limits : RequestLimits)
    (logs : List (LogProcessingJob AckId)) :
    counter.total ((prepareBatches limits logs).map LogBatch.selfMonitoring) =
      counter.total (logs.map LogProcessingJob.selfMonitoring) := by
  have hsum := foldl_step_counters counter limits logs {}
  have hlen := (foldl_step_aligned limits logs ({} : BatchLoop AckId) ⟨rfl, rfl⟩).2
  simp only [List.map_nil, SfmCounter.total_nil, zero_add] at hsum
  unfold prepareBatches
  dsimp only
  split_ifs with hne
  · rw [← hsum]
    simp [BatchLoop.nextBatch, SfmCounter.read_aggregate, SfmCounter.read_empty]
  · rw [← hsum, List.eq_nil_of_length_eq_zero (hlen.trans (by omega)), SfmCounter.total_nil,
      add_zero]

end Batches

section Pull

variable {limits : RequestLimits} {process : Body → Processed}

theorem putSfmIntoQueue_put {q : SfmQueue} (h : q.isFull = false) (sfm : LogSelfMonitoring) :
    (putSfmIntoQueue q sfm).put = q.put ++ [sfm] := by
  rw [putSfmIntoQueue, h]
  rfl

theorem putSfmIntoQueue_extends (q : SfmQueue) (sfm : LogSelfMonitoring) :
    q.put <+: (putSfmIntoQueue q sfm).put := by
  rw [putSfmIntoQueue]
  split_ifs
  · exact List.prefix_refl _
  · exact List.prefix_append _ _

theorem receive_counters (counter : SfmCounter) {st : PullLoop AckId}
    (hfull : st.sfmQueue.isFull = false) (message : ReceivedMessage AckId Body) :
    counter.total (st.receive limits process message).sfmQueue.put +
        counter.total ((st.receive limits process message).processedMessages.map
          LogProcessingJob.selfMonitoring) =
      counter.total st.sfmQueue.put +
        counter.total (st.processedMessages.map LogProcessingJob.selfMonitoring) +
          if oversize limits process message then 0 else counterOf process counter message := by
  rw [PullLoop.receive, prepareContextAndProcessMessage, oversize, counterOf, messageJob]
  cases process message.message with
  | payload payload sfm =>
    cases hlarge : tooLarge limits ⟨payload, sfm, message.ackId⟩ with
    | true =>
      -- the message is acknowledged, and nobody keeps its self-monitoring
      simp [hlarge]
    | false => simp [hlarge, processedSfm, add_assoc]
  | skipped sfm =>
    simp only [processedSfm, putSfmIntoQueue_put hfull, SfmCounter.total_append,
      SfmCounter.total_singleton, Option.any_none, Bool.false_eq_true, ↓reduceIte]
    omega
  | raised sfm now =>
    simp only [processedSfm, putSfmIntoQueue_put hfull, SfmCounter.total_append,
      SfmCounter.total_singleton, Option.any_none, Bool.false_eq_true, ↓reduceIte]
    omega
  | queueFull => simp [processedSfm, SfmCounter.read_empty]

theorem receive_sfmQueue (st : PullLoop AckId) (message : ReceivedMessage AckId Body) :
    (st.receive limits process message).sfmQueue =
      (prepareContextAndProcessMessage process st.sfmQueue message).2 := by
  unfold PullLoop.receive
  rcases prepareContextAndProcessMessage process st.sfmQueue message with ⟨job, sfmQueue⟩
  cases job with
  | none => rfl
  | some job =>
    dsimp only
    split_ifs <;> rfl

theorem receive_extends (st : PullLoop AckId) (message : ReceivedMessage AckId Body) :
    st.sfmQueue.put <+: (st.receive limits process message).sfmQueue.put := by
  rw [receive_sfmQueue]
  unfold prepareContextAndProcessMessage
  cases process message.message with
  | payload payload sfm => exact List.prefix_refl _
  | skipped sfm => exact putSfmIntoQueue_extends _ _
  | raised sfm now => exact putSfmIntoQueue_extends _ _
  | queueFull => exact List.prefix_refl _

theorem foldl_receive_counters (counter : SfmCounter) (messages : List (ReceivedMessage AckId Body))
    {st : PullLoop AckId} (hfull : NeverFull limits process st messages) :
    counter.total (messages.foldl (PullLoop.receive limits process) st).sfmQueue.put +
        counter.total ((messages.foldl (PullLoop.receive limits process) st).processedMessages.map
          LogProcessingJob.selfMonitoring) =
      counter.total st.sfmQueue.put +
        counter.total (st.processedMessages.map LogProcessingJob.selfMonitoring) +
          (messages.map (fun message =>
            if oversize limits process message then 0
            else counterOf process counter message)).sum := by
  induction messages generalizing st with
  | nil => rfl
  | cons message messages ih =>
    obtain ⟨hnow, hrest⟩ := hfull
    rw [List.foldl_cons, ih hrest, receive_counters counter hnow, List.map_cons, List.sum_cons]
    omega

theorem foldl_receive_extends (limits : RequestLimits) (process : Body → Processed)
    (messages : List (ReceivedMessage AckId Body)) (st : PullLoop AckId) :
    st.sfmQueue.put <+: (messages.foldl (PullLoop.receive limits process) st).sfmQueue.put := by
  refine List.foldlRecOn (motive := fun after : PullLoop AckId =>
    st.sfmQueue.put <+: after.sfmQueue.put) messages _ (List.prefix_refl _) ?_
  intro before hbefore message _
  exact hbefore.trans (receive_extends before message)

theorem putSfmIntoQueue_total {counter : SfmCounter} {sfm : LogSelfMonitoring}
    (h : counter.read sfm = 0) (q : SfmQueue) :
    counter.total (putSfmIntoQueue q sfm).put = counter.total q.put := by
  rw [putSfmIntoQueue]
  split_ifs
  · rfl
  · simp [SfmQueue.push, h]

theorem performPull_counters (counter : SfmCounter) {times : PullTimes}
    {sfmQueue after : SfmQueue} {responses : List (PullResponse AckId Body)}
    {batches : List (LogBatch AckId)} {erroneous : List AckId}
    (h : performPull limits process times sfmQueue responses = .ok (batches, erroneous, after))
    (hfull : NeverFull limits process { sfmQueue } (responses.flatMap PullResponse.messages)) :
    counter.total after.put + counter.total (batches.map LogBatch.selfMonitoring) =
      counter.total sfmQueue.put + ((responses.flatMap PullResponse.messages).map (fun message =>
        if oversize limits process message then 0 else counterOf process counter message)).sum := by
  unfold performPull at h
  cases hst : responses.foldlM (PullLoop.response limits process) { sfmQueue } with
  | error e =>
    rw [hst] at h
    cases h
  | ok st =>
    rw [hst] at h
    have hreceived := foldl_receive_counters counter _ hfull
    rw [← response_foldlM limits process responses _ st hst] at hreceived
    cases h
    -- the object that the pull puts for itself has raised none of the counters
    rw [putSfmIntoQueue_total (by cases counter <;> rfl)]
    rw [List.map_nil, SfmCounter.total_nil, add_zero] at hreceived
    rw [← hreceived]
    congr 1
    by_cases hne : st.processedMessages = []
    · simp [hne]
    · rw [if_neg (by simpa using hne), prepareBatches_counters]

end Pull

end GcpMonitor.Logs
