import GcpMonitor.Logs.PushLogs
import GcpMonitor.Python.Error
import Mathlib.Data.List.Range

namespace GcpMonitor.Logs

open Python TransitionSystem

variable {AckId Body : Type}

structure ReceivedMessage (AckId Body : Type) where
  ackId : AckId
  message : Body

/-- How one `pull_messages` ends. A status from 300 to 399 is neither raised nor returned, so the
coroutine returns `None`. -/
inductive PullResponse (AckId Body : Type) where
  | raised
  | none
  | received (receivedMessages : List (ReceivedMessage AckId Body))

def PullResponse.messages : PullResponse AckId Body → List (ReceivedMessage AckId Body)
  | .raised => []
  | .none => []
  | .received messages => messages

/-- How `_process_message` ends for a message: with a payload, with no payload, or with an
exception, of which `queue.Full` is treated apart. -/
inductive Processed where
  | payload (payload : String) (sfm : LogSelfMonitoring)
  | skipped (sfm : LogSelfMonitoring)
  | raised (sfm : LogSelfMonitoring) (now : ℚ)
  | queueFull
  deriving DecidableEq

def prepareContextAndProcessMessage (process : Body → Processed) (sfmQueue : SfmQueue)
    (message : ReceivedMessage AckId Body) : Option (LogProcessingJob AckId) × SfmQueue :=
  match process message.message with
  | .payload payload sfm => (some ⟨payload, sfm, message.ackId⟩, sfmQueue)
  | .skipped sfm => (none, putSfmIntoQueue sfmQueue sfm)
  | .queueFull => (none, sfmQueue)
  | .raised sfm now =>
    let sfm := { sfm with parsingErrors := sfm.parsingErrors + 1 }
    (none, putSfmIntoQueue sfmQueue (sfm.calculateProcessingTime now))

structure PullLoop (AckId : Type) where
  processedMessages : List (LogProcessingJob AckId) := []
  ackIdsOfErroneousMessages : List AckId := []
  sfmQueue : SfmQueue

def tooLarge (limits : RequestLimits) (job : LogProcessingJob AckId) : Bool :=
  (job.bytesSize : ℤ) > limits.requestBodyMaxSize - 2

def PullLoop.receive (limits : RequestLimits) (process : Body → Processed)
    (st : PullLoop AckId) (message : ReceivedMessage AckId Body) : PullLoop AckId :=
  let (messageJob, sfmQueue) := prepareContextAndProcessMessage process st.sfmQueue message
  match messageJob with
  | some job =>
    if tooLarge limits job then
      { st with
        ackIdsOfErroneousMessages := st.ackIdsOfErroneousMessages ++ [message.ackId], sfmQueue }
    else { st with processedMessages := st.processedMessages ++ [job], sfmQueue }
  | none =>
    { st with
      ackIdsOfErroneousMessages := st.ackIdsOfErroneousMessages ++ [message.ackId], sfmQueue }

def PullLoop.response (limits : RequestLimits) (process : Body → Processed)
    (st : PullLoop AckId) : PullResponse AckId Body → Except PyError (PullLoop AckId)
  | .raised => .ok st
  | .none => .error .attributeError
  | .received messages => .ok (messages.foldl (PullLoop.receive limits process) st)

structure PullTimes where
  pullingStart : ℚ
  pullingEnd : ℚ
  processingStart : ℚ
  processingEnd : ℚ

def performPull (limits : RequestLimits) (process : Body → Processed) (times : PullTimes)
    (sfmQueue : SfmQueue) (responses : List (PullResponse AckId Body)) :
    Except PyError (List (LogBatch AckId) × List AckId × SfmQueue) := do
  let st ← responses.foldlM (PullLoop.response limits process) { sfmQueue }
  let sfm : LogSelfMonitoring :=
    { pullingTimeStart := times.pullingStart, processingTimeStart := times.processingStart }
  let sfm := (sfm.calculatePullingTime times.pullingEnd).calculateProcessingTime times.processingEnd
  let sfmQueue := putSfmIntoQueue st.sfmQueue sfm
  let batches :=
    if st.processedMessages.isEmpty then [] else prepareBatches limits st.processedMessages
  pure (batches, st.ackIdsOfErroneousMessages, sfmQueue)

def chunks {α : Type} (fullList : List α) (chunkSize : ℤ) : List (List α) :=
  let size := (max 1 chunkSize).toNat
  (List.range' 0 ((fullList.length + size - 1) / size) size).map
    (fun i => (fullList.drop i).take size)

def pushAckIds (ackIds : List AckId) : List (List AckId) := chunks ackIds 2048

/-- All that one iteration of `pull_and_push_logs_forever` depends on: the configuration, what the
pulls return, how each message is processed, how each send ends and in which order they run. -/
structure Iteration (AckId Body : Type) where
  limits : RequestLimits
  process : Body → Processed
  responses : List (PullResponse AckId Body)
  outcomes : ℕ → SendOutcome
  trace : List PushEvent
  sfmQueue : SfmQueue
  permits : ℕ
  pullTimes : PullTimes
  sendingTimeStart : ℚ
  sendingTimeEnd : ℚ
  compressedLength : String → ℕ

namespace Iteration

variable (it : Iteration AckId Body)

def pulled : Except PyError (List (LogBatch AckId) × List AckId × SfmQueue) :=
  performPull it.limits it.process it.pullTimes it.sfmQueue it.responses

def sends (batches : List (LogBatch AckId)) : List (LogBatch AckId × SendOutcome) :=
  batches.zipIdx.map (fun (batch, i) => (batch, it.outcomes i))

/-- The argument of `push_ack_ids`, when the iteration gets that far: no pull returned `None` and
every send has ended. -/
def ackIdsToPush : Option (List AckId) :=
  match it.pulled with
  | .error _ => none
  | .ok (batches, ackIdsOfErroneousMessages, sfmQueue) =>
    let start := pushLogsStart sfmQueue it.permits it.sendingTimeStart (it.sends batches)
    match (pushLogsSystem it.compressedLength start).run it.trace with
    | none => none
    | some s =>
      if s.allDone then
        some ((pushLogsResult s it.sendingTimeEnd).1 ++ ackIdsOfErroneousMessages)
      else none

def receivedMessages : List (ReceivedMessage AckId Body) :=
  it.responses.flatMap PullResponse.messages

end Iteration

def messageJob (process : Body → Processed) (message : ReceivedMessage AckId Body) :
    Option (LogProcessingJob AckId) :=
  match process message.message with
  | .payload payload sfm => some ⟨payload, sfm, message.ackId⟩
  | .skipped _ => none
  | .queueFull => none
  | .raised _ _ => none

def acceptedJob (limits : RequestLimits) (process : Body → Processed)
    (message : ReceivedMessage AckId Body) : Option (LogProcessingJob AckId) :=
  (messageJob process message).filter (fun job => !tooLarge limits job)

def rejected (limits : RequestLimits) (process : Body → Processed)
    (message : ReceivedMessage AckId Body) : Bool :=
  (acceptedJob limits process message).isNone

theorem prepareContextAndProcessMessage_fst (process : Body → Processed) (sfmQueue : SfmQueue)
    (message : ReceivedMessage AckId Body) :
    (prepareContextAndProcessMessage process sfmQueue message).1 = messageJob process message := by
  unfold prepareContextAndProcessMessage messageJob
  cases process message.message <;> rfl

theorem receive_cases (limits : RequestLimits) (process : Body → Processed) (st : PullLoop AckId)
    (message : ReceivedMessage AckId Body) :
    (st.receive limits process message).processedMessages =
        st.processedMessages ++ (acceptedJob limits process message).toList ∧
      (st.receive limits process message).ackIdsOfErroneousMessages =
        st.ackIdsOfErroneousMessages ++
          if rejected limits process message then [message.ackId] else [] := by
  have hfst := prepareContextAndProcessMessage_fst process st.sfmQueue message
  unfold PullLoop.receive rejected acceptedJob
  rw [← hfst]
  cases hjob : (prepareContextAndProcessMessage process st.sfmQueue message).1 with
  | none => simp [hjob]
  | some job =>
    cases hl : tooLarge limits job with
    | true => simp [hjob, hl]
    | false => simp [hjob, hl, Option.filter]

theorem receive_foldl (limits : RequestLimits) (process : Body → Processed)
    (messages : List (ReceivedMessage AckId Body)) (st : PullLoop AckId) :
    (messages.foldl (PullLoop.receive limits process) st).processedMessages =
        st.processedMessages ++ messages.filterMap (acceptedJob limits process) ∧
      (messages.foldl (PullLoop.receive limits process) st).ackIdsOfErroneousMessages =
        st.ackIdsOfErroneousMessages ++
          (messages.filter (rejected limits process)).map (fun m => m.ackId) := by
  induction messages generalizing st with
  | nil => simp
  | cons message rest ih =>
    obtain ⟨hp, he⟩ := receive_cases limits process st message
    obtain ⟨ihp, ihe⟩ := ih (st.receive limits process message)
    rw [List.foldl_cons, ihp, ihe, hp, he]
    constructor
    · cases hj : acceptedJob limits process message <;> simp [hj]
    · cases hr : rejected limits process message <;> simp [hr]

theorem response_foldlM (limits : RequestLimits) (process : Body → Processed)
    (responses : List (PullResponse AckId Body)) (st st' : PullLoop AckId)
    (h : responses.foldlM (PullLoop.response limits process) st = .ok st') :
    st' = (responses.flatMap PullResponse.messages).foldl (PullLoop.receive limits process) st := by
  induction responses generalizing st with
  | nil =>
    cases h
    rfl
  | cons response rest ih =>
    rw [List.foldlM_cons] at h
    cases response with
    | raised => exact ih st h
    | none => cases h
    | received messages =>
      rw [List.flatMap_cons, List.foldl_append]
      exact ih _ h

theorem acceptedJob_ackId {limits : RequestLimits} {process : Body → Processed}
    {message : ReceivedMessage AckId Body} {job : LogProcessingJob AckId}
    (h : acceptedJob limits process message = some job) : job.ackId = message.ackId := by
  obtain ⟨hjob, -⟩ := Option.filter_eq_some_iff.mp h
  unfold messageJob at hjob
  split at hjob <;> cases hjob
  rfl

theorem acceptedJobs_ackIds (limits : RequestLimits) (process : Body → Processed)
    (messages : List (ReceivedMessage AckId Body)) :
    (messages.filterMap (acceptedJob limits process)).map (fun job => job.ackId) =
      (messages.filter (fun m => !rejected limits process m)).map (fun m => m.ackId) := by
  induction messages with
  | nil => rfl
  | cons message rest ih =>
    cases hj : acceptedJob limits process message with
    | none => simpa [hj, rejected] using ih
    | some job => simpa [hj, rejected, acceptedJob_ackId hj] using ih

theorem performPull_spec {limits : RequestLimits} {process : Body → Processed} {times : PullTimes}
    {sfmQueue sfmQueue' : SfmQueue} {responses : List (PullResponse AckId Body)}
    {batches : List (LogBatch AckId)} {erroneous : List AckId}
    (h : performPull limits process times sfmQueue responses =
      .ok (batches, erroneous, sfmQueue')) :
    batches.flatMap (fun b => b.ackIds) =
        ((responses.flatMap PullResponse.messages).filter
          (fun m => !rejected limits process m)).map (fun m => m.ackId) ∧
      erroneous = ((responses.flatMap PullResponse.messages).filter
          (rejected limits process)).map (fun m => m.ackId) := by
  unfold performPull at h
  cases hst : responses.foldlM (PullLoop.response limits process) { sfmQueue } with
  | error e =>
    rw [hst] at h
    cases h
  | ok st =>
    rw [hst] at h
    obtain ⟨hp, he⟩ := receive_foldl limits process (responses.flatMap PullResponse.messages)
      { sfmQueue }
    rw [← response_foldlM limits process responses _ st hst] at hp he
    cases h
    refine ⟨?_, by simpa using he⟩
    rw [← acceptedJobs_ackIds, ← List.nil_append (List.filterMap _ _), ← hp]
    by_cases hne : st.processedMessages = []
    · simp [hne]
    · rw [if_neg (by simpa using hne), prepareBatches_ackIds]

theorem slices_flatten {α : Type} (fullList : List α) (size count start : ℕ) :
    ((List.range' start count size).map (fun i => (fullList.drop i).take size)).flatten =
      (fullList.drop start).take (count * size) := by
  induction count generalizing start with
  | zero => simp
  | succ count ih =>
    rw [List.range'_succ, List.map_cons, List.flatten_cons, ih, Nat.succ_mul,
      Nat.add_comm (count * size) size, List.take_add, List.drop_drop]

theorem chunks_flatten {α : Type} (fullList : List α) (chunkSize : ℤ) :
    (chunks fullList chunkSize).flatten = fullList := by
  have hsize : 0 < (max 1 chunkSize).toNat := by omega
  unfold chunks
  rw [slices_flatten, List.drop_zero, List.take_of_length_le]
  have := Nat.lt_div_mul_add hsize (a := fullList.length + (max 1 chunkSize).toNat - 1)
  omega

theorem chunks_bounds {α : Type} (fullList : List α) (chunkSize : ℤ) :
    ∀ chunk ∈ chunks fullList chunkSize,
      chunk ≠ [] ∧ (chunk.length : ℤ) ≤ max 1 chunkSize := by
  intro chunk hchunk
  obtain ⟨i, hi, rfl⟩ := List.mem_map.mp hchunk
  obtain ⟨j, hj, rfl⟩ := List.mem_range'.mp hi
  have hsize : 0 < (max 1 chunkSize).toNat := by omega
  have hlt : 0 + (max 1 chunkSize).toNat * j < fullList.length := by
    have hle := (Nat.le_div_iff_mul_le hsize).mp hj
    rw [Nat.succ_mul, Nat.mul_comm] at hle
    omega
  constructor
  · apply List.ne_nil_of_length_pos
    rw [List.length_take, List.length_drop]
    omega
  · rw [List.length_take]
    omega

theorem acknowledges_exactly (it : Iteration AckId Body) (ackIds : List AckId)
    (h : it.ackIdsToPush = some ackIds) :
    ∃ batches erroneous queue, it.pulled = .ok (batches, erroneous, queue) ∧
      batches.flatMap (fun b => b.ackIds) =
        (it.receivedMessages.filter (fun m => !rejected it.limits it.process m)).map
          (fun m => m.ackId) ∧
      (ackIds : Multiset AckId) =
        ((it.receivedMessages.filter (rejected it.limits it.process)).map (fun m => m.ackId) :
          List AckId) +
        (batches.zipIdx.map (fun (batch, i) =>
          if (it.outcomes i).accepted then (batch.ackIds : Multiset AckId) else 0)).sum ∧
      (pushAckIds ackIds).flatten = ackIds ∧
      ∀ chunk ∈ pushAckIds ackIds, chunk ≠ [] ∧ chunk.length ≤ 2048 := by
  unfold Iteration.ackIdsToPush at h
  cases hpull : it.pulled with
  | error e =>
    rw [hpull] at h
    cases h
  | ok result =>
    obtain ⟨batches, erroneous, queue⟩ := result
    rw [hpull] at h
    dsimp only at h
    split at h
    · cases h
    · rename_i s hrun
      obtain ⟨hdone, h⟩ := Option.ite_none_right_eq_some.mp h
      cases h
      obtain ⟨hbatches, herroneous⟩ := performPull_spec hpull
      have hack := pushLogs_allDone it.compressedLength queue it.permits it.sendingTimeStart
        (it.sends batches) it.trace s hrun hdone
      have hresult := pushLogsResult_ackIds it.compressedLength queue it.permits
        it.sendingTimeStart (it.sends batches) it.trace s hrun it.sendingTimeEnd
      refine ⟨batches, erroneous, queue, rfl, hbatches, ?_, chunks_flatten _ _, ?_⟩
      · rw [hresult, ← Multiset.coe_add, hack, add_comm, herroneous, Iteration.sends, List.map_map]
        rfl
      · intro chunk hchunk
        obtain ⟨hne, hlen⟩ := chunks_bounds _ _ chunk hchunk
        exact ⟨hne, by omega⟩

def iterationWithOneFailedBatch : Iteration ℕ (Option String) where
  limits := ⟨4, 10⟩
  process := fun message => match message with
    | some payload => .payload payload {}
    | none => .skipped {}
  responses := [.received [⟨0, some "a"⟩, ⟨1, some "b"⟩], .raised, .received [⟨2, none⟩]]
  outcomes := fun i => if i = 0 then .response 503 else .response 204
  trace := [.start 1, .start 0, .respond 0, .respond 1, .report 1, .report 0]
  sfmQueue := { maxsize := 0 }
  permits := 2
  pullTimes := ⟨0, 1, 1, 2⟩
  sendingTimeStart := 2
  sendingTimeEnd := 3
  compressedLength := String.utf8ByteSize

theorem acknowledges_exactly_one_failed_batch :
    ∃ batches erroneous queue,
      iterationWithOneFailedBatch.pulled = .ok (batches, erroneous, queue) ∧
      batches.flatMap (fun b => b.ackIds) = [0, 1] ∧
      ((([1, 2] : List ℕ) : Multiset ℕ) = ([2] : List ℕ) +
        (batches.zipIdx.map (fun (batch, i) =>
          if (iterationWithOneFailedBatch.outcomes i).accepted then (batch.ackIds : Multiset ℕ)
          else 0)).sum) ∧
      (pushAckIds [1, 2]).flatten = [1, 2] ∧
      ∀ chunk ∈ pushAckIds [1, 2], chunk ≠ [] ∧ chunk.length ≤ 2048 :=
  acknowledges_exactly iterationWithOneFailedBatch [1, 2] (by decide +kernel)

end GcpMonitor.Logs
