import GcpMonitor.Logs.DeliverySystem

namespace GcpMonitor.Logs

open TransitionSystem TaskPool

variable {AckId : Type}

def LogBatch.Holds (batch : LogBatch AckId) (group : List (LogProcessingJob AckId)) : Prop :=
  batch.serializedBatch = serialize group ∧ batch.ackIds = group.map (fun job => job.ackId)

section PrepareBatches

variable {limits : RequestLimits} {logs : List (LogProcessingJob AckId)}

structure BatchLoop.HoldsFrom (logs : List (LogProcessingJob AckId)) (st : BatchLoop AckId) :
    Prop where
  batches : ∀ batch ∈ st.batches, ∃ group, batch.Holds group ∧ group ⊆ logs
  next : ∃ group, st.logsForNextBatch = group.map (fun job => job.payload) ∧
    st.ackIdsForNextBatch = group.map (fun job => job.ackId) ∧ group ⊆ logs

theorem BatchLoop.HoldsFrom.nextBatch {st : BatchLoop AckId} (h : st.HoldsFrom logs) :
    ∃ group, st.nextBatch.Holds group ∧ group ⊆ logs := by
  obtain ⟨group, hpayloads, hackIds, hsub⟩ := h.next
  refine ⟨group, ⟨?_, hackIds⟩, hsub⟩
  rw [BatchLoop.nextBatch, hpayloads, serialize]

theorem BatchLoop.HoldsFrom.appendEntry {st : BatchLoop AckId} (h : st.HoldsFrom logs)
    {job : LogProcessingJob AckId} (hjob : job ∈ logs) : (st.appendEntry job).HoldsFrom logs := by
  obtain ⟨group, hpayloads, hackIds, hsub⟩ := h.next
  refine ⟨h.batches, group ++ [job], ?_, ?_, ?_⟩
  · simp [BatchLoop.appendEntry, hpayloads]
  · simp [BatchLoop.appendEntry, hackIds]
  · exact List.append_subset.mpr ⟨hsub, by simpa using hjob⟩

theorem BatchLoop.HoldsFrom.closeBatch {st : BatchLoop AckId} (h : st.HoldsFrom logs) :
    st.closeBatch.HoldsFrom logs := by
  refine ⟨?_, [], rfl, rfl, List.nil_subset _⟩
  intro batch hbatch
  obtain hold | hnew := List.mem_append.mp hbatch
  · exact h.batches batch hold
  · rw [List.mem_singleton.mp hnew]
    exact h.nextBatch

theorem BatchLoop.HoldsFrom.step {st : BatchLoop AckId} (h : st.HoldsFrom logs)
    {job : LogProcessingJob AckId} (hjob : job ∈ logs) : (st.step limits job).HoldsFrom logs := by
  unfold BatchLoop.step
  dsimp only
  split_ifs
  · exact h.closeBatch.appendEntry hjob
  · exact h.appendEntry hjob

theorem BatchLoop.HoldsFrom.foldl {st : BatchLoop AckId} (h : st.HoldsFrom logs)
    (jobs : List (LogProcessingJob AckId)) (hjobs : jobs ⊆ logs) :
    (jobs.foldl (BatchLoop.step limits) st).HoldsFrom logs := by
  induction jobs generalizing st with
  | nil => exact h
  | cons job jobs ih =>
    obtain ⟨hjob, hrest⟩ := List.cons_subset.mp hjobs
    exact ih (h.step hjob) hrest

theorem prepareBatches_holds : ∀ batch ∈ prepareBatches limits logs,
    ∃ group, batch.Holds group ∧ group ⊆ logs := by
  intro batch hbatch
  have hempty : ({} : BatchLoop AckId).HoldsFrom logs :=
    ⟨by simp, [], rfl, rfl, List.nil_subset _⟩
  have hloop : (logs.foldl (BatchLoop.step limits) {}).HoldsFrom logs :=
    hempty.foldl logs (List.Subset.refl logs)
  unfold prepareBatches at hbatch
  dsimp only at hbatch
  split_ifs at hbatch
  · obtain hold | hnew := List.mem_append.mp hbatch
    · exact hloop.batches batch hold
    · rw [List.mem_singleton.mp hnew]
      exact hloop.nextBatch
  · exact hloop.batches batch hbatch

end PrepareBatches

theorem performPull_batches {Body : Type} {limits : RequestLimits} {process : Body → Processed}
    {times : PullTimes} {sfmQueue sfmQueue' : SfmQueue} {responses : List (PullResponse AckId Body)}
    {batches : List (LogBatch AckId)} {erroneous : List AckId}
    (h : performPull limits process times sfmQueue responses =
      .ok (batches, erroneous, sfmQueue')) : ∀ batch ∈ batches, ∃ group, batch.Holds group ∧
        group ⊆
          (responses.flatMap PullResponse.messages).filterMap (acceptedJob limits process) := by
  unfold performPull at h
  cases hst : responses.foldlM (PullLoop.response limits process) { sfmQueue } with
  | error e =>
    rw [hst] at h
    cases h
  | ok st =>
    rw [hst] at h
    obtain ⟨hprocessed, -⟩ := receive_foldl limits process
      (responses.flatMap PullResponse.messages) { sfmQueue }
    rw [← response_foldlM limits process responses _ st hst] at hprocessed
    cases h
    rw [← List.nil_append (List.filterMap _ _), ← hprocessed]
    intro batch hbatch
    split_ifs at hbatch
    · exact absurd hbatch List.not_mem_nil
    · exact prepareBatches_holds batch hbatch

section Facts

variable (limits : RequestLimits)

/-- The job of the message is in the body of a batch that Dynatrace has accepted. -/
def Arrived (received : List (LogBatch AckId)) (d : Delivery AckId) : Prop :=
  ∃ job, acceptedJob limits Arrival.processed d = some job ∧
    ∃ batch ∈ received, ∃ group, batch.Holds group ∧ job ∈ group

/-- The message may leave the subscription. -/
def Dealt (received : List (LogBatch AckId)) (d : Delivery AckId) : Prop :=
  rejected limits Arrival.processed d = true ∨ Arrived limits received d

namespace DeliveryState

def Covers (s : DeliveryState AckId) (ackId : AckId) : Prop :=
  ∃ d ∈ s.deliveries, d.ackId = ackId ∧ Dealt limits s.received d

def Backs (s : DeliveryState AckId) (batch : LogBatch AckId) : Prop :=
  ∃ group, batch.Holds group ∧
    group ⊆ s.deliveries.filterMap (acceptedJob limits Arrival.processed)

def SupportsWorker (s : DeliveryState AckId) : Worker AckId → Prop
  | .pulling => True
  | .acknowledging => True
  | .pushing ackIdsOfErroneousMessages push =>
    (∀ ackId ∈ ackIdsOfErroneousMessages, s.Covers limits ackId) ∧
      (∀ ackId ∈ push.shared.ackIdsToSend, s.Covers limits ackId) ∧
      ∀ task ∈ push.tasks, s.Backs limits task.batch

end DeliveryState

end Facts

def SendTask.unanswered (task : SendTask AckId) : Multiset AckId :=
  match task.phase with
  | .waiting => task.batch.ackIds
  | .sending => task.batch.ackIds
  | .reporting => 0
  | .done => 0

def PushState.unanswered (push : PushState AckId) : Multiset AckId :=
  (push.tasks.map SendTask.unanswered).sum

def Worker.unanswered : Worker AckId → Multiset AckId
  | .pulling => 0
  | .acknowledging => 0
  | .pushing _ push => push.unanswered

theorem sum_coe_flatMap {α β : Type} (xs : List α) (f : α → List β) :
    (xs.map (fun x => (f x : Multiset β))).sum = (xs.flatMap f : List β) := by
  induction xs with
  | nil => rfl
  | cons x xs ih => rw [List.map_cons, List.sum_cons, ih, List.flatMap_cons, Multiset.coe_add]

theorem Pull.map_fst_sends (p : Pull AckId) (batches : List (LogBatch AckId)) :
    (p.sends batches).map Prod.fst = batches := by
  conv_rhs => rw [← List.zipIdx_map_fst 0 batches]
  rw [Pull.sends, List.map_map]
  rfl

theorem pushLogsStart_unanswered (sfmQueue : SfmQueue) (p : Pull AckId)
    (batches : List (LogBatch AckId)) :
    (pushLogsStart sfmQueue p.permits p.sendingTimeStart (p.sends batches)).unanswered =
      (batches.flatMap (fun batch => batch.ackIds) : List AckId) := by
  rw [PushState.unanswered, pushLogsStart, List.map_map, ← sum_coe_flatMap]
  conv_rhs => rw [← p.map_fst_sends batches, List.map_map]
  rfl

theorem PushState.step_accepts {compressedLength : String → ℕ} {push next : PushState AckId}
    {event : PushEvent} (h : push.step compressedLength event = some next) :
    next.tasks.map SendTask.batch = push.tasks.map SendTask.batch ∧
    next.shared.ackIdsToSend = push.shared.ackIdsToSend ++
      (push.accepts event).flatMap (fun batch => batch.ackIds) ∧
    (∀ batch ∈ push.accepts event, ∃ task ∈ push.tasks, task.batch = batch) ∧
    next.unanswered + ((push.accepts event).flatMap (fun batch => batch.ackIds) : List AckId) ≤
      push.unanswered := by
  obtain ⟨hown, htasks, count, hshared⟩ | ⟨i, task, htask, hcase⟩ := PushState.step_cases h
  · have haccepts : push.accepts event = [] := by
      cases event with
      | respond i => contradiction
      | _ => rfl
    rw [haccepts, PushState.unanswered, htasks, hshared]
    exact ⟨rfl, (List.append_nil _).symm, by simp, by simp [PushState.unanswered]⟩
  · obtain ⟨rfl, hphase, htasks, hshared⟩ | ⟨rfl, hphase, htasks, hshared⟩ |
      ⟨rfl, hphase, htasks, hshared⟩ := hcase
    · have hsum := sum_map_set SendTask.unanswered { task with phase := .sending } htask
      refine ⟨?_, ?_, by simp [PushState.accepts], ?_⟩
      · rw [htasks]
        exact map_set_of_eq SendTask.batch htask rfl
      · rw [hshared]
        simp [PushState.accepts]
      · rw [PushState.unanswered, htasks]
        simp only [SendTask.unanswered, hphase] at hsum
        rw [add_right_cancel hsum]
        simp [PushState.accepts, PushState.unanswered]
    · have hsum := sum_map_set SendTask.unanswered { task with phase := .reporting } htask
      simp only [SendTask.unanswered, hphase, add_zero] at hsum
      have haccepts : push.accepts (.respond i) =
          if task.outcome.accepted then [task.batch] else [] := by
        rw [PushState.accepts, htask]
      refine ⟨?_, ?_, ?_, ?_⟩
      · rw [htasks]
        exact map_set_of_eq SendTask.batch htask rfl
      · rw [hshared, SendState.sendResponse_ackIdsToSend, haccepts]
        split_ifs <;> simp
      · intro batch hbatch
        rw [haccepts] at hbatch
        split_ifs at hbatch
        · exact ⟨task, List.mem_of_getElem? htask, (List.mem_singleton.mp hbatch).symm⟩
        · exact absurd hbatch List.not_mem_nil
      · rw [PushState.unanswered, htasks, PushState.unanswered, ← hsum, haccepts]
        split_ifs
        · simp
        · exact add_le_add_right (Multiset.zero_le _) _
    · have hsum := sum_map_set SendTask.unanswered { task with phase := .done } htask
      simp only [SendTask.unanswered, hphase] at hsum
      refine ⟨?_, ?_, by simp [PushState.accepts], ?_⟩
      · rw [htasks]
        exact map_set_of_eq SendTask.batch htask rfl
      · rw [hshared]
        simp [PushState.accepts]
      · rw [PushState.unanswered, htasks, add_right_cancel hsum]
        simp [PushState.accepts, PushState.unanswered]

end GcpMonitor.Logs
