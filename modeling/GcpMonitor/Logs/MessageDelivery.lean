import GcpMonitor.Logs.HeldMessages

namespace GcpMonitor.Logs

open TransitionSystem TaskPool

variable {AckId : Type}

namespace DeliveryState

variable {limits : RequestLimits} {compressedLength : String → ℕ} {s t : DeliveryState AckId}

structure Grows (s t : DeliveryState AckId) : Prop where
  deliveries : s.deliveries ⊆ t.deliveries
  received : s.received ⊆ t.received

theorem Grows.dealt (h : Grows s t) {d : Delivery AckId} (hs : Dealt limits s.received d) :
    Dealt limits t.received d := by
  obtain hrejected | ⟨job, hjob, batch, hbatch, hgroup⟩ := hs
  · exact .inl hrejected
  · exact .inr ⟨job, hjob, batch, h.received hbatch, hgroup⟩

theorem Grows.covers (h : Grows s t) {ackId : AckId} (hs : s.Covers limits ackId) :
    t.Covers limits ackId := by
  obtain ⟨d, hd, hackId, hdealt⟩ := hs
  exact ⟨d, h.deliveries hd, hackId, h.dealt hdealt⟩

theorem Grows.backs (h : Grows s t) {batch : LogBatch AckId} (hs : s.Backs limits batch) :
    t.Backs limits batch := by
  obtain ⟨group, hholds, hsub⟩ := hs
  exact ⟨group, hholds, List.Subset.trans hsub (List.filterMap_subset _ h.deliveries)⟩

theorem Grows.supportsWorker (h : Grows s t) {worker : Worker AckId}
    (hs : s.SupportsWorker limits worker) : t.SupportsWorker limits worker := by
  cases worker with
  | pulling => trivial
  | acknowledging => trivial
  | pushing erroneous push =>
    obtain ⟨herroneous, hsent, htasks⟩ := hs
    exact ⟨fun ackId hackId => h.covers (herroneous ackId hackId),
      fun ackId hackId => h.covers (hsent ackId hackId),
      fun task htask => h.backs (htasks task htask)⟩

theorem covers_of_received {batch : LogBatch AckId} (hbacks : s.Backs limits batch)
    (hreceived : batch ∈ s.received) : ∀ ackId ∈ batch.ackIds, s.Covers limits ackId := by
  obtain ⟨group, hholds, hsub⟩ := hbacks
  intro ackId hackId
  rw [hholds.2] at hackId
  obtain ⟨job, hjob, rfl⟩ := List.mem_map.mp hackId
  obtain ⟨d, hd, haccepted⟩ := List.mem_filterMap.mp (hsub hjob)
  exact ⟨d, hd, (acceptedJob_ackId haccepted).symm,
    .inr ⟨job, haccepted, batch, hreceived, group, hholds, hjob⟩⟩

structure Valid (limits : RequestLimits) (s : DeliveryState AckId) : Prop where
  fresh : (s.deliveries.map (fun d => d.ackId)).Nodup
  given : ∀ d ∈ s.deliveries, d.message.number < s.published
  workers : ∀ worker ∈ s.workers, s.SupportsWorker limits worker
  received : ∀ batch ∈ s.received, s.Backs limits batch
  requests : ∀ ackIds ∈ s.requests, ∀ ackId ∈ ackIds, s.Covers limits ackId
  acknowledged : ∀ n ∈ s.acknowledged,
    ∃ d ∈ s.deliveries, d.message.number = n ∧ Dealt limits s.received d
  once : (s.received.flatMap (fun batch => batch.ackIds) : Multiset AckId) +
    (s.workers.map Worker.unanswered).sum ≤ (s.deliveries.map (fun d => d.ackId) : List AckId)

theorem Valid.requests_grow (hv : s.Valid limits) (hgrows : Grows s t) :
    ∀ ackIds ∈ s.requests, ∀ ackId ∈ ackIds, t.Covers limits ackId := by
  intro ackIds hackIds ackId hackId
  exact hgrows.covers (hv.requests ackIds hackIds ackId hackId)

theorem Valid.acknowledged_grow (hv : s.Valid limits) (hgrows : Grows s t) :
    ∀ n ∈ s.acknowledged, ∃ d ∈ t.deliveries, d.message.number = n ∧ Dealt limits t.received d := by
  intro n hn
  obtain ⟨d, hd, hnumber, hdealt⟩ := hv.acknowledged n hn
  exact ⟨d, hgrows.deliveries hd, hnumber, hgrows.dealt hdealt⟩

theorem Valid.workers_grow (hv : s.Valid limits) (hgrows : Grows s t) {w : ℕ}
    {worker : Worker AckId} (hworker : t.SupportsWorker limits worker) :
    ∀ other ∈ s.workers.set w worker, t.SupportsWorker limits other :=
  forall_mem_set (fun other hother => hgrows.supportsWorker (hv.workers other hother)) hworker

theorem Valid.publish (hv : s.Valid limits) :
    Valid limits { s with published := s.published + 1 } where
  fresh := hv.fresh
  given := by
    intro d hd
    exact (hv.given d hd).trans (Nat.lt_succ_self _)
  workers := by
    have hgrows : Grows s { s with published := s.published + 1 } :=
      ⟨List.Subset.refl _, List.Subset.refl _⟩
    intro worker hworker
    exact hgrows.supportsWorker (hv.workers worker hworker)
  received := hv.received
  requests := hv.requests
  acknowledged := hv.acknowledged
  once := hv.once

theorem Valid.set (hv : s.Valid limits) {w : ℕ} {worker old : Worker AckId}
    (hold : s.workers[w]? = some old) (hworker : s.SupportsWorker limits worker)
    (hunanswered : worker.unanswered = 0) :
    Valid limits { s with workers := s.workers.set w worker } where
  fresh := hv.fresh
  given := hv.given
  workers := by
    have hgrows : Grows s { s with workers := s.workers.set w worker } :=
      ⟨List.Subset.refl _, List.Subset.refl _⟩
    exact hv.workers_grow hgrows (hgrows.supportsWorker hworker)
  received := hv.received
  requests := hv.requests
  acknowledged := hv.acknowledged
  once := by
    have hsum := sum_map_set Worker.unanswered worker hold
    rw [hunanswered, add_zero] at hsum
    refine le_trans ?_ hv.once
    dsimp only
    rw [← hsum]
    gcongr
    exact Multiset.le_add_right _ _

theorem pulled_supports (limits : RequestLimits) (s : DeliveryState AckId) (p : Pull AckId)
    (hsub : p.deliveries ⊆ s.deliveries) : s.SupportsWorker limits (p.worker limits) ∧
      (p.worker limits).unanswered ≤ (p.deliveries.map (fun d => d.ackId) : List AckId) := by
  rw [Pull.worker]
  cases hpull : performPull limits Arrival.processed p.pullTimes p.sfmQueue p.responses with
  | error e => exact ⟨trivial, Multiset.zero_le _⟩
  | ok result =>
    obtain ⟨batches, erroneous, sfmQueue⟩ := result
    obtain ⟨hbatches, herroneous⟩ := performPull_spec hpull
    refine ⟨⟨?_, ?_, ?_⟩, ?_⟩
    · intro ackId hackId
      rw [herroneous] at hackId
      obtain ⟨d, hd, rfl⟩ := List.mem_map.mp hackId
      obtain ⟨hmem, hrejected⟩ := List.mem_filter.mp hd
      exact ⟨d, hsub hmem, rfl, .inl hrejected⟩
    · intro ackId hackId
      exact absurd hackId List.not_mem_nil
    · intro task htask
      obtain ⟨send, hsend, rfl⟩ := List.mem_map.mp htask
      have hbatch : send.1 ∈ batches := p.map_fst_sends batches ▸ List.mem_map_of_mem hsend
      obtain ⟨group, hholds, hgroup⟩ := performPull_batches hpull send.1 hbatch
      exact ⟨group, hholds, List.Subset.trans hgroup (List.filterMap_subset _ hsub)⟩
    · have hunanswered := pushLogsStart_unanswered sfmQueue p batches
      change PushState.unanswered _ ≤ _
      rw [hunanswered, hbatches, Multiset.coe_le]
      exact (List.filter_sublist.map _).subperm

theorem Valid.push (hv : s.Valid limits) {w : ℕ} {erroneous : List AckId}
    {push next : PushState AckId} {event : PushEvent}
    (hworker : s.workers[w]? = some (.pushing erroneous push))
    (hstep : push.step compressedLength event = some next) :
    Valid limits { s with
      received := s.received ++ push.accepts event
      workers := s.workers.set w (.pushing erroneous next) } := by
  obtain ⟨htasks, hsent, haccepts, hunanswered⟩ := PushState.step_accepts hstep
  have hgrows : Grows s { s with
      received := s.received ++ push.accepts event
      workers := s.workers.set w (.pushing erroneous next) } :=
    ⟨List.Subset.refl _, List.subset_append_left _ _⟩
  obtain ⟨herroneous, hcovered, hbacked⟩ :=
    hgrows.supportsWorker (hv.workers _ (List.mem_of_getElem? hworker))
  have hreceived : ∀ batch ∈ push.accepts event, DeliveryState.Backs limits { s with
      received := s.received ++ push.accepts event
      workers := s.workers.set w (.pushing erroneous next) } batch := by
    intro batch hbatch
    obtain ⟨task, htask, rfl⟩ := haccepts batch hbatch
    exact hbacked task htask
  refine ⟨hv.fresh, hv.given, hv.workers_grow hgrows ⟨herroneous, ?_, ?_⟩, ?_,
    hv.requests_grow hgrows, hv.acknowledged_grow hgrows, ?_⟩
  · intro ackId hackId
    rw [hsent] at hackId
    obtain hold | hnew := List.mem_append.mp hackId
    · exact hcovered ackId hold
    · obtain ⟨batch, hbatch, hmem⟩ := List.mem_flatMap.mp hnew
      exact covers_of_received (hreceived batch hbatch)
        (List.mem_append_right _ hbatch) ackId hmem
  · intro task htask
    have hbatch : task.batch ∈ push.tasks.map SendTask.batch :=
      htasks ▸ List.mem_map_of_mem htask
    obtain ⟨task', htask', heq⟩ := List.mem_map.mp hbatch
    exact heq ▸ hbacked task' htask'
  · intro batch hbatch
    obtain hold | hnew := List.mem_append.mp hbatch
    · exact hgrows.backs (hv.received batch hold)
    · exact hreceived batch hnew
  · have hsum := sum_map_set Worker.unanswered (.pushing erroneous next) hworker
    simp only [Worker.unanswered] at hsum
    dsimp only
    rw [List.flatMap_append, ← Multiset.coe_add]
    refine le_trans ?_ hv.once
    -- what the answer takes from the batches without an answer goes to those received
    apply le_of_add_le_add_right (a := push.unanswered)
    rw [add_assoc _ _ push.unanswered, hsum, add_assoc, add_assoc]
    apply add_le_add_right
    rw [add_left_comm]
    apply add_le_add_right
    rw [add_comm]
    exact hunanswered

theorem Valid.acknowledge (hv : s.Valid limits) {w : ℕ} {erroneous : List AckId}
    {push : PushState AckId} (hworker : s.workers[w]? = some (.pushing erroneous push))
    (sendingTimeEnd : ℚ) :
    Valid limits { s with
      requests := s.requests ++ pushAckIds ((pushLogsResult push sendingTimeEnd).1 ++ erroneous)
      workers := s.workers.set w .acknowledging } := by
  have hset : Valid limits { s with workers := s.workers.set w .acknowledging } :=
    hv.set hworker trivial rfl
  obtain ⟨herroneous, hcovered, -⟩ := hv.workers _ (List.mem_of_getElem? hworker)
  refine ⟨hset.fresh, hset.given, hset.workers, hset.received, ?_, hset.acknowledged, hset.once⟩
  intro ackIds hackIds ackId hackId
  obtain hold | hnew := List.mem_append.mp hackIds
  · exact hv.requests ackIds hold ackId hackId
  · have hmem : ackId ∈ (pushLogsResult push sendingTimeEnd).1 ++ erroneous := by
      rw [← chunks_flatten ((pushLogsResult push sendingTimeEnd).1 ++ erroneous) 2048]
      exact List.mem_flatten.mpr ⟨ackIds, hnew, hackId⟩
    obtain hsent | herr := List.mem_append.mp hmem
    · apply hcovered
      rw [pushLogsResult] at hsent
      split_ifs at hsent
      · exact absurd hsent List.not_mem_nil
      · exact hsent
    · exact herroneous ackId herr

variable [DecidableEq AckId]

theorem canGiveOut_iff {p : Pull AckId} : s.canGiveOut p = true ↔
    (∀ d ∈ p.deliveries, d.message.number < s.published) ∧
      ((s.deliveries ++ p.deliveries).map (fun d => d.ackId)).Nodup := by
  rw [canGiveOut, Bool.and_eq_true, List.all_eq_true]
  simp

theorem Valid.pull (hv : s.Valid limits) {w : ℕ} {old : Worker AckId} {p : Pull AckId}
    (hold : s.workers[w]? = some old) (hgive : s.canGiveOut p = true) :
    Valid limits (s.pull limits w p) := by
  obtain ⟨hgiven, hfresh⟩ := canGiveOut_iff.mp hgive
  have hgrows : Grows s (s.pull limits w p) :=
    ⟨List.subset_append_left _ _, List.Subset.refl _⟩
  obtain ⟨hsupports, hunanswered⟩ := pulled_supports limits (s.pull limits w p) p
    (List.subset_append_right _ _)
  refine ⟨hfresh, ?_, hv.workers_grow hgrows hsupports, ?_, hv.requests_grow hgrows,
    hv.acknowledged_grow hgrows, ?_⟩
  · intro d hd
    obtain hd | hd := List.mem_append.mp hd
    · exact hv.given d hd
    · exact hgiven d hd
  · intro batch hbatch
    exact hgrows.backs (hv.received batch hbatch)
  · have hsum := sum_map_set Worker.unanswered (p.worker limits) hold
    have hle : ((s.workers.set w (p.worker limits)).map Worker.unanswered).sum ≤
        (s.workers.map Worker.unanswered).sum + (p.worker limits).unanswered := by
      rw [← hsum]
      exact Multiset.le_add_right _ _
    rw [DeliveryState.pull, List.map_append, ← Multiset.coe_add]
    dsimp only
    refine le_trans (add_le_add_right hle _) ?_
    rw [← add_assoc]
    exact add_le_add hv.once hunanswered

theorem Valid.carryOut (hv : s.Valid limits) {ackIds : List AckId} (h : ackIds ∈ s.requests) :
    Valid limits (s.carryOut ackIds) := by
  refine ⟨hv.fresh, hv.given, hv.workers, hv.received, hv.requests, ?_, hv.once⟩
  intro n hn
  obtain hold | hnew := List.mem_append.mp hn
  · exact hv.acknowledged n hold
  · obtain ⟨d, hd, rfl⟩ := List.mem_map.mp hnew
    obtain ⟨hmem, hcontains⟩ := List.mem_filter.mp hd
    obtain ⟨d', hd', hackId, hdealt⟩ :=
      hv.requests ackIds h d.ackId (List.contains_iff_mem.mp hcontains)
    -- the ack id tells which message was given out
    have heq : d' = d := List.inj_on_of_nodup_map hv.fresh hd' hmem hackId
    exact ⟨d, hmem, rfl, heq ▸ hdealt⟩

theorem Valid.step (hv : s.Valid limits) {event : DeliveryEvent AckId}
    (h : s.step limits compressedLength event = some t) : t.Valid limits := by
  cases event with
  | publish =>
    cases h
    exact hv.publish
  | pull w p =>
    obtain ⟨old, hold, ⟨-, hgive⟩, rfl⟩ := onTask_eq_some.mp h
    exact hv.pull hold hgive
  | push w event =>
    rw [DeliveryState.step] at h
    split at h
    · rename_i erroneous push hworker
      obtain ⟨next, hstep, rfl⟩ := Option.map_eq_some_iff.mp h
      exact hv.push hworker hstep
    · contradiction
  | acknowledge w sendingTimeEnd =>
    rw [DeliveryState.step] at h
    split at h
    · rename_i erroneous push hworker
      obtain ⟨-, ht⟩ := Option.ite_none_right_eq_some.mp h
      cases ht
      exact hv.acknowledge hworker sendingTimeEnd
    · contradiction
  | carryOut k =>
    obtain ⟨ackIds, hackIds, rfl⟩ := Option.map_eq_some_iff.mp h
    exact hv.carryOut (List.mem_of_getElem? hackIds)
  | answered w =>
    obtain ⟨old, hold, -, rfl⟩ := onTask_eq_some.mp h
    exact hv.set hold trivial rfl
  | restart w =>
    obtain ⟨old, hold, -, rfl⟩ := onTask_eq_some.mp h
    exact hv.set hold trivial rfl

theorem valid_of_reachable {workers : ℕ}
    (h : (deliverySystem limits compressedLength workers).Reachable s) : s.Valid limits := by
  apply System.invariant _ (Valid limits) _ _ h
  · refine ⟨List.nodup_nil, by simp [deliverySystem], ?_, by simp [deliverySystem],
      by simp [deliverySystem], by simp [deliverySystem], ?_⟩
    · intro worker hworker
      rw [List.eq_of_mem_replicate hworker]
      trivial
    · simp [deliverySystem, Worker.unanswered]
  · intro s event t hv hstep
    exact hv.step hstep

end DeliveryState

/-- Of every run, whatever the workers, the subscription and Dynatrace do: a message that has left
the subscription has been rejected, or its payload is in the body of a batch that Dynatrace has
accepted; every accepted body holds the payloads of messages that were given out, and none of them
twice. -/
theorem no_message_lost [DecidableEq AckId] {limits : RequestLimits}
    {compressedLength : String → ℕ} {workers : ℕ} {s : DeliveryState AckId}
    (h : (deliverySystem limits compressedLength workers).Reachable s) :
    (∀ n ∈ s.acknowledged, ∃ d ∈ s.deliveries, d.message.number = n ∧
      (rejected limits Arrival.processed d = true ∨
        ∃ job, acceptedJob limits Arrival.processed d = some job ∧
          ∃ batch ∈ s.received, ∃ group, batch.Holds group ∧ job ∈ group)) ∧
    (∀ batch ∈ s.received, ∃ group, batch.Holds group ∧
      group ⊆ s.deliveries.filterMap (acceptedJob limits Arrival.processed)) ∧
    (s.received.flatMap (fun batch => batch.ackIds)).Nodup ∧
    ∀ d ∈ s.deliveries, d.message.number < s.published := by
  have hv := DeliveryState.valid_of_reachable h
  refine ⟨hv.acknowledged, hv.received, ?_, hv.given⟩
  have hle := le_trans (Multiset.le_add_right _ _) hv.once
  exact Multiset.coe_nodup.mp (Multiset.nodup_of_le hle (Multiset.coe_nodup.mpr hv.fresh))

def pullOfTwo : Pull ℕ where
  responses := [.received [⟨7, ⟨0, .payload "a" {}⟩⟩, ⟨8, ⟨1, .skipped {}⟩⟩]]
  outcomes := fun _ => .response 204
  pullTimes := ⟨0, 1, 1, 2⟩
  sfmQueue := { maxsize := 0 }
  permits := 1
  sendingTimeStart := 2

def deliveryTrace : List (DeliveryEvent ℕ) :=
  [.publish, .publish, .pull 0 pullOfTwo, .push 0 (.start 0), .push 0 (.respond 0),
    .push 0 (.report 0), .acknowledge 0 3, .carryOut 0, .answered 0]

theorem no_message_lost_two_acknowledged : ∃ s,
    (deliverySystem ⟨10, 10⟩ String.utf8ByteSize 1).run deliveryTrace = some s ∧
    s.acknowledged = [0, 1] ∧
    (∀ n ∈ s.acknowledged, ∃ d ∈ s.deliveries, d.message.number = n ∧
      (rejected ⟨10, 10⟩ Arrival.processed d = true ∨
        ∃ job, acceptedJob ⟨10, 10⟩ Arrival.processed d = some job ∧
          ∃ batch ∈ s.received, ∃ group, batch.Holds group ∧ job ∈ group)) := by
  obtain ⟨s, hs⟩ : ∃ s, (deliverySystem ⟨10, 10⟩ String.utf8ByteSize 1).run deliveryTrace =
    some s := ⟨_, rfl⟩
  have hacknowledged : s.acknowledged = [0, 1] := by
    cases hs
    rfl
  exact ⟨s, hs, hacknowledged, (no_message_lost ⟨deliveryTrace, hs⟩).1⟩

end GcpMonitor.Logs
