import GcpMonitor.Logs.MessageDelivery
import Mathlib.Data.Fintype.EquivFin

namespace GcpMonitor.Logs

open TransitionSystem TaskPool

variable {AckId : Type}

theorem performPull_returns {Body : Type} {limits : RequestLimits}
    {process : Body → Processed} {times : PullTimes}
    {sfmQueue : SfmQueue} {responses : List (PullResponse AckId Body)}
    (h : PullResponse.none ∉ responses) : ∃ batches erroneous sfmQueue',
      performPull limits process times sfmQueue responses =
        .ok (batches, erroneous, sfmQueue') := by
  have hloop : ∀ st, ∃ st',
      responses.foldlM (PullLoop.response limits process) st = .ok st' := by
    induction responses with
    | nil =>
      intro st
      exact ⟨st, rfl⟩
    | cons response responses ih =>
      intro st
      rw [List.mem_cons, not_or] at h
      cases response with
      | raised => exact ih h.2 st
      | none => exact absurd rfl h.1
      | received messages => exact ih h.2 (messages.foldl (PullLoop.receive limits process) st)
  obtain ⟨st, hst⟩ := hloop { sfmQueue }
  unfold performPull
  rw [hst]
  exact ⟨_, _, _, rfl⟩

def DeliveryEvent.workedBy (w : ℕ) : DeliveryEvent AckId → Bool
  | .publish => false
  | .pull v _ => v = w
  | .push v _ => v = w
  | .acknowledge v _ => v = w
  | .carryOut _ => true
  | .answered v => v = w
  | .restart _ => false

namespace DeliveryState

variable {limits : RequestLimits} {compressedLength : String → ℕ} {s t : DeliveryState AckId}

theorem pulled_acknowledged {p : Pull AckId} (hresponses : PullResponse.none ∉ p.responses)
    (houtcomes : ∀ i, (p.outcomes i).accepted = true) (compressedLength : String → ℕ) :
    ∃ erroneous push trace finished, p.worker limits = .pushing erroneous push ∧
      (pushLogsSystem compressedLength push).runFrom push trace = some finished ∧
      finished.allDone = true ∧ ∀ d ∈ p.deliveries,
        d.ackId ∈ (pushLogsResult finished 0).1 ++ erroneous := by
  obtain ⟨batches, erroneous, sfmQueue, hpull⟩ :
      ∃ batches erroneous sfmQueue', performPull limits Arrival.processed p.pullTimes p.sfmQueue
        p.responses = .ok (batches, erroneous, sfmQueue') := performPull_returns hresponses
  let sends := p.sends batches
  let push := pushLogsStart sfmQueue p.permits p.sendingTimeStart sends
  obtain ⟨trace, finished, hrun, hdone⟩ := PushState.can_finish compressedLength push push
  refine ⟨erroneous, push, trace, finished, ?_, hrun, hdone, ?_⟩
  · rw [Pull.worker, hpull]
  obtain ⟨hbatches, herroneous⟩ := performPull_spec hpull
  have hsent : (finished.shared.ackIdsToSend : Multiset AckId) = (sends.map (fun send =>
      if send.2.accepted then (send.1.ackIds : Multiset AckId) else 0)).sum :=
    pushLogs_allDone compressedLength sfmQueue p.permits p.sendingTimeStart sends trace finished
      hrun hdone
  have haccepted : ((batches.flatMap (fun batch => batch.ackIds) : List AckId) : Multiset AckId) =
      (sends.map (fun send =>
        if send.2.accepted then (send.1.ackIds : Multiset AckId) else 0)).sum := by
    rw [← sum_coe_flatMap]
    conv_lhs => rw [← p.map_fst_sends batches, List.map_map]
    congr 1
    apply List.map_congr_left
    intro send hsend
    obtain ⟨entry, -, rfl⟩ := List.mem_map.mp hsend
    exact (if_pos (houtcomes entry.2)).symm
  rw [← haccepted, hbatches] at hsent
  intro d hd
  rw [pushLogsResult_ackIds compressedLength sfmQueue p.permits p.sendingTimeStart sends trace
    finished hrun, herroneous, List.mem_append]
  cases hrejected : rejected limits Arrival.processed d with
  | true => exact .inr (List.mem_map_of_mem (List.mem_filter.mpr ⟨hd, hrejected⟩))
  | false =>
    refine .inl ?_
    rw [← Multiset.mem_coe, hsent, Multiset.mem_coe]
    exact List.mem_map_of_mem (List.mem_filter.mpr ⟨hd, by rw [hrejected]; rfl⟩)

variable [DecidableEq AckId]

theorem runFrom_push {n : ℕ} {start : PushState AckId} (trace : List PushEvent) {w : ℕ}
    {erroneous : List AckId} {push next : PushState AckId}
    (hworker : s.workers[w]? = some (.pushing erroneous push))
    (hrun : (pushLogsSystem compressedLength start).runFrom push trace = some next) :
    ∃ received, (deliverySystem limits compressedLength n).runFrom s (trace.map (.push w)) =
      some { s with received, workers := s.workers.set w (.pushing erroneous next) } := by
  obtain ⟨hw, hget⟩ := List.getElem?_eq_some_iff.mp hworker
  induction trace generalizing s push with
  | nil =>
    cases hrun
    refine ⟨s.received, ?_⟩
    rw [← hget, List.set_getElem_self]
    rfl
  | cons event trace ih =>
    obtain ⟨middle, hstep, hrest⟩ := Option.bind_eq_some_iff.mp hrun
    let after : DeliveryState AckId := { s with
      received := s.received ++ push.accepts event
      workers := s.workers.set w (.pushing erroneous middle) }
    have hafter : s.step limits compressedLength (.push w event) = some after := by
      have hpush : push.step compressedLength event = some middle := hstep
      rw [DeliveryState.step, hworker]
      dsimp only
      rw [hpush]
      rfl
    have hset : after.workers[w]? = some (.pushing erroneous middle) :=
      List.getElem?_set_self hw
    obtain ⟨hw', hget'⟩ := List.getElem?_eq_some_iff.mp hset
    obtain ⟨received, hreceived⟩ := ih hset hrest hw' hget'
    refine ⟨received, ?_⟩
    change (s.step limits compressedLength (.push w event)).bind _ = _
    rw [hafter]
    refine hreceived.trans ?_
    simp only [after, List.set_set]

theorem acknowledge_of_allDone {n w : ℕ} {erroneous : List AckId} {push : PushState AckId}
    (hworker : s.workers[w]? = some (.pushing erroneous push)) (hdone : push.allDone = true) :
    (deliverySystem limits compressedLength n).runFrom s [.acknowledge w 0] =
      some { s with
        requests := s.requests ++ pushAckIds ((pushLogsResult push 0).1 ++ erroneous)
        workers := s.workers.set w .acknowledging } := by
  change (s.step limits compressedLength (.acknowledge w 0)).bind some = _
  rw [DeliveryState.step, hworker]
  dsimp only
  rw [if_pos hdone]
  rfl

theorem can_pull (limits : RequestLimits) (compressedLength : String → ℕ) (n : ℕ) {w : ℕ}
    (hw : w < s.workers.length) :
    ∃ trace t, (∀ event ∈ trace, event.workedBy w = true) ∧
      (deliverySystem limits compressedLength n).runFrom s trace = some t ∧
      t.workers[w]? = some .pulling ∧ t.published = s.published := by
  cases hworker : s.workers[w] with
  | pulling =>
    exact ⟨[], s, by simp, rfl, List.getElem?_eq_some_iff.mpr ⟨hw, hworker⟩, rfl⟩
  | acknowledging =>
    refine ⟨[.answered w], { s with workers := s.workers.set w .pulling }, ?_, ?_,
      List.getElem?_set_self hw, rfl⟩
    · simp [DeliveryEvent.workedBy]
    · have hanswered : s.step limits compressedLength (.answered w) = _ :=
        onTask_eq_some.mpr ⟨.acknowledging, List.getElem?_eq_some_iff.mpr ⟨hw, hworker⟩, rfl, rfl⟩
      change (s.step limits compressedLength (.answered w)).bind some = _
      rw [hanswered]
      rfl
  | pushing erroneous push =>
    obtain ⟨trace, finished, hrun, hdone⟩ := PushState.can_finish compressedLength push push
    obtain ⟨received, hpushed⟩ : ∃ received, (deliverySystem limits compressedLength n).runFrom s
        (trace.map (.push w)) = some { s with
          received, workers := s.workers.set w (.pushing erroneous finished) } :=
      runFrom_push trace (List.getElem?_eq_some_iff.mpr ⟨hw, hworker⟩) hrun
    let pushed : DeliveryState AckId :=
      { s with received, workers := s.workers.set w (.pushing erroneous finished) }
    let requested : DeliveryState AckId := { pushed with
      requests := pushed.requests ++ pushAckIds ((pushLogsResult finished 0).1 ++ erroneous)
      workers := pushed.workers.set w .acknowledging }
    have hrequested : (deliverySystem limits compressedLength n).runFrom pushed
        [.acknowledge w 0] = some requested :=
      acknowledge_of_allDone (List.getElem?_set_self hw) hdone
    have hset : requested.workers[w]? = some .acknowledging :=
      List.getElem?_set_self (by simpa [pushed] using hw)
    have hanswered : requested.step limits compressedLength (.answered w) =
        some { requested with workers := requested.workers.set w .pulling } :=
      onTask_eq_some.mpr ⟨.acknowledging, hset, rfl, rfl⟩
    refine ⟨trace.map (.push w) ++ ([.acknowledge w 0] ++ [.answered w]),
      { requested with workers := requested.workers.set w .pulling }, ?_, ?_,
      List.getElem?_set_self (List.getElem?_eq_some_iff.mp hset).1, rfl⟩
    · simp only [List.mem_append, List.mem_map, List.mem_singleton]
      rintro event (⟨_, -, rfl⟩ | rfl | rfl) <;> simp [DeliveryEvent.workedBy]
    · rw [System.runFrom_append, hpushed, Option.bind_some, System.runFrom_append, hrequested]
      change (requested.step limits compressedLength (.answered w)).bind some = _
      rw [hanswered]
      rfl

theorem can_acknowledge (compressedLength : String → ℕ) (n : ℕ) {w : ℕ}
    (hworker : s.workers[w]? = some .pulling) {p : Pull AckId} (hgive : s.canGiveOut p = true)
    (hresponses : PullResponse.none ∉ p.responses)
    (houtcomes : ∀ i, (p.outcomes i).accepted = true) {d : Delivery AckId}
    (hd : d ∈ p.deliveries) :
    ∃ trace t, (∀ event ∈ trace, event.workedBy w = true) ∧ .pull w p ∈ trace ∧
      (deliverySystem limits compressedLength n).runFrom s trace = some t ∧
      d.message.number ∈ t.acknowledged := by
  obtain ⟨erroneous, push, trace, finished, hpushing, hrun, hdone, hmem⟩ :
      ∃ erroneous push trace finished, p.worker limits = .pushing erroneous push ∧
        (pushLogsSystem compressedLength push).runFrom push trace = some finished ∧
        finished.allDone = true ∧ ∀ d ∈ p.deliveries,
          d.ackId ∈ (pushLogsResult finished 0).1 ++ erroneous :=
    pulled_acknowledged hresponses houtcomes compressedLength
  have hw := (List.getElem?_eq_some_iff.mp hworker).1
  have hpull : s.step limits compressedLength (.pull w p) = some (s.pull limits w p) :=
    onTask_eq_some.mpr ⟨.pulling, hworker, ⟨rfl, hgive⟩, rfl⟩
  have hset : (s.pull limits w p).workers[w]? = some (.pushing erroneous push) := by
    rw [DeliveryState.pull, hpushing]
    exact List.getElem?_set_self hw
  obtain ⟨received, hpushed⟩ : ∃ received, (deliverySystem limits compressedLength n).runFrom
      (s.pull limits w p) (trace.map (.push w)) = some { s.pull limits w p with
        received, workers := (s.pull limits w p).workers.set w (.pushing erroneous finished) } :=
    runFrom_push trace hset hrun
  let pushed : DeliveryState AckId := { s.pull limits w p with
    received, workers := (s.pull limits w p).workers.set w (.pushing erroneous finished) }
  let ackIds := (pushLogsResult finished 0).1 ++ erroneous
  let requested : DeliveryState AckId := { pushed with
    requests := pushed.requests ++ pushAckIds ackIds
    workers := pushed.workers.set w .acknowledging }
  have hrequested : (deliverySystem limits compressedLength n).runFrom pushed
      [.acknowledge w 0] = some requested :=
    acknowledge_of_allDone (List.getElem?_set_self (List.getElem?_eq_some_iff.mp hset).1) hdone
  obtain ⟨chunk, hchunk, hackId⟩ : ∃ chunk ∈ pushAckIds ackIds, d.ackId ∈ chunk := by
    apply List.mem_flatten.mp
    rw [pushAckIds, chunks_flatten]
    exact hmem d hd
  obtain ⟨k, hk⟩ := List.mem_iff_getElem?.mp (List.mem_append_right s.requests hchunk)
  have hcarried : requested.step limits compressedLength (.carryOut k) =
      some (requested.carryOut chunk) := Option.map_eq_some_iff.mpr ⟨chunk, hk, rfl⟩
  refine ⟨.pull w p :: (trace.map (.push w) ++ ([.acknowledge w 0] ++ [.carryOut k])),
    requested.carryOut chunk, ?_, List.mem_cons_self, ?_, ?_⟩
  · simp only [List.mem_cons, List.mem_append, List.mem_map, List.not_mem_nil, or_false]
    rintro event (rfl | ⟨_, -, rfl⟩ | rfl | rfl) <;> simp [DeliveryEvent.workedBy]
  · change (s.step limits compressedLength (.pull w p)).bind (fun _ => _) = _
    rw [hpull]
    change (deliverySystem limits compressedLength n).runFrom _ (_ ++ _) = _
    rw [System.runFrom_append, hpushed, Option.bind_some, System.runFrom_append, hrequested]
    change (requested.step limits compressedLength (.carryOut k)).bind some = _
    rw [hcarried]
    rfl
  · apply List.mem_append_right
    refine List.mem_map.mpr ⟨d, List.mem_filter.mpr ⟨List.mem_append_right _ hd, ?_⟩, rfl⟩
    exact List.contains_iff_mem.mpr hackId

theorem step_workers_length {event : DeliveryEvent AckId}
    (h : s.step limits compressedLength event = some t) : t.workers.length = s.workers.length := by
  cases event with
  | publish =>
    cases h
    rfl
  | pull w p =>
    obtain ⟨_, -, -, rfl⟩ := onTask_eq_some.mp h
    exact List.length_set
  | push w event =>
    rw [DeliveryState.step] at h
    split at h
    · obtain ⟨next, -, rfl⟩ := Option.map_eq_some_iff.mp h
      exact List.length_set
    · contradiction
  | acknowledge w sendingTimeEnd =>
    rw [DeliveryState.step] at h
    split at h
    · obtain ⟨-, ht⟩ := Option.ite_none_right_eq_some.mp h
      cases ht
      exact List.length_set
    · contradiction
  | carryOut k =>
    obtain ⟨ackIds, -, rfl⟩ := Option.map_eq_some_iff.mp h
    rfl
  | answered w =>
    obtain ⟨_, -, -, rfl⟩ := onTask_eq_some.mp h
    exact List.length_set
  | restart w =>
    obtain ⟨_, -, -, rfl⟩ := onTask_eq_some.mp h
    exact List.length_set

theorem workers_length_of_reachable {workers : ℕ}
    (h : (deliverySystem limits compressedLength workers).Reachable s) :
    s.workers.length = workers := by
  apply System.invariant _ (fun s => s.workers.length = workers) _ _ h
  · exact List.length_replicate
  · intro s event t hlength hstep
    exact (step_workers_length hstep).trans hlength

end DeliveryState

def busyTrace : List (DeliveryEvent ℕ) := deliveryTrace.take 5

end GcpMonitor.Logs
