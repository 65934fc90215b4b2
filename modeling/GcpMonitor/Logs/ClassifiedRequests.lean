import GcpMonitor.Logs.PushLogs
import Mathlib.Algebra.Group.Prod

namespace GcpMonitor.Logs

open TransitionSystem TaskPool

variable {AckId : Type}

namespace SendOutcome

def connectivity : SendOutcome → Multiset DynatraceConnectivity
  | .response status => if status ≤ 299 then {.ok} else (dynatraceErrorCodeDesc status).toList
  | .exception true => 0
  | .exception false => {.other}

/-- The response is a success or has its status in the table, or no response came and the exception
is not one that stands for a response. -/
def classified : SendOutcome → Bool
  | .response status => status ≤ 299 || (dynatraceErrorCodeDesc status).isSome
  | .exception isClientResponseError => !isClientResponseError

theorem card_connectivity (outcome : SendOutcome) :
    outcome.connectivity.card = if outcome.classified then 1 else 0 := by
  cases outcome with
  | response status =>
    by_cases hs : status ≤ 299
    · simp [connectivity, classified, hs]
    · cases h : dynatraceErrorCodeDesc status <;> simp [connectivity, classified, hs, h]
  | exception isClientResponseError =>
    cases isClientResponseError <;> simp [connectivity, classified]

theorem dynatraceErrorCodeDesc_ne_ok (status : ℕ) : dynatraceErrorCodeDesc status ≠ some .ok := by
  unfold dynatraceErrorCodeDesc
  split <;> simp

theorem count_ok_connectivity (outcome : SendOutcome) :
    outcome.connectivity.count .ok = if outcome.accepted then 1 else 0 := by
  cases outcome with
  | response status =>
    by_cases hs : status ≤ 299
    · simp [connectivity, accepted, hs]
    · have hok := dynatraceErrorCodeDesc_ne_ok status
      cases h : dynatraceErrorCodeDesc status with
      | none => simp [connectivity, accepted, hs, h]
      | some description =>
        rw [h] at hok
        have hne : DynatraceConnectivity.ok ≠ description := fun heq => hok (heq ▸ rfl)
        simp [connectivity, accepted, hs, h, hne]
  | exception isClientResponseError =>
    cases isClientResponseError <;> simp [connectivity, accepted]

end SendOutcome

def SendState.account (st : SendState AckId) : ℕ × Multiset DynatraceConnectivity × ℕ :=
  (st.selfMonitoring.allRequests, st.selfMonitoring.dynatraceConnectivity,
    st.selfMonitoring.sentLogsEntries)

def sendAccount (send : LogBatch AckId × SendOutcome) : ℕ × Multiset DynatraceConnectivity × ℕ :=
  (1, send.2.connectivity, if send.2.accepted then send.1.numberOfLogsInBatch else 0)

def SendTask.account (task : SendTask AckId) : ℕ × Multiset DynatraceConnectivity × ℕ :=
  match task.phase with
  | .waiting => 0
  | .sending => (1, 0, 0)
  | .reporting => sendAccount task.send
  | .done => sendAccount task.send

namespace SendState

theorem sendRequest_account (st : SendState AckId) :
    st.sendRequest.account = st.account + (1, 0, 0) := by
  simp [account, sendRequest]

theorem addConnectivity_account (st : SendState AckId) (status : DynatraceConnectivity) :
    (st.addConnectivity status).account = st.account + (0, {status}, 0) := by
  simp only [account, addConnectivity, Prod.mk_add_mk, add_zero, ← Multiset.coe_add,
    Multiset.coe_singleton]

theorem addSent_account (st : SendState AckId) (entries : ℕ) (payloadKb rawKb : ℚ) :
    (st.addSent entries payloadKb rawKb).account = st.account + (0, 0, entries) := by
  simp [account, addSent]

theorem sendResponse_account (compressedLength : String → ℕ) (st : SendState AckId)
    (batch : LogBatch AckId) (outcome : SendOutcome) :
    (st.sendResponse compressedLength batch outcome).1.account + (1, 0, 0) =
      st.account + sendAccount (batch, outcome) := by
  cases outcome with
  | response status =>
    by_cases hs : status ≤ 299
    · have hs' : ¬ status > 299 := by omega
      simp only [sendResponse, if_neg hs']
      rw [addSent_account, addConnectivity_account]
      simp [account, sendAccount, SendOutcome.connectivity, SendOutcome.accepted, hs]
    · have hs' : status > 299 := by omega
      simp only [sendResponse, if_pos hs']
      cases h : dynatraceErrorCodeDesc status with
      | none => simp [sendAccount, SendOutcome.connectivity, SendOutcome.accepted, hs, h]
      | some description =>
        change (st.addConnectivity description).account + (1, 0, 0) = _
        rw [addConnectivity_account]
        simp [account, sendAccount, SendOutcome.connectivity, SendOutcome.accepted, hs, h]
  | exception isClientResponseError =>
    cases isClientResponseError with
    | true => simp [sendResponse, sendAccount, SendOutcome.connectivity, SendOutcome.accepted]
    | false =>
      change (st.addConnectivity .other).account + (1, 0, 0) = _
      rw [addConnectivity_account]
      simp [account, sendAccount, SendOutcome.connectivity, SendOutcome.accepted]

end SendState

theorem PushState.step_account {compressedLength : String → ℕ} {s t : PushState AckId}
    {e : PushEvent} (h : s.step compressedLength e = some t)
    (hs : s.shared.account = (s.tasks.map SendTask.account).sum) :
    t.shared.account = (t.tasks.map SendTask.account).sum := by
  rcases step_cases h with ⟨-, ht, count, ha⟩ | ⟨i, task, htask, hcase⟩
  · rw [ht, ha]
    exact hs
  · rcases hcase with ⟨-, hp, ht, ha⟩ | ⟨-, hp, ht, ha⟩ | ⟨-, hp, ht, ha⟩
    · have hsum := sum_map_set SendTask.account { task with phase := .sending } htask
      rw [ht, ha, SendState.sendRequest_account, hs]
      simpa [SendTask.account, hp] using hsum.symm
    · have hsum := sum_map_set SendTask.account { task with phase := .reporting } htask
      have hresponse :=
        SendState.sendResponse_account compressedLength s.shared task.batch task.outcome
      simp only [SendTask.account, hp] at hsum
      rw [ht, ha]
      rw [hs] at hresponse
      exact add_right_cancel (hresponse.trans hsum.symm)
    · have hsum := sum_map_set SendTask.account { task with phase := .done } htask
      simp only [SendTask.account, hp] at hsum
      rw [ht, ha]
      exact hs.trans (add_right_cancel hsum).symm

section Run

variable (compressedLength : String → ℕ) (sfmQueue : SfmQueue) (permits : ℕ)
  (sendingTimeStart : ℚ) (sends : List (LogBatch AckId × SendOutcome))

theorem pushLogs_account (trace : List PushEvent) (s : PushState AckId)
    (hrun : (pushLogsSystem compressedLength
      (pushLogsStart sfmQueue permits sendingTimeStart sends)).run trace = some s) :
    s.shared.account = (s.tasks.map SendTask.account).sum := by
  refine System.invariant _ (fun s => s.shared.account = (s.tasks.map SendTask.account).sum)
    ?_ ?_ ⟨trace, hrun⟩
  · simp [pushLogsSystem, pushLogsStart, SendTask.account, SendState.account, Function.comp_def]
  · intro s e t hs hstep
    exact PushState.step_account hstep hs

theorem pushLogs_account_allDone (trace : List PushEvent) (s : PushState AckId)
    (hrun : (pushLogsSystem compressedLength
      (pushLogsStart sfmQueue permits sendingTimeStart sends)).run trace = some s)
    (hdone : s.allDone = true) : s.shared.account = (sends.map sendAccount).sum := by
  obtain ⟨hsends, -⟩ := pushLogs_acknowledged compressedLength sfmQueue permits
    sendingTimeStart sends trace s hrun
  rw [pushLogs_account compressedLength sfmQueue permits sendingTimeStart sends trace s hrun,
    ← hsends, List.map_map]
  congr 1
  apply List.map_congr_left
  intro task htask
  have hphase := List.all_eq_true.mp hdone task htask
  simp only [decide_eq_true_eq] at hphase
  simp only [Function.comp_apply, SendTask.account, hphase]

end Run

def connectivitySum (sends : List (LogBatch AckId × SendOutcome)) :
    Multiset DynatraceConnectivity :=
  (sends.map (fun send => send.2.connectivity)).sum

@[simp] theorem connectivitySum_cons (send : LogBatch AckId × SendOutcome)
    (sends : List (LogBatch AckId × SendOutcome)) :
    connectivitySum (send :: sends) = send.2.connectivity + connectivitySum sends := by
  simp [connectivitySum]

theorem sum_sendAccount (sends : List (LogBatch AckId × SendOutcome)) :
    (sends.map sendAccount).sum =
      (sends.length, connectivitySum sends,
        ((sends.filter (fun send => send.2.accepted)).map
          (fun send => send.1.numberOfLogsInBatch)).sum) := by
  induction sends with
  | nil => rfl
  | cons send sends ih =>
    rw [List.map_cons, List.sum_cons, ih]
    cases h : send.2.accepted <;>
      simp [sendAccount, h, add_comm]

theorem count_ok_connectivitySum (sends : List (LogBatch AckId × SendOutcome)) :
    (connectivitySum sends).count .ok =
      (sends.filter (fun send => send.2.accepted)).length := by
  induction sends with
  | nil => rfl
  | cons send sends ih =>
    rw [connectivitySum_cons, Multiset.count_add, ih, SendOutcome.count_ok_connectivity]
    cases h : send.2.accepted <;> simp [h, add_comm]

theorem card_connectivitySum (sends : List (LogBatch AckId × SendOutcome)) :
    (connectivitySum sends).card =
      sends.countP (fun send => send.2.classified) := by
  induction sends with
  | nil => rfl
  | cons send sends ih =>
    rw [connectivitySum_cons, Multiset.card_add, ih, SendOutcome.card_connectivity,
      List.countP_cons, add_comm]

theorem sum_acknowledged (sends : List (LogBatch AckId × SendOutcome)) :
    (sends.map (fun (batch, outcome) =>
        if outcome.accepted then (batch.ackIds : Multiset AckId) else 0)).sum =
      ((sends.filter (fun send => send.2.accepted)).map
        (fun send => (send.1.ackIds : Multiset AckId))).sum := by
  induction sends with
  | nil => rfl
  | cons send sends ih =>
    rw [List.map_cons, List.sum_cons, ih]
    cases h : send.2.accepted <;> simp [h]

/-- After one `push_logs` call: the batches whose ack ids were added are `acknowledged`. -/
structure ClassifiedOnce (sends : List (LogBatch AckId × SendOutcome)) (st : SendState AckId)
    (acknowledged : List (LogBatch AckId × SendOutcome)) : Prop where
  allRequests : st.selfMonitoring.allRequests = sends.length
  ackIds : (st.ackIdsToSend : Multiset AckId) =
    (acknowledged.map (fun send => (send.1.ackIds : Multiset AckId))).sum
  connectivity : st.selfMonitoring.dynatraceConnectivity.length = sends.length
  ok : st.selfMonitoring.dynatraceConnectivity.count .ok = acknowledged.length
  sent : st.selfMonitoring.sentLogsEntries =
    (acknowledged.map (fun send => send.1.numberOfLogsInBatch)).sum

theorem push_logs_classifies_once_iff (compressedLength : String → ℕ) (sfmQueue : SfmQueue)
    (permits : ℕ) (sendingTimeStart : ℚ) (sends : List (LogBatch AckId × SendOutcome))
    (trace : List PushEvent) (s : PushState AckId)
    (hrun : (pushLogsSystem compressedLength
      (pushLogsStart sfmQueue permits sendingTimeStart sends)).run trace = some s)
    (hdone : s.allDone = true) :
    ClassifiedOnce sends s.shared (sends.filter (fun send => send.2.accepted)) ↔
      ∀ send ∈ sends, send.2.classified = true := by
  have haccount := pushLogs_account_allDone compressedLength sfmQueue permits sendingTimeStart
    sends trace s hrun hdone
  have hack := pushLogs_allDone compressedLength sfmQueue permits sendingTimeStart sends trace s
    hrun hdone
  rw [sum_sendAccount, SendState.account, Prod.mk.injEq, Prod.mk.injEq] at haccount
  obtain ⟨hall, hconnectivity, hsent⟩ := haccount
  have hlength : s.shared.selfMonitoring.dynatraceConnectivity.length =
      sends.countP (fun send => send.2.classified) := by
    rw [← Multiset.coe_card, hconnectivity, card_connectivitySum]
  have hok : s.shared.selfMonitoring.dynatraceConnectivity.count .ok =
      (sends.filter (fun send => send.2.accepted)).length := by
    rw [← Multiset.coe_count, hconnectivity, count_ok_connectivitySum]
  rw [← List.countP_eq_length, ← hlength]
  constructor
  · intro h
    exact h.connectivity
  · intro h
    exact ⟨hall, hack.trans (sum_acknowledged sends), h, hok, hsent⟩

def oneEntryBatch (ackId : ℕ) : LogBatch ℕ := ⟨"[]", 1, [ackId], 2, {}⟩

theorem push_logs_classifies_once_interleaved :
    ∃ s, (pushLogsSystem String.length (pushLogsStart ⟨10, [], 0⟩ 2 0
        [(oneEntryBatch 1, .response 401), (oneEntryBatch 2, .response 204)])).run
          [.start 0, .start 1, .respond 1, .respond 0, .report 0, .report 1] = some s ∧
      ClassifiedOnce [(oneEntryBatch 1, .response 401), (oneEntryBatch 2, .response 204)] s.shared
        [(oneEntryBatch 2, .response 204)] := by
  refine ⟨_, rfl, (push_logs_classifies_once_iff String.length ⟨10, [], 0⟩ 2 0
    [(oneEntryBatch 1, .response 401), (oneEntryBatch 2, .response 204)]
    [.start 0, .start 1, .respond 1, .respond 0, .report 0, .report 1] _ rfl rfl).mpr ?_⟩
  decide

theorem unlisted_status_is_not_classified :
    ∃ s, (pushLogsSystem String.length (pushLogsStart ⟨10, [], 0⟩ 2 0
        [(oneEntryBatch 1, .response 503)])).run [.start 0, .respond 0, .report 0] = some s ∧
      s.allDone = true ∧
      ∀ acknowledged,
        ¬ ClassifiedOnce [(oneEntryBatch 1, .response 503)] s.shared acknowledged := by
  refine ⟨_, rfl, rfl, ?_⟩
  intro acknowledged h
  have hnone : 0 = 1 := h.connectivity
  omega

end GcpMonitor.Logs
