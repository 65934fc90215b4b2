import GcpMonitor.Library.BinaryRounding
import GcpMonitor.Logs.PrepareBatches
import Mathlib.Data.Rat.Floor

namespace GcpMonitor.Logs

variable {AckId : Type}

def dynatraceErrorCodeDesc : ℕ → Option DynatraceConnectivity
  | 400 => some .invalidInput
  | 401 => some .expiredToken
  | 403 => some .wrongToken
  | 404 => some .wrongURL
  | 405 => some .wrongURL
  | 413 => some .tooManyRequests
  | 429 => some .tooManyRequests
  | 500 => some .other
  | _ => none

inductive SendOutcome where
  | response (status : ℕ)
  | exception (isClientResponseError : Bool)
  deriving DecidableEq

def SendOutcome.accepted : SendOutcome → Bool
  | .response status => status ≤ 299
  | .exception _ => false

inductive SendError where
  | clientResponseError
  | other
  deriving DecidableEq

def raiseForStatus (status : ℕ) : Option SendError :=
  if 400 ≤ status then some .clientResponseError else none

def sizeKb (size : ℕ) : ℚ := BinaryRounding.roundHalfEven (size / 1024 * 1000 : ℚ) / 1000

structure SendState (AckId : Type) where
  selfMonitoring : LogSelfMonitoring
  ackIdsToSend : List AckId
  sfmQueue : SfmQueue

namespace SendState

def addConnectivity (st : SendState AckId) (status : DynatraceConnectivity) : SendState AckId :=
  { st with selfMonitoring := { st.selfMonitoring with
      dynatraceConnectivity := st.selfMonitoring.dynatraceConnectivity ++ [status] } }

def addSent (st : SendState AckId) (entries : ℕ) (payloadKb rawKb : ℚ) : SendState AckId :=
  { st with selfMonitoring := { st.selfMonitoring with
      sentLogsEntries := st.selfMonitoring.sentLogsEntries + entries
      logIngestPayloadSize := st.selfMonitoring.logIngestPayloadSize + payloadKb
      logIngestRawSize := st.selfMonitoring.logIngestRawSize + rawKb } }

def sendRequest (st : SendState AckId) : SendState AckId :=
  { st with selfMonitoring :=
      { st.selfMonitoring with allRequests := st.selfMonitoring.allRequests + 1 } }

/-- `send_logs` from the response to the `finally` clause, with the exception it raises. The
length of the compressed body is the `gzip` module's. -/
def sendResponse (compressedLength : String → ℕ) (st : SendState AckId) (batch : LogBatch AckId) :
    SendOutcome → SendState AckId × Option SendError
  | .response status =>
    if status > 299 then
      let st := match dynatraceErrorCodeDesc status with
        | some description => st.addConnectivity description
        | none => st
      (st, raiseForStatus status)
    else
      let st := { st with ackIdsToSend := st.ackIdsToSend ++ batch.ackIds }
      ((st.addConnectivity .ok).addSent batch.numberOfLogsInBatch
        (sizeKb (compressedLength batch.serializedBatch)) (sizeKb batch.sizeBatchBytes), none)
  | .exception true => (st, some .clientResponseError)
  | .exception false => (st.addConnectivity .other, some .other)

def sendFinally (st : SendState AckId) (batch : LogBatch AckId) : SendState AckId :=
  { st with sfmQueue := st.sfmQueue.push batch.selfMonitoring }

def drainQueue (st : SendState AckId) (count : ℕ) : SendState AckId :=
  { st with sfmQueue := { st.sfmQueue with taken := st.sfmQueue.taken + count } }

@[simp] theorem addConnectivity_ackIdsToSend (st : SendState AckId) (c : DynatraceConnectivity) :
    (st.addConnectivity c).ackIdsToSend = st.ackIdsToSend := rfl

@[simp] theorem sendRequest_ackIdsToSend (st : SendState AckId) :
    st.sendRequest.ackIdsToSend = st.ackIdsToSend := rfl

@[simp] theorem sendFinally_ackIdsToSend (st : SendState AckId) (batch : LogBatch AckId) :
    (st.sendFinally batch).ackIdsToSend = st.ackIdsToSend := rfl

@[simp] theorem drainQueue_ackIdsToSend (st : SendState AckId) (count : ℕ) :
    (st.drainQueue count).ackIdsToSend = st.ackIdsToSend := rfl

theorem sendResponse_ackIdsToSend (compressedLength : String → ℕ) (st : SendState AckId)
    (batch : LogBatch AckId) (outcome : SendOutcome) :
    (st.sendResponse compressedLength batch outcome).1.ackIdsToSend =
      st.ackIdsToSend ++ if outcome.accepted then batch.ackIds else [] := by
  cases outcome with
  | response status =>
    by_cases hs : status > 299
    · have hacc : (SendOutcome.response status).accepted = false := by
        simp only [SendOutcome.accepted, decide_eq_false_iff_not]
        omega
      simp only [sendResponse, if_pos hs, hacc, Bool.false_eq_true, ↓reduceIte, List.append_nil]
      cases dynatraceErrorCodeDesc status <;> rfl
    · have hacc : (SendOutcome.response status).accepted = true := by
        simp only [SendOutcome.accepted, decide_eq_true_iff]
        omega
      simp only [sendResponse, if_neg hs, hacc, ↓reduceIte]
      rfl
  | exception isClientResponseError =>
    cases isClientResponseError <;> simp [sendResponse, SendOutcome.accepted]

end SendState

end GcpMonitor.Logs
