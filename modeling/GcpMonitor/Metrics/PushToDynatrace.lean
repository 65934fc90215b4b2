import GcpMonitor.Library.OrderedDict
import GcpMonitor.Logs.SelfMonitoring
import GcpMonitor.Python.Json

namespace GcpMonitor.Metrics

open Python
open Logs (DynatraceConnectivity)

variable {Line Payload : Type}

def retryableStatusCodes : List ℕ := [429, 500, 502, 503, 504]

abbrev maxPushRetries : ℕ := 3

def initialRetryDelay : ℚ := 1

def maxRetryAfter : ℚ := 10

/-- What a push takes from the text of the lines and from the configuration. `payload` joins,
encodes and compresses the lines, and `float` is none where Python raises `ValueError`. `printable`
says whether stdout can encode the log of a line with its reason, which it cannot when the reason
holds a lone surrogate. -/
structure PushRuntime (Line Payload : Type) where
  payload : List Line → Except PyError Payload
  float : Text → Option PyFloat
  printable : Line → Json → Bool
  dynatraceUrl : Text

def PushRuntime.dtUrl (R : PushRuntime Line Payload) : Text :=
  R.dynatraceUrl.rdropWhile (fun c => c = '/') ++ "/api/v2/metrics/ingest".toList

structure PushContext where
  dynatraceConnectivity : DynatraceConnectivity
  connectivityMetric : DynatraceConnectivity
  requestCount : OrderedDict ℕ ℕ
  ingestLinesOkCount : OrderedDict Text Number
  ingestLinesInvalidCount : OrderedDict Text Number
  ingestLinesDroppedCount : OrderedDict Text ℕ

namespace PushContext

def updateDtConnectivityStatus (context : PushContext) (status : DynatraceConnectivity) :
    PushContext :=
  { context with connectivityMetric := status, dynatraceConnectivity := status }

def initial : PushContext where
  dynatraceConnectivity := .ok
  connectivityMetric := .ok
  requestCount := .empty
  ingestLinesOkCount := .empty
  ingestLinesInvalidCount := .empty
  ingestLinesDroppedCount := .empty

def incrementRequestCount (context : PushContext) (status : ℕ) : PushContext :=
  { context with
    requestCount :=
      context.requestCount.set status ((context.requestCount.get status).getD 0 + 1) }

def dropLines (context : PushContext) (projectId : Text) (lines : ℕ) : PushContext :=
  { context with
    ingestLinesDroppedCount := context.ingestLinesDroppedCount.set projectId
      ((context.ingestLinesDroppedCount.get projectId).getD 0 + lines) }

end PushContext

def addLines (count : OrderedDict Text Number) (projectId : Text) (lines : Json) :
    Except PyError (OrderedDict Text Number) :=
  (lines.number >>= ((count.get projectId).getD (.int 0)).add).map (count.set projectId)

def monotonicCountersWarning : String := "Note that monotonic counters are deprecated."

def filteredWarnings (ingestResponseJson : Json) : Except PyError (List Json) := do
  match ← ingestResponseJson.get "warnings" .null with
  | .map entries =>
    if entries.isEmpty then return []
    else
      let warnings ← Json.get (.map entries) "warningLines" (.list [])
      (← warnings.iter).filterM fun warning => do
        let text ← warning.get "warning" (.str [])
        return !(← text.endsWith monotonicCountersWarning)
  | _ => return []

def logInvalidLine (R : PushRuntime Line Payload) (linesBatch : List Line) (invalidLine : Json) :
    Except PyError Unit := do
  let line ← (← invalidLine.get "line" (.int 0)).number
  let lineIndex ← Number.add (.int (-1)) line
  if lineIndex.exceeds (-1) then
    let reason ← invalidLine.get "error" (.str [])
    let line ← lineIndex.item linesBatch
    -- `UnicodeEncodeError` is a `ValueError`
    if R.printable line reason then .ok () else .error (.valueError none)

def logInvalidLines (R : PushRuntime Line Payload) (ingestResponseJson : Json)
    (linesBatch : List Line) : Except PyError Unit := do
  match ← ingestResponseJson.get "error" .null with
  | .null => return
  | error =>
    let invalidLines ← error.get "invalidLines" (.list [])
    if invalidLines.truthy then
      (← invalidLines.iter).forM (logInvalidLine R linesBatch)

def readBody (R : PushRuntime Line Payload) (context : PushContext) (projectId : Text)
    (linesBatch : List Line) (status : ℕ) : Option Json → PushContext × Except PyError Unit
  | none => ((context.incrementRequestCount status).dropLines projectId linesBatch.length, .ok ())
  | some ingestResponseJson =>
    match ingestResponseJson.get "linesOk" (.int 0),
      ingestResponseJson.get "linesInvalid" (.int 0) with
    | .ok linesOk, .ok linesInvalid =>
      let context := context.incrementRequestCount status
      match addLines context.ingestLinesOkCount projectId linesOk with
      | .error e => (context, .error e)
      | .ok okCount =>
        let context := { context with ingestLinesOkCount := okCount }
        match addLines context.ingestLinesInvalidCount projectId linesInvalid with
        | .error e => (context, .error e)
        | .ok invalidCount =>
          ({ context with ingestLinesInvalidCount := invalidCount }, do
            let _ ← filteredWarnings ingestResponseJson
            logInvalidLines R ingestResponseJson linesBatch)
    | .error e, _ => (context, .error e)
    | _, .error e => (context, .error e)

def fatalStatus (R : PushRuntime Line Payload) : ℕ → Option (DynatraceConnectivity × PyError)
  | 401 => some (.expiredToken, .exception "Expired token")
  | 403 => some (.wrongToken,
    .exception "Wrong token - missing 'Ingest metrics using API V2' permission")
  | 404 => some (.wrongURL, .exception ("Wrong URL " ++ String.ofList R.dtUrl))
  | 405 => some (.wrongURL, .exception ("Wrong URL " ++ String.ofList R.dtUrl))
  | _ => none

inductive PushPhase where
  | posting (attempt : Fin (maxPushRetries + 1))
  | sleeping (attempt : Fin maxPushRetries) (delay : PyFloat)
  | reading (status : ℕ)
  | ended (result : Except PyError Unit)

/-- What the coroutine is resumed with; the body is none when it is not JSON. -/
inductive PushInput where
  | networkError
  | response (status : ℕ) (retryAfter : Option Text)
  | slept
  | body (json : Option Json)

def backoffDelay (attempt : Fin maxPushRetries) : PyFloat :=
  .finite (initialRetryDelay * 2 ^ attempt.val)

def retryDelay (R : PushRuntime Line Payload) (attempt : Fin maxPushRetries)
    (retryAfter : Option Text) : PyFloat :=
  match retryAfter with
  | none => backoffDelay attempt
  | some header =>
    if header = [] then backoffDelay attempt
    else ((R.float header).map (PyFloat.atMost maxRetryAfter)).getD (backoffDelay attempt)

namespace PushPhase

def start (R : PushRuntime Line Payload) (linesBatch : List Line) : PushPhase :=
  match R.payload linesBatch with
  | .ok _ => .posting 0
  | .error e => .ended (.error e)

variable (R : PushRuntime Line Payload) (projectId : Text) (linesBatch : List Line)
  (context : PushContext)

def onNetworkError (attempt : Fin (maxPushRetries + 1)) : PushPhase × PushContext :=
  if h : attempt.val < maxPushRetries then
    (.sleeping ⟨attempt, h⟩ (backoffDelay ⟨attempt, h⟩), context)
  else (.ended (.ok ()), context.dropLines projectId linesBatch.length)

def onResponse (attempt : Fin (maxPushRetries + 1)) (status : ℕ) (retryAfter : Option Text) :
    PushPhase × PushContext :=
  match fatalStatus R status with
  | some (connectivity, error) =>
    (.ended (.error error),
      (context.incrementRequestCount status).updateDtConnectivityStatus connectivity)
  | none =>
    if status ∈ retryableStatusCodes then
      if h : attempt.val < maxPushRetries then
        (.sleeping ⟨attempt, h⟩ (retryDelay R ⟨attempt, h⟩ retryAfter),
          context.incrementRequestCount status)
      else
        (.ended (.ok ()),
          (context.incrementRequestCount status).dropLines projectId linesBatch.length)
    else if status = 413 then
      (.ended (.ok ()),
        (context.incrementRequestCount status).dropLines projectId linesBatch.length)
    else (.reading status, context)

def resume : PushPhase → PushInput → Option (PushPhase × PushContext)
  | .posting attempt, .networkError => some (onNetworkError projectId linesBatch context attempt)
  | .posting attempt, .response status retryAfter =>
    some (onResponse R projectId linesBatch context attempt status retryAfter)
  | .sleeping attempt _, .slept => some (.posting attempt.succ, context)
  | .reading status, .body json =>
    let result := readBody R context projectId linesBatch status json
    some (.ended result.2, result.1)
  | _, _ => none

def hasEnded : PushPhase → Bool
  | .ended _ => true
  | _ => false

def stepsLeft : PushPhase → ℕ
  | .posting attempt => 2 * (maxPushRetries - attempt.val) + 2
  | .sleeping attempt _ => 2 * (maxPushRetries - attempt.val) + 1
  | .reading _ => 1
  | .ended _ => 0

variable {R projectId linesBatch context} {phase phase' : PushPhase} {input : PushInput}
  {context' : PushContext}

theorem readBody_connectivity (status : ℕ) (json : Option Json) :
    (readBody R context projectId linesBatch status json).1.dynatraceConnectivity =
      context.dynatraceConnectivity := by
  cases json with
  | none => rfl
  | some json =>
    rw [readBody]
    split
    · dsimp only
      split
      · rfl
      · split <;> rfl
    · rfl
    · rfl

theorem fatalStatus_connectivity {status : ℕ} {connectivity : DynatraceConnectivity}
    {error : PyError} (h : fatalStatus R status = some (connectivity, error)) :
    connectivity ≠ .ok := by
  unfold fatalStatus at h
  split at h <;> cases h <;> decide

theorem resume_connectivity
    (h : resume R projectId linesBatch context phase input = some (phase', context')) :
    context'.dynatraceConnectivity = context.dynatraceConnectivity ∨
      context'.dynatraceConnectivity ≠ .ok := by
  cases phase with
  | posting attempt =>
    cases input with
    | networkError =>
      simp only [resume, onNetworkError, Option.some.injEq] at h
      split_ifs at h <;> cases h <;> exact .inl rfl
    | response status retryAfter =>
      simp only [resume, onResponse, Option.some.injEq] at h
      split at h
      · next hfatal =>
        cases h
        exact .inr (fatalStatus_connectivity hfatal)
      · split_ifs at h <;> cases h <;> exact .inl rfl
    | slept => cases h
    | body json => cases h
  | sleeping attempt delay =>
    cases input <;> cases h
    exact .inl rfl
  | reading status =>
    cases input <;> cases h
    exact .inl (readBody_connectivity status _)
  | ended result => cases input <;> cases h

theorem resume_stepsLeft
    (h : resume R projectId linesBatch context phase input = some (phase', context')) :
    phase'.stepsLeft < phase.stepsLeft := by
  cases phase with
  | posting attempt =>
    cases input with
    | networkError =>
      simp only [resume, onNetworkError, Option.some.injEq] at h
      split_ifs at h <;> cases h <;> simp only [stepsLeft] <;> omega
    | response status retryAfter =>
      simp only [resume, onResponse, Option.some.injEq] at h
      split at h
      · cases h
        simp only [stepsLeft]
        omega
      · split_ifs at h <;> cases h <;> simp only [stepsLeft] <;> omega
    | slept => cases h
    | body json => cases h
  | sleeping attempt delay =>
    cases input <;> cases h
    simp only [stepsLeft, Fin.val_succ]
    omega
  | reading status =>
    cases input <;> cases h
    simp only [stepsLeft]
    omega
  | ended result => cases input <;> cases h

theorem exists_resume (hphase : phase.hasEnded = false) :
    ∃ input next, resume R projectId linesBatch context phase input = some next := by
  cases phase with
  | posting attempt => exact ⟨.networkError, _, rfl⟩
  | sleeping attempt delay => exact ⟨.slept, _, rfl⟩
  | reading status => exact ⟨.body none, _, rfl⟩
  | ended result => cases hphase

end PushPhase

end GcpMonitor.Metrics
