import GcpMonitor.Library.TaskPool
import GcpMonitor.Library.TransitionSystem
import GcpMonitor.Metrics.PushToDynatrace
import Mathlib.Algebra.Order.Group.Multiset

namespace GcpMonitor.Metrics

open Python TransitionSystem TaskPool
open Logs (DynatraceConnectivity)

variable {Line Payload : Type}

structure IngestSettings (Line Payload : Type) extends PushRuntime Line Payload where
  metricIngestBatchSize : ℤ
  metricIngestConcurrentPushes : ℤ

def addToBatch (batchSize : ℤ) (built : List (List Line) × List Line) (result : Line) :
    List (List Line) × List Line :=
  let batch := built.2 ++ [result]
  if batchSize ≤ batch.length then (built.1 ++ [batch], []) else (built.1, batch)

def makeBatches (batchSize : ℤ) (fetchMetricResults : List Line) : List (List Line) :=
  let built := fetchMetricResults.foldl (addToBatch batchSize) ([], [])
  if built.2 = [] then built.1 else built.1 ++ [built.2]

theorem addToBatch_flatten (batchSize : ℤ) (built : List (List Line) × List Line) (result : Line) :
    (addToBatch batchSize built result).1.flatten ++ (addToBatch batchSize built result).2 =
      built.1.flatten ++ built.2 ++ [result] := by
  rw [addToBatch]
  split_ifs <;> simp

theorem foldl_addToBatch_flatten (batchSize : ℤ) (results : List Line)
    (built : List (List Line) × List Line) :
    (results.foldl (addToBatch batchSize) built).1.flatten ++
        (results.foldl (addToBatch batchSize) built).2 =
      built.1.flatten ++ built.2 ++ results := by
  induction results generalizing built with
  | nil => rw [List.foldl_nil, List.append_nil]
  | cons result results ih =>
    rw [List.foldl_cons, ih, addToBatch_flatten, List.append_assoc, List.singleton_append]

theorem makeBatches_flatten (batchSize : ℤ) (fetchMetricResults : List Line) :
    (makeBatches batchSize fetchMetricResults).flatten = fetchMetricResults := by
  have hall := foldl_addToBatch_flatten batchSize fetchMetricResults ([], [])
  rw [makeBatches]
  split_ifs with hrest
  · rw [hrest, List.append_nil] at hall
    exact hall
  · rw [List.flatten_append, List.flatten_singleton]
    exact hall

def BatchesBounded (batchSize : ℤ) (built : List (List Line) × List Line) : Prop :=
  (∀ batch ∈ built.1, batch ≠ [] ∧ (batch.length : ℤ) ≤ max 1 batchSize) ∧
    (built.2.length : ℤ) < max 1 batchSize

theorem BatchesBounded.add {batchSize : ℤ} {built : List (List Line) × List Line}
    (h : BatchesBounded batchSize built) (result : Line) :
    BatchesBounded batchSize (addToBatch batchSize built result) := by
  obtain ⟨hclosed, hopen⟩ := h
  have hlength : ((built.2 ++ [result]).length : ℤ) = built.2.length + 1 := by
    rw [List.length_append, List.length_singleton, Nat.cast_add, Nat.cast_one]
  rw [addToBatch]
  rw [hlength]
  split_ifs with hfull
  · constructor
    · intro batch hmem
      obtain hmem | hmem := List.mem_append.mp hmem
      · exact hclosed batch hmem
      · rw [List.mem_singleton.mp hmem, hlength]
        exact ⟨List.append_ne_nil_of_right_ne_nil _ (List.cons_ne_nil _ _), by omega⟩
    · simp only [List.length_nil]
      omega
  · refine ⟨hclosed, ?_⟩
    dsimp only
    rw [hlength]
    omega

theorem makeBatches_bounded (batchSize : ℤ) (fetchMetricResults : List Line) :
    ∀ batch ∈ makeBatches batchSize fetchMetricResults,
      batch ≠ [] ∧ (batch.length : ℤ) ≤ max 1 batchSize := by
  have hbounded : ∀ (results : List Line) (built : List (List Line) × List Line),
      BatchesBounded batchSize built →
        BatchesBounded batchSize (results.foldl (addToBatch batchSize) built) := by
    intro results
    induction results with
    | nil =>
      intro built h
      exact h
    | cons result results ih =>
      intro built h
      exact ih _ (h.add result)
  have hempty : BatchesBounded batchSize (([], []) : List (List Line) × List Line) := by
    constructor
    · simp
    · simp only [List.length_nil]
      omega
  obtain ⟨hclosed, hopen⟩ := hbounded fetchMetricResults _ hempty
  intro batch hmem
  rw [makeBatches] at hmem
  split_ifs at hmem with hrest
  · exact hclosed batch hmem
  · obtain hmem | hmem := List.mem_append.mp hmem
    · exact hclosed batch hmem
    · rw [List.mem_singleton.mp hmem]
      exact ⟨hrest, hopen.le⟩

inductive BatchPhase where
  | created
  | waiting
  | skipped
  | pushing (phase : PushPhase)

namespace BatchPhase

def isStarted : BatchPhase → Bool
  | .pushing _ => true
  | _ => false

def inProgress : BatchPhase → Bool
  | .pushing phase => !phase.hasEnded
  | _ => false

def endedOk : BatchPhase → Bool
  | .pushing (.ended (.ok _)) => true
  | _ => false

def error : BatchPhase → Option PyError
  | .pushing (.ended (.error e)) => some e
  | _ => none

def isOver : BatchPhase → Bool
  | .skipped => true
  | .pushing phase => phase.hasEnded
  | _ => false

end BatchPhase

structure BatchTask (Line : Type) where
  batch : List Line
  phase : BatchPhase

inductive Happening (Line : Type) where
  | started (i : ℕ) (batch : List Line)
  | request (i : ℕ)
  | ended (i : ℕ) (batch : List Line) (result : Except PyError Unit)

namespace Happening

def isStart : Happening Line → Bool
  | .started _ _ => true
  | _ => false

def startsBatch (i : ℕ) : Happening Line → Bool
  | .started j _ => j = i
  | _ => false

def isRequest : Happening Line → Bool
  | .request _ => true
  | _ => false

def isRaise : Happening Line → Bool
  | .ended _ _ (.error _) => true
  | _ => false

def pushed : Happening Line → Option (List Line)
  | .ended _ batch (.ok _) => some batch
  | _ => none

end Happening

structure Call (Line : Type) where
  projectId : Text
  fetchMetricResults : List Line
  skipped : Bool
  tasks : List (BatchTask Line)
  abort : Bool
  permits : ℕ
  result : Option (Except PyError Unit)
  history : List (Happening Line)

inductive CallEvent where
  | next (i : ℕ)
  | wake (i : ℕ)
  | acquire (i : ℕ)
  | resume (i : ℕ) (input : PushInput)
  | complete

def happenings (i : ℕ) (batch : List Line) : PushPhase → List (Happening Line)
  | .posting _ => [.request i]
  | .ended result => [.ended i batch result]
  | _ => []

/-- The loop of the sequential mode ends with the first batch that raises. -/
def sequentialOutcome : List (BatchTask Line) → Option (Except PyError Unit)
  | [] => some (.ok ())
  | task :: tasks =>
    match task.phase with
    | .pushing (.ended (.ok _)) => sequentialOutcome tasks
    | .pushing (.ended (.error e)) => some (.error e)
    | _ => none

/-- `asyncio.gather` waits for every task, and the first of the errors is raised again. -/
def gatherOutcome (tasks : List (BatchTask Line)) : Option (Except PyError Unit) :=
  if tasks.all (fun task => task.phase.isOver) then
    some ((tasks.findSome? (fun task => task.phase.error)).elim (.ok ()) .error)
  else none

def handleOutcome (context : PushContext) :
    Except PyError Unit → Except PyError Unit × PushContext
  | .ok _ => (.ok (), context)
  | .error .invalidURL => (.ok (), context.updateDtConnectivityStatus .wrongURL)
  | .error _ => (.ok (), context)

namespace Call

variable (S : IngestSettings Line Payload)

def start (context : PushContext) (projectId : Text) (fetchMetricResults : List Line) :
    Call Line :=
  if context.dynatraceConnectivity ≠ .ok then
    ⟨projectId, fetchMetricResults, true, [], false, 0, some (.ok ()), []⟩
  else if fetchMetricResults = [] then
    ⟨projectId, fetchMetricResults, false, [], false, 0, some (.ok ()), []⟩
  else
    { projectId
      fetchMetricResults
      skipped := false
      tasks := (makeBatches S.metricIngestBatchSize fetchMetricResults).map (⟨·, .created⟩)
      abort := false
      permits := S.metricIngestConcurrentPushes.toNat
      result := none
      history := [] }

def setPhase (call : Call Line) (i : ℕ) (batch : List Line) (phase : BatchPhase) : Call Line :=
  { call with tasks := call.tasks.set i ⟨batch, phase⟩ }

def addHistory (call : Call Line) (added : List (Happening Line)) : Call Line :=
  { call with history := call.history ++ added }

def leave (call : Call Line) : PushPhase → Call Line
  | .ended (.ok _) => { call with permits := call.permits + 1 }
  | .ended (.error _) => { call with permits := call.permits + 1, abort := true }
  | _ => call

def runPush (call : Call Line) (i : ℕ) (batch : List Line) (phase : PushPhase) : Call Line :=
  let call := (call.setPhase i batch (.pushing phase)).addHistory (happenings i batch phase)
  if S.metricIngestConcurrentPushes ≤ 1 then call else call.leave phase

theorem runPush_eq (call : Call Line) (i : ℕ) (batch : List Line) (phase : PushPhase) :
    call.runPush S i batch phase =
      { call with
        tasks := call.tasks.set i ⟨batch, .pushing phase⟩
        history := call.history ++ happenings i batch phase
        permits := (call.runPush S i batch phase).permits
        abort := (call.runPush S i batch phase).abort } := by
  unfold runPush leave
  split_ifs
  · rfl
  · dsimp only
    split <;> rfl

def startPush (call : Call Line) (i : ℕ) (batch : List Line) : Call Line :=
  (call.addHistory [.started i batch]).runPush S i batch (.start S.toPushRuntime batch)

def outcome (call : Call Line) : Option (Except PyError Unit) :=
  if S.metricIngestConcurrentPushes ≤ 1 then sequentialOutcome call.tasks
  else gatherOutcome call.tasks

def resumeTask (call : Call Line) (context : PushContext) (i : ℕ) (input : PushInput) :
    Option (Call Line × PushContext) :=
  match call.tasks[i]? with
  | some ⟨batch, .pushing phase⟩ =>
    (phase.resume S.toPushRuntime call.projectId batch context input).map
      (fun next => (call.runPush S i batch next.1, next.2))
  | _ => none

def nextBatch (call : Call Line) (i : ℕ) : Option (Call Line) :=
  match call.tasks[i]? with
  | some ⟨batch, .created⟩ =>
    if (call.tasks.take i).all (fun task => task.phase.endedOk) then some (call.startPush S i batch)
    else none
  | _ => none

def wakeTask (call : Call Line) (i : ℕ) : Option (Call Line) :=
  match call.tasks[i]? with
  | some ⟨batch, .created⟩ =>
    some (call.setPhase i batch (if call.abort then .skipped else .waiting))
  | _ => none

def acquireTask (call : Call Line) (i : ℕ) : Option (Call Line) :=
  match call.tasks[i]? with
  | some ⟨batch, .waiting⟩ =>
    if call.permits = 0 then none
    else if call.abort then some (call.setPhase i batch .skipped)
    else some ({ call with permits := call.permits - 1 }.startPush S i batch)
  | _ => none

def complete (call : Call Line) (context : PushContext) : Option (Call Line × PushContext) :=
  (call.outcome S).map fun outcome =>
    let handled := handleOutcome context outcome
    ({ call with result := some handled.1 }, handled.2)

def step (call : Call Line) (context : PushContext) (e : CallEvent) :
    Option (Call Line × PushContext) :=
  if call.result.isSome then none
  else
    match e with
    | .resume i input => call.resumeTask S context i input
    | .complete => call.complete S context
    | .next i =>
      if S.metricIngestConcurrentPushes ≤ 1 then (call.nextBatch S i).map (·, context) else none
    | .wake i =>
      if S.metricIngestConcurrentPushes ≤ 1 then none else (call.wakeTask i).map (·, context)
    | .acquire i =>
      if S.metricIngestConcurrentPushes ≤ 1 then none else (call.acquireTask S i).map (·, context)

end Call

structure PollingState (Line : Type) where
  context : PushContext
  calls : List (Call Line)

inductive PollingEvent (Line : Type) where
  | call (projectId : Text) (fetchMetricResults : List Line)
  | of (c : ℕ) (e : CallEvent)

namespace PollingState

def step (S : IngestSettings Line Payload) (s : PollingState Line) :
    PollingEvent Line → Option (PollingState Line)
  | .call projectId fetchMetricResults =>
    some { s with calls := s.calls ++ [Call.start S s.context projectId fetchMetricResults] }
  | .of c e =>
    match s.calls[c]? with
    | some call =>
      (call.step S s.context e).map fun next => ⟨next.2, s.calls.set c next.1⟩
    | none => none

end PollingState

def pushSystem (S : IngestSettings Line Payload) :
    System (PollingState Line) (PollingEvent Line) where
  init := ⟨.initial, []⟩
  step := PollingState.step S

end GcpMonitor.Metrics
