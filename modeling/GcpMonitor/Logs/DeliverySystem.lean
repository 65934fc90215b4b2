import GcpMonitor.Logs.PullAndPush

namespace GcpMonitor.Logs

open TransitionSystem TaskPool

variable {AckId : Type}

/-- A message as it is given out: its place among those that were published, and how
`_process_message` ends for it this time. -/
structure Arrival where
  number : ℕ
  processed : Processed
  deriving DecidableEq

abbrev Delivery (AckId : Type) := ReceivedMessage AckId Arrival

inductive Worker (AckId : Type) where
  | pulling
  | pushing (ackIdsOfErroneousMessages : List AckId) (push : PushState AckId)
  | acknowledging

namespace Worker

def isPulling : Worker AckId → Bool
  | .pulling => true
  | _ => false

def isAcknowledging : Worker AckId → Bool
  | .acknowledging => true
  | _ => false

end Worker

/-- What `perform_pull` and the start of `push_logs` find: the queue and the semaphore are those of
the process of the worker. -/
structure Pull (AckId : Type) where
  responses : List (PullResponse AckId Arrival)
  outcomes : ℕ → SendOutcome
  pullTimes : PullTimes
  sfmQueue : SfmQueue
  permits : ℕ
  sendingTimeStart : ℚ

namespace Pull

def deliveries (pull : Pull AckId) : List (Delivery AckId) :=
  pull.responses.flatMap PullResponse.messages

def sends (pull : Pull AckId) (batches : List (LogBatch AckId)) :
    List (LogBatch AckId × SendOutcome) :=
  batches.zipIdx.map (fun (batch, i) => (batch, pull.outcomes i))

def worker (limits : RequestLimits) (pull : Pull AckId) : Worker AckId :=
  match performPull limits Arrival.processed pull.pullTimes pull.sfmQueue pull.responses with
  | .error _ => .pulling
  | .ok (batches, ackIdsOfErroneousMessages, sfmQueue) =>
    .pushing ackIdsOfErroneousMessages
      (pushLogsStart sfmQueue pull.permits pull.sendingTimeStart (pull.sends batches))

end Pull

def PushState.accepts (push : PushState AckId) : PushEvent → List (LogBatch AckId)
  | .respond i =>
    match push.tasks[i]? with
    | some task => if task.outcome.accepted then [task.batch] else []
    | none => []
  | _ => []

/-- The subscription, Dynatrace and the workers of all processes. `received` are the batches that
Dynatrace has answered for, `requests` the acknowledge requests that have been sent, `acknowledged`
the messages that have left the subscription. -/
structure DeliveryState (AckId : Type) where
  published : ℕ := 0
  deliveries : List (Delivery AckId) := []
  received : List (LogBatch AckId) := []
  requests : List (List AckId) := []
  acknowledged : List ℕ := []
  workers : List (Worker AckId)

/-- Any message may be given out at any time and any number of times. A request to acknowledge may
be carried out late, more than once or never. A worker may start again at any time, after an
exception or because its process does. -/
inductive DeliveryEvent (AckId : Type) where
  | publish
  | pull (w : ℕ) (pull : Pull AckId)
  | push (w : ℕ) (event : PushEvent)
  | acknowledge (w : ℕ) (sendingTimeEnd : ℚ)
  | carryOut (k : ℕ)
  | answered (w : ℕ)
  | restart (w : ℕ)

namespace DeliveryState

variable [DecidableEq AckId]

def canGiveOut (s : DeliveryState AckId) (pull : Pull AckId) : Bool :=
  pull.deliveries.all (fun d => d.message.number < s.published) &&
    ((s.deliveries ++ pull.deliveries).map (fun d => d.ackId)).Nodup

def pull (limits : RequestLimits) (s : DeliveryState AckId) (w : ℕ) (pull : Pull AckId) :
    DeliveryState AckId :=
  { s with
    deliveries := s.deliveries ++ pull.deliveries
    workers := s.workers.set w (pull.worker limits) }

def carryOut (s : DeliveryState AckId) (ackIds : List AckId) : DeliveryState AckId :=
  { s with
    acknowledged := s.acknowledged ++
      (s.deliveries.filter (fun d => ackIds.contains d.ackId)).map (fun d => d.message.number) }

def step (limits : RequestLimits) (compressedLength : String → ℕ) (s : DeliveryState AckId) :
    DeliveryEvent AckId → Option (DeliveryState AckId)
  | .publish => some { s with published := s.published + 1 }
  | .pull w p =>
    onTask s.workers w (fun worker => worker.isPulling ∧ s.canGiveOut p) fun _ => s.pull limits w p
  | .push w event =>
    match s.workers[w]? with
    | some (.pushing ackIdsOfErroneousMessages push) =>
      (push.step compressedLength event).map fun next =>
        { s with
          received := s.received ++ push.accepts event
          workers := s.workers.set w (.pushing ackIdsOfErroneousMessages next) }
    | _ => none
  | .acknowledge w sendingTimeEnd =>
    match s.workers[w]? with
    | some (.pushing ackIdsOfErroneousMessages push) =>
      if push.allDone then
        some { s with
          requests := s.requests ++
            pushAckIds ((pushLogsResult push sendingTimeEnd).1 ++ ackIdsOfErroneousMessages)
          workers := s.workers.set w .acknowledging }
      else none
    | _ => none
  | .carryOut k => s.requests[k]?.map s.carryOut
  | .answered w =>
    onTask s.workers w (fun worker => worker.isAcknowledging) fun _ =>
      { s with workers := s.workers.set w .pulling }
  | .restart w =>
    onTask s.workers w (fun _ => True) fun _ => { s with workers := s.workers.set w .pulling }

end DeliveryState

def deliverySystem [DecidableEq AckId] (limits : RequestLimits) (compressedLength : String → ℕ)
    (workers : ℕ) : System (DeliveryState AckId) (DeliveryEvent AckId) where
  init := { workers := List.replicate workers .pulling }
  step := DeliveryState.step limits compressedLength

end GcpMonitor.Logs
