import GcpMonitor.Library.TransitionSystem
import GcpMonitor.SelfMonitoring.LogTimeSeries

namespace GcpMonitor.SelfMonitoring

open Logs TransitionSystem

def maxSfmMessagesProcessed : ℕ := 10000

inductive FetchedToken where
  | missing
  | notString
  | string
  deriving DecidableEq

inductive PeriodCourse where
  | contextFailed
  | inContext (context : LogsSfmContext) (selfMonitoringEnabled : Bool) (token : FetchedToken)
    (answers : ℕ → PostAnswer × PostAnswer)

namespace PeriodCourse

def pushes : PeriodCourse → Bool
  | .contextFailed => false
  | .inContext _ selfMonitoringEnabled token _ => selfMonitoringEnabled && token = .string

def marksDone : PeriodCourse → Bool
  | .contextFailed => false
  | .inContext _ selfMonitoringEnabled token _ => !selfMonitoringEnabled || token = .string

end PeriodCourse

structure SfmPeriod where
  sfmList : List LogSelfMonitoring
  course : PeriodCourse

namespace SfmPeriod

def posts (period : SfmPeriod) : List Post :=
  match period.course with
  | .contextFailed => []
  | .inContext context _ _ answers =>
    if period.course.pushes then
      pushSelfMonitoringTimeSeries
        (createSelfMonitoringTimeSeries (aggregateSelfMonitoringMetrics {} period.sfmList) context)
        answers
    else []

def reported (period : SfmPeriod) : List TimeSeries := (deliveredBatches period.posts).flatten

def delivered (period : SfmPeriod) : Bool := period.posts.any (fun post => post.answer.delivered)

end SfmPeriod

/-- `pulled` is what the loop holds between the pull and the end of the period, `periods` what it
has done so far. -/
structure SfmLoop where
  sfmQueue : SfmQueue := { maxsize := maxSfmMessagesProcessed }
  unfinishedTasks : ℕ := 0
  pulled : List LogSelfMonitoring := []
  periods : List SfmPeriod := []

inductive SfmLoopEvent where
  | put (sfm : LogSelfMonitoring)
  | pull
  | finish (course : PeriodCourse)

namespace SfmLoop

def waiting (s : SfmLoop) : List LogSelfMonitoring := s.sfmQueue.put.drop s.sfmQueue.taken

/-- A worker's `put_nowait` fails on a full queue, and its `put` is not done before there is
room. -/
def put (s : SfmLoop) (sfm : LogSelfMonitoring) : SfmLoop :=
  if s.sfmQueue.isFull then s
  else { s with sfmQueue := s.sfmQueue.push sfm, unfinishedTasks := s.unfinishedTasks + 1 }

def pull (s : SfmLoop) : SfmLoop :=
  let sfmList := s.waiting.take maxSfmMessagesProcessed
  { s with
    sfmQueue := { s.sfmQueue with taken := s.sfmQueue.taken + sfmList.length }
    pulled := sfmList }

def finish (s : SfmLoop) (course : PeriodCourse) : SfmLoop :=
  { s with
    unfinishedTasks :=
      if course.marksDone then s.unfinishedTasks - s.pulled.length else s.unfinishedTasks
    pulled := []
    periods := s.periods ++ [⟨s.pulled, course⟩] }

def step (s : SfmLoop) : SfmLoopEvent → Option SfmLoop
  | .put sfm => some (s.put sfm)
  | .pull => if s.pulled = [] then some s.pull else none
  | .finish course => if s.pulled ≠ [] then some (s.finish course) else none

end SfmLoop

def sfmLoopSystem : System SfmLoop SfmLoopEvent where
  init := {}
  step := SfmLoop.step

section

variable {context : LogsSfmContext} {quantity : Quantity}

theorem counter_length_le (xs : List DynatraceConnectivity) :
    (OrderedDict.counter xs).entries.length ≤ 7 := by
  have hsubset : ∀ status ∈ (OrderedDict.counter xs).keys, status ∈
      [.ok, .expiredToken, .wrongToken, .wrongURL, .invalidInput, .tooManyRequests,
        DynatraceConnectivity.other] := by
    intro status _
    cases status <;> simp
  have hle := ((OrderedDict.counter xs).nodup.subperm hsubset).length_le
  rwa [List.length_map] at hle

theorem createSelfMonitoringTimeSeries_length_le (sfm : LogSelfMonitoring) :
    (createSelfMonitoringTimeSeries sfm context).length ≤ 200 := by
  have hcount : ∀ metricType count, (context.countSeries metricType count).length ≤ 1 := by
    intro metricType count
    rw [LogsSfmContext.countSeries]
    split_ifs <;> simp
  have hsize : ∀ metricType size, (context.sizeSeries metricType size).length ≤ 1 := by
    intro metricType size
    rw [LogsSfmContext.sizeSeries]
    split_ifs <;> simp
  have hstatus : ∀ entries : List (DynatraceConnectivity × ℕ),
      (entries.flatMap context.statusSeries).length ≤ entries.length := by
    intro entries
    induction entries with
    | nil => simp
    | cons entry entries ih =>
      rw [List.flatMap_cons, List.length_append, List.length_cons, LogsSfmContext.statusSeries]
      split_ifs
      · rw [List.length_singleton]
        omega
      · rw [List.length_nil]
        omega
  have hconnectivity : (context.connectivitySeries sfm.dynatraceConnectivity).length ≤ 7 :=
    (hstatus _).trans (counter_length_le _)
  simp only [createSelfMonitoringTimeSeries, List.length_append, LogsSfmContext.timeSeries,
    List.length_singleton]
  linarith [hcount logSelfMonitoringAllRequestsMetricType sfm.allRequests,
    hcount logSelfMonitoringTooOldRecordsMetricType sfm.tooOldRecords,
    hcount logSelfMonitoringParsingErrorsMetricType sfm.parsingErrors,
    hcount logSelfMonitoringTooLongContentMetricType sfm.recordsWithTooLongContent,
    hcount logSelfMonitoringPublishTimeFallbackMetricType sfm.publishTimeFallbackRecords,
    hcount logSelfMonitoringSentLogsEntriesMetricType sfm.sentLogsEntries,
    hsize logSelfMonitoringLogIngestPayloadSizeMetricType sfm.logIngestPayloadSize,
    hsize logSelfMonitoringRawLogIngestPayloadSizeMetricType sfm.logIngestRawSize]

theorem pushed_single {timeSeries : List TimeSeries} {answers : ℕ → PostAnswer × PostAnswer}
    (hlength : timeSeries.length ≤ 200) :
    deliveredBatches (pushSelfMonitoringTimeSeries timeSeries answers) =
      if (lastAnswer (answers 0).1 (answers 0).2).delivered then [timeSeries] else [] := by
  have hbatches : batchTimeSeries timeSeries = [timeSeries] := by
    rw [batchTimeSeries, if_neg]
    omega
  rw [pushSelfMonitoringTimeSeries, hbatches, deliveredBatches_cons]
  by_cases hreturns : (lastAnswer (answers 0).1 (answers 0).2).returns = true
  · rw [if_pos hreturns]
    simp [deliveredBatches, pushBatches]
  · rw [if_neg hreturns, List.append_nil]

theorem any_delivered_iff (posts : List Post) :
    posts.any (fun post => post.answer.delivered) = true ↔ deliveredBatches posts ≠ [] := by
  rw [deliveredBatches, ne_eq, List.map_eq_nil_iff, List.filter_eq_nil_iff, List.any_eq_true]
  push Not
  rfl

theorem reported_cases (period : SfmPeriod) :
    (period.delivered = false ∧ period.reported = []) ∨
    (period.delivered = true ∧ ∃ context, period.reported =
      createSelfMonitoringTimeSeries (aggregateSelfMonitoringMetrics {} period.sfmList)
        context) := by
  obtain ⟨sfmList, course⟩ := period
  have hnone : ∀ posts : List Post, posts.any (fun post => post.answer.delivered) = false ↔
      deliveredBatches posts = [] := by
    intro posts
    rw [← Bool.not_eq_true, any_delivered_iff, ne_eq, not_not]
  rw [SfmPeriod.delivered, SfmPeriod.reported, hnone, any_delivered_iff]
  cases course with
  | contextFailed => exact .inl ⟨rfl, rfl⟩
  | inContext context selfMonitoringEnabled token answers =>
    simp only [SfmPeriod.posts]
    by_cases hpushes : (PeriodCourse.inContext context selfMonitoringEnabled token answers).pushes
    · rw [if_pos hpushes, pushed_single (createSelfMonitoringTimeSeries_length_le _)]
      by_cases hdelivered : (lastAnswer (answers 0).1 (answers 0).2).delivered = true
      · rw [if_pos hdelivered]
        exact .inr ⟨by simp, context, by simp⟩
      · rw [if_neg hdelivered]
        exact .inl ⟨rfl, rfl⟩
    · rw [if_neg hpushes]
      exact .inl ⟨rfl, rfl⟩

theorem totalOf_reported (period : SfmPeriod) (h : quantity ≠ .connectivityFailures .ok) :
    quantity.totalOf period.reported =
      if period.delivered then (period.sfmList.map quantity.read).sum else 0 := by
  obtain ⟨hdelivered, hreported⟩ | ⟨hdelivered, context, hreported⟩ := reported_cases period
  · rw [hreported, hdelivered, if_neg Bool.false_ne_true, Quantity.totalOf_nil]
  · rw [hreported, hdelivered, if_pos rfl,
      totalOf_createSelfMonitoringTimeSeries context quantity _ h, read_aggregate, read_empty,
      zero_add]

end

namespace SfmLoop

def leftUndone (s : SfmLoop) : ℕ :=
  ((s.periods.filter (fun period => !period.course.marksDone)).map
    (fun period => period.sfmList.length)).sum

structure Valid (s : SfmLoop) : Prop where
  size : s.sfmQueue.maxsize = maxSfmMessagesProcessed
  order : s.periods.flatMap SfmPeriod.sfmList ++ s.pulled ++ s.waiting = s.sfmQueue.put
  taken : s.sfmQueue.taken ≤ s.sfmQueue.put.length
  room : s.waiting.length ≤ maxSfmMessagesProcessed
  limit : s.pulled.length ≤ maxSfmMessagesProcessed
  periods : ∀ period ∈ s.periods,
    period.sfmList ≠ [] ∧ period.sfmList.length ≤ maxSfmMessagesProcessed
  unfinished : s.unfinishedTasks = s.waiting.length + s.pulled.length + s.leftUndone

theorem waiting_length (s : SfmLoop) :
    s.waiting.length = s.sfmQueue.put.length - s.sfmQueue.taken := by
  rw [waiting, List.length_drop]

theorem isFull_eq_false {s : SfmLoop} (hv : s.Valid) (h : s.sfmQueue.isFull = false) :
    s.waiting.length < maxSfmMessagesProcessed := by
  rw [SfmQueue.isFull, decide_eq_false_iff_not, hv.size, ← waiting_length] at h
  have hpos : 0 < maxSfmMessagesProcessed := by decide
  omega

theorem Valid.put {s : SfmLoop} (hv : s.Valid) (sfm : LogSelfMonitoring) : (s.put sfm).Valid := by
  rw [SfmLoop.put]
  cases hfull : s.sfmQueue.isFull with
  | true => exact hv
  | false =>
    rw [if_neg Bool.false_ne_true]
    have hwaiting : waiting { s with
        sfmQueue := s.sfmQueue.push sfm
        unfinishedTasks := s.unfinishedTasks + 1 } = s.waiting ++ [sfm] :=
      List.drop_append_of_le_length hv.taken
    have hroom := isFull_eq_false hv hfull
    refine ⟨hv.size, ?_, ?_, ?_, hv.limit, hv.periods, ?_⟩
    · rw [hwaiting, ← List.append_assoc]
      exact congrArg (· ++ [sfm]) hv.order
    · have hlength : (s.sfmQueue.push sfm).put.length = s.sfmQueue.put.length + 1 := by
        simp [SfmQueue.push]
      have htaken := hv.taken
      change s.sfmQueue.taken ≤ (s.sfmQueue.push sfm).put.length
      omega
    · rw [hwaiting, List.length_append, List.length_singleton]
      omega
    · have hunfinished := hv.unfinished
      rw [hwaiting, List.length_append, List.length_singleton]
      change s.unfinishedTasks + 1 = _ + s.pulled.length + s.leftUndone
      omega

theorem Valid.pull {s : SfmLoop} (hv : s.Valid) (h : s.pulled = []) : s.pull.Valid := by
  have hwaiting : s.pull.waiting = s.waiting.drop maxSfmMessagesProcessed := by
    change s.sfmQueue.put.drop (s.sfmQueue.taken + _) = _
    rw [← List.drop_drop]
    change s.waiting.drop (s.waiting.take maxSfmMessagesProcessed).length = _
    rw [List.length_take]
    by_cases hle : maxSfmMessagesProcessed ≤ s.waiting.length
    · rw [Nat.min_eq_left hle]
    · rw [Nat.min_eq_right (by omega), List.drop_length,
        List.drop_eq_nil_of_le (by omega)]
  have hlength : (s.waiting.take maxSfmMessagesProcessed).length +
      (s.waiting.drop maxSfmMessagesProcessed).length = s.waiting.length := by
    rw [← List.length_append, List.take_append_drop]
  refine ⟨hv.size, ?_, ?_, ?_, ?_, hv.periods, ?_⟩
  · rw [hwaiting, List.append_assoc]
    change _ ++ (s.waiting.take _ ++ _) = _
    rw [List.take_append_drop]
    have horder := hv.order
    rw [h, List.append_nil] at horder
    exact horder
  · have htaken := hv.taken
    have hsplit := s.waiting_length
    change s.sfmQueue.taken + (s.waiting.take _).length ≤ s.sfmQueue.put.length
    omega
  · have hroom := hv.room
    rw [hwaiting]
    omega
  · change (s.waiting.take _).length ≤ _
    rw [List.length_take]
    omega
  · have hunfinished := hv.unfinished
    rw [h, List.length_nil, add_zero] at hunfinished
    rw [hwaiting]
    change s.unfinishedTasks = _ + (s.waiting.take _).length + s.leftUndone
    omega

theorem leftUndone_finish (s : SfmLoop) (course : PeriodCourse) :
    (s.finish course).leftUndone =
      s.leftUndone + if course.marksDone then 0 else s.pulled.length := by
  rw [leftUndone, finish]
  cases hdone : course.marksDone <;> simp [leftUndone, hdone]

theorem Valid.finish {s : SfmLoop} (hv : s.Valid) (course : PeriodCourse) (h : s.pulled ≠ []) :
    (s.finish course).Valid := by
  refine ⟨hv.size, ?_, hv.taken, hv.room, Nat.zero_le _, ?_, ?_⟩
  · have horder := hv.order
    change (s.periods ++ [SfmPeriod.mk s.pulled course]).flatMap SfmPeriod.sfmList ++ [] ++
      s.waiting = s.sfmQueue.put
    rw [List.flatMap_append, List.append_nil]
    simpa using horder
  · intro period hperiod
    obtain hold | hnew := List.mem_append.mp hperiod
    · exact hv.periods period hold
    · rw [List.mem_singleton.mp hnew]
      exact ⟨h, hv.limit⟩
  · have hunfinished := hv.unfinished
    rw [leftUndone_finish]
    change (if course.marksDone then s.unfinishedTasks - s.pulled.length else s.unfinishedTasks) =
      s.waiting.length + 0 + _
    split_ifs
    · omega
    · omega

theorem Valid.step {s t : SfmLoop} {event : SfmLoopEvent} (hv : s.Valid)
    (h : s.step event = some t) : t.Valid := by
  cases event with
  | put sfm =>
    cases h
    exact hv.put sfm
  | pull =>
    obtain ⟨hpulled, ht⟩ := Option.ite_none_right_eq_some.mp h
    cases ht
    exact hv.pull hpulled
  | finish course =>
    obtain ⟨hpulled, ht⟩ := Option.ite_none_right_eq_some.mp h
    cases ht
    exact hv.finish course hpulled

theorem valid_of_reachable {s : SfmLoop} (h : sfmLoopSystem.Reachable s) : s.Valid := by
  apply sfmLoopSystem.invariant Valid _ _ h
  · exact ⟨rfl, rfl, Nat.zero_le _, Nat.zero_le _, Nat.zero_le _, by simp [sfmLoopSystem], rfl⟩
  · intro s event t hv hstep
    exact hv.step hstep

def allReported (s : SfmLoop) : List TimeSeries := s.periods.flatMap SfmPeriod.reported

theorem totalOf_allReported (s : SfmLoop) {quantity : Quantity}
    (h : quantity ≠ .connectivityFailures .ok) :
    quantity.totalOf s.allReported =
      (((s.periods.filter SfmPeriod.delivered).flatMap SfmPeriod.sfmList).map quantity.read).sum
        := by
  rw [allReported]
  induction s.periods with
  | nil => rfl
  | cons period periods ih =>
    rw [List.flatMap_cons, Quantity.totalOf_append, ih, totalOf_reported period h]
    cases hdelivered : period.delivered with
    | true =>
      rw [List.filter_cons_of_pos hdelivered, List.flatMap_cons, List.map_append, List.sum_append,
        if_pos rfl]
    | false =>
      rw [List.filter_cons_of_neg (by simp [hdelivered]), if_neg Bool.false_ne_true, zero_add]

def lost (s : SfmLoop) : List LogSelfMonitoring :=
  (s.periods.filter (fun period => !period.delivered)).flatMap SfmPeriod.sfmList

theorem delivered_lost_perm (s : SfmLoop) :
    ((s.periods.filter SfmPeriod.delivered).flatMap SfmPeriod.sfmList ++ s.lost).Perm
      (s.periods.flatMap SfmPeriod.sfmList) := by
  rw [lost, ← List.flatMap_append]
  exact (List.filter_append_perm SfmPeriod.delivered s.periods).flatMap_right _

theorem totalOf_conserved {s : SfmLoop} (hv : s.Valid) {quantity : Quantity}
    (h : quantity ≠ .connectivityFailures .ok) :
    quantity.totalOf s.allReported +
        ((s.lost ++ s.pulled ++ s.waiting).map quantity.read).sum =
      (s.sfmQueue.put.map quantity.read).sum := by
  rw [totalOf_allReported s h, ← List.sum_append, ← List.map_append, ← hv.order,
    ← List.append_assoc, ← List.append_assoc]
  exact (((s.delivered_lost_perm.append_right _).append_right _).map _).sum_eq

end SfmLoop

/-- Of every run: what the workers put into the queue is taken once and in order, at most 10000
objects in a period; the tasks that are not done are those that wait, those of the current period
and those of the periods without a context or a token; and of every quantity but the successes, what
has been reported, what was lost with a period and what is still held add up to all that was put. -/
theorem self_monitoring_accounted {s : SfmLoop} (h : sfmLoopSystem.Reachable s) :
    s.periods.flatMap SfmPeriod.sfmList ++ s.pulled ++ s.waiting = s.sfmQueue.put ∧
    s.waiting.length ≤ maxSfmMessagesProcessed ∧
    (∀ period ∈ s.periods,
      period.sfmList ≠ [] ∧ period.sfmList.length ≤ maxSfmMessagesProcessed) ∧
    s.unfinishedTasks = s.waiting.length + s.pulled.length + s.leftUndone ∧
    ∀ quantity : Quantity, quantity ≠ .connectivityFailures .ok →
      quantity.totalOf s.allReported =
        (((s.periods.filter SfmPeriod.delivered).flatMap SfmPeriod.sfmList).map
          quantity.read).sum ∧
      quantity.totalOf s.allReported +
          ((s.lost ++ s.pulled ++ s.waiting).map quantity.read).sum =
        (s.sfmQueue.put.map quantity.read).sum := by
  have hv := SfmLoop.valid_of_reachable h
  refine ⟨hv.order, hv.room, hv.periods, hv.unfinished, ?_⟩
  intro quantity hquantity
  exact ⟨s.totalOf_allReported hquantity, SfmLoop.totalOf_conserved hv hquantity⟩

def loopContext : LogsSfmContext where
  projectIdOwner := "owner".toList
  dynatraceUrl := "https://tenant".toList
  logsSubscriptionId := "subscription".toList
  functionName := "Local".toList
  containerName := "pod".toList
  zone := "us-east1".toList
  workerPid := "7".toList
  timestamp := "2024-01-01T00:00:00".toList

def loopTrace : List SfmLoopEvent :=
  [.put { sentLogsEntries := 2 }, .put { sentLogsEntries := 3 }, .pull,
    .put { sentLogsEntries := 5 },
    .finish (.inContext loopContext true .string
      (fun _ => (.answered 500 true, .answered 200 true))),
    .pull, .finish .contextFailed]

theorem self_monitoring_accounted_one_lost : ∃ s, sfmLoopSystem.run loopTrace = some s ∧
    s.unfinishedTasks = 1 ∧
    s.periods.flatMap SfmPeriod.sfmList ++ s.pulled ++ s.waiting = s.sfmQueue.put ∧
    Quantity.sentLogsEntries.totalOf s.allReported +
        ((s.lost ++ s.pulled ++ s.waiting).map Quantity.sentLogsEntries.read).sum =
      (s.sfmQueue.put.map Quantity.sentLogsEntries.read).sum := by
  obtain ⟨s, hs⟩ : ∃ s, sfmLoopSystem.run loopTrace = some s := ⟨_, rfl⟩
  have hunfinished : s.unfinishedTasks = 1 := by
    cases hs
    rfl
  obtain ⟨horder, -, -, -, htotals⟩ := self_monitoring_accounted ⟨loopTrace, hs⟩
  exact ⟨s, hs, hunfinished, horder, (htotals .sentLogsEntries (by decide)).2⟩

end GcpMonitor.SelfMonitoring
