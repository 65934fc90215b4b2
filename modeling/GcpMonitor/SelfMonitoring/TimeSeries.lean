import GcpMonitor.Logs.PullAndPush
import GcpMonitor.Python.Json
import GcpMonitor.SelfMonitoring.MetricDescriptors

namespace GcpMonitor.SelfMonitoring

open Python Logs

inductive PointValue where
  | int64Value (n : Number)
  | doubleValue (x : ℚ)
  deriving DecidableEq

structure Point where
  endTime : Text
  value : PointValue
  deriving DecidableEq

structure TimeSeries where
  resourceLabels : List (Text × Text)
  metricType : Text
  metricLabels : List (Text × Text)
  valueType : ValueType
  points : List Point
  deriving DecidableEq

structure SfmTask where
  projectIdOwner : Text
  location : Text
  functionName : Text
  deriving DecidableEq

def createTimeseriesDatapoint (task : SfmTask) (metricType : Text)
    (metricLabels : List (Text × Text)) (points : List Point) (valueType : ValueType := .int64) :
    TimeSeries where
  resourceLabels :=
    [("project_id".toList, task.projectIdOwner), ("location".toList, task.location),
      ("namespace".toList, task.functionName), ("job".toList, task.functionName),
      ("task_id".toList, task.functionName)]
  metricType := metricType
  metricLabels := metricLabels
  valueType := valueType
  points := points

def PointValue.fits : PointValue → ValueType → Bool
  | .int64Value _, valueType => valueType = .int64
  | .doubleValue _, valueType => valueType = .double

/-- What the service asks of a series of a type that has a descriptor. -/
structure TimeSeries.Conforms (series : TimeSeries) (metricDescriptor : MetricDescriptor) :
    Prop where
  type : metricDescriptor.type = some series.metricType
  valueType : metricDescriptor.valueType = some series.valueType.text
  labels : (series.metricLabels.map Prod.fst).insertionSort (fun a b => a ≤ b) =
    extractLabelKeys metricDescriptor
  values : ∀ point ∈ series.points, point.value.fits series.valueType = true

def batchTimeSeries (timeSeries : List TimeSeries) : List (List TimeSeries) :=
  if timeSeries.length > 200 then chunks timeSeries 200 else [timeSeries]

/-- How a request for a batch ends. The body of an answer other than 200 and of a repeated 500 is
read, which may raise. -/
inductive PostAnswer where
  | answered (status : ℕ) (readable : Bool)
  | raised
  deriving DecidableEq

namespace PostAnswer

def delivered : PostAnswer → Bool
  | .answered status _ => status = 200
  | .raised => false

def isInternalError : PostAnswer → Bool
  | .answered status _ => status = 500
  | .raised => false

def returns : PostAnswer → Bool
  | .answered status readable => status = 200 || readable
  | .raised => false

end PostAnswer

def pushSingleSelfMonitoringTimeSeries (first second : PostAnswer) : List PostAnswer :=
  if first.isInternalError then [first, second] else [first]

structure Post where
  timeSeries : List TimeSeries
  answer : PostAnswer
  deriving DecidableEq

def lastAnswer (first second : PostAnswer) : PostAnswer :=
  if first.isInternalError then second else first

def pushBatches : List (List TimeSeries) → (ℕ → PostAnswer × PostAnswer) → List Post
  | [], _ => []
  | batch :: batches, answers =>
    (pushSingleSelfMonitoringTimeSeries (answers 0).1 (answers 0).2).map (fun a => ⟨batch, a⟩) ++
      if (lastAnswer (answers 0).1 (answers 0).2).returns then
        pushBatches batches (fun i => answers (i + 1))
      else []

/-- The requests of `push_self_monitoring_time_series`, where `answers i` are those that the batch
`i` would get. An exception ends the loop. -/
def pushSelfMonitoringTimeSeries (timeSeries : List TimeSeries)
    (answers : ℕ → PostAnswer × PostAnswer) : List Post :=
  pushBatches (batchTimeSeries timeSeries) answers

section

variable {timeSeries : List TimeSeries} {batches : List (List TimeSeries)}
  {answers : ℕ → PostAnswer × PostAnswer} {first second : PostAnswer}

theorem batchTimeSeries_flatten : (batchTimeSeries timeSeries).flatten = timeSeries := by
  rw [batchTimeSeries]
  split_ifs
  · exact chunks_flatten timeSeries 200
  · exact List.append_nil timeSeries

theorem batchTimeSeries_length_le : ∀ batch ∈ batchTimeSeries timeSeries, batch.length ≤ 200 := by
  intro batch hbatch
  rw [batchTimeSeries] at hbatch
  split_ifs at hbatch with hlength
  · obtain ⟨-, hle⟩ := chunks_bounds timeSeries 200 batch hbatch
    omega
  · rw [List.mem_singleton.mp hbatch]
    omega

theorem lastAnswer_returns (h : (lastAnswer first second).delivered = true) :
    (lastAnswer first second).returns = true := by
  cases hlast : lastAnswer first second with
  | answered status readable =>
    rw [hlast] at h
    simpa [PostAnswer.returns] using .inl (of_decide_eq_true h)
  | raised =>
    rw [hlast] at h
    contradiction

theorem filter_delivered_single (batch : List TimeSeries) :
    ((pushSingleSelfMonitoringTimeSeries first second).map (fun a => Post.mk batch a)).filter
        (fun post => post.answer.delivered) =
      if (lastAnswer first second).delivered then [⟨batch, lastAnswer first second⟩] else [] := by
  cases hfirst : first.isInternalError with
  | true =>
    have hrefused : first.delivered = false := by
      cases first with
      | answered status readable =>
        have hstatus : status = 500 := of_decide_eq_true hfirst
        simp [PostAnswer.delivered, hstatus]
      | raised => rfl
    cases hsecond : second.delivered <;>
      simp [pushSingleSelfMonitoringTimeSeries, lastAnswer, hfirst, hrefused, hsecond]
  | false =>
    cases hdelivered : first.delivered <;>
      simp [pushSingleSelfMonitoringTimeSeries, lastAnswer, hfirst, hdelivered]

def deliveredBatches (posts : List Post) : List (List TimeSeries) :=
  (posts.filter (fun post => post.answer.delivered)).map Post.timeSeries

theorem deliveredBatches_cons (batch : List TimeSeries) :
    deliveredBatches (pushBatches (batch :: batches) answers) =
      (if (lastAnswer (answers 0).1 (answers 0).2).delivered then [batch] else []) ++
        if (lastAnswer (answers 0).1 (answers 0).2).returns then
          deliveredBatches (pushBatches batches (fun i => answers (i + 1)))
        else [] := by
  rw [deliveredBatches, pushBatches, List.filter_append, filter_delivered_single, List.map_append]
  congr 1
  · split_ifs <;> rfl
  · split_ifs <;> rfl

theorem deliveredBatches_sublist : (deliveredBatches (pushBatches batches answers)).Sublist
    batches := by
  induction batches generalizing answers with
  | nil => exact .slnil
  | cons batch batches ih =>
    rw [deliveredBatches_cons]
    change List.Sublist _ ([batch] ++ batches)
    apply List.Sublist.append
    · split_ifs
      · exact .refl _
      · exact List.nil_sublist _
    · split_ifs
      · exact ih
      · exact List.nil_sublist _

theorem deliveredBatches_eq_iff : deliveredBatches (pushBatches batches answers) = batches ↔
    ∀ i < batches.length, (lastAnswer (answers i).1 (answers i).2).delivered = true := by
  induction batches generalizing answers with
  | nil => simp [deliveredBatches, pushBatches]
  | cons batch batches ih =>
    rw [deliveredBatches_cons]
    have hle : (deliveredBatches (pushBatches batches (fun i => answers (i + 1)))).length ≤
        batches.length := deliveredBatches_sublist.length_le
    cases hdelivered : (lastAnswer (answers 0).1 (answers 0).2).delivered with
    | true =>
      rw [if_pos rfl, if_pos (lastAnswer_returns hdelivered), List.singleton_append,
        List.cons_inj_right, ih]
      constructor
      · rintro h (_ | i) hi
        · exact hdelivered
        · exact h i (Nat.lt_of_succ_lt_succ hi)
      · intro h i hi
        exact h (i + 1) (Nat.succ_lt_succ hi)
    | false =>
      rw [if_neg Bool.false_ne_true, List.nil_append]
      constructor
      · intro h
        have hlength := congrArg List.length h
        rw [List.length_cons] at hlength
        split_ifs at hlength
        · omega
      · intro h
        rw [h 0 (Nat.succ_pos _)] at hdelivered
        contradiction

theorem pushBatches_split (batches : List (List TimeSeries))
    (answers : ℕ → PostAnswer × PostAnswer) : ∃ sent rest, batches = sent ++ rest ∧
    pushBatches batches answers = sent.zipIdx.flatMap (fun entry =>
      (pushSingleSelfMonitoringTimeSeries (answers entry.2).1 (answers entry.2).2).map
        (fun a => ⟨entry.1, a⟩)) ∧
    (rest ≠ [] → ∃ i, sent.length = i + 1 ∧
      (lastAnswer (answers i).1 (answers i).2).returns = false) ∧
    ∀ i, i + 1 < sent.length → (lastAnswer (answers i).1 (answers i).2).returns = true := by
  induction batches generalizing answers with
  | nil => exact ⟨[], [], rfl, rfl, by simp, by simp⟩
  | cons batch batches ih =>
    rw [pushBatches]
    cases hreturns : (lastAnswer (answers 0).1 (answers 0).2).returns with
    | true =>
      obtain ⟨sent, rest, rfl, hposts, hstopped, hreturned⟩ := ih (fun i => answers (i + 1))
      refine ⟨batch :: sent, rest, rfl, ?_, ?_, ?_⟩
      · rw [if_pos rfl, hposts, List.zipIdx_cons, List.flatMap_cons, zero_add,
          List.zipIdx_succ, List.flatMap_map]
      · intro hrest
        obtain ⟨i, hi, hbroken⟩ := hstopped hrest
        exact ⟨i + 1, by rw [List.length_cons, hi], hbroken⟩
      · rintro (_ | i) hi
        · exact hreturns
        · exact hreturned i (Nat.lt_of_succ_lt_succ hi)
    | false =>
      refine ⟨[batch], batches, rfl, ?_, fun _ => ⟨0, rfl, hreturns⟩, ?_⟩
      · simp
      · simp

theorem pushSingle_cases (first second : PostAnswer) :
    pushSingleSelfMonitoringTimeSeries first second = [first] ∨
      (∃ readable, first = .answered 500 readable) ∧
        pushSingleSelfMonitoringTimeSeries first second = [first, second] := by
  rw [pushSingleSelfMonitoringTimeSeries]
  split_ifs with hinternal
  · cases first with
    | answered status readable =>
      obtain rfl : status = 500 := of_decide_eq_true hinternal
      exact .inr ⟨⟨readable, rfl⟩, rfl⟩
    | raised => contradiction
  · exact .inl rfl

end

/-- The series go out in order and in requests of at most 200; a batch is sent again only once, and
only after a 500; the batches after an exception are not sent at all; and no batch is accepted
twice. -/
theorem time_series_pushed_in_order (timeSeries : List TimeSeries)
    (answers : ℕ → PostAnswer × PostAnswer) :
    (batchTimeSeries timeSeries).flatten = timeSeries ∧
    (∀ batch ∈ batchTimeSeries timeSeries, batch.length ≤ 200) ∧
    (∃ sent rest, batchTimeSeries timeSeries = sent ++ rest ∧
      pushSelfMonitoringTimeSeries timeSeries answers = sent.zipIdx.flatMap (fun entry =>
        (pushSingleSelfMonitoringTimeSeries (answers entry.2).1 (answers entry.2).2).map
          (fun a => ⟨entry.1, a⟩)) ∧
      (rest ≠ [] → ∃ i, sent.length = i + 1 ∧
        (lastAnswer (answers i).1 (answers i).2).returns = false) ∧
      ∀ i, i + 1 < sent.length → (lastAnswer (answers i).1 (answers i).2).returns = true) ∧
    (∀ i, pushSingleSelfMonitoringTimeSeries (answers i).1 (answers i).2 = [(answers i).1] ∨
      (∃ readable, (answers i).1 = .answered 500 readable) ∧
        pushSingleSelfMonitoringTimeSeries (answers i).1 (answers i).2 =
          [(answers i).1, (answers i).2]) ∧
    (deliveredBatches (pushSelfMonitoringTimeSeries timeSeries answers)).Sublist
      (batchTimeSeries timeSeries) ∧
    (deliveredBatches (pushSelfMonitoringTimeSeries timeSeries answers) =
        batchTimeSeries timeSeries ↔
      ∀ i < (batchTimeSeries timeSeries).length,
        (lastAnswer (answers i).1 (answers i).2).delivered = true) :=
  ⟨batchTimeSeries_flatten, batchTimeSeries_length_le, pushBatches_split _ _,
    fun _ => pushSingle_cases _ _, deliveredBatches_sublist, deliveredBatches_eq_iff⟩

end GcpMonitor.SelfMonitoring
