import GcpMonitor.Library.GreedyPacking
import GcpMonitor.Logs.SelfMonitoring
import Mathlib.Algebra.Order.Ring.Int

namespace GcpMonitor.Logs

open GreedyPacking

variable {AckId : Type}

structure LogProcessingJob (AckId : Type) where
  payload : String
  selfMonitoring : LogSelfMonitoring
  ackId : AckId

def LogProcessingJob.bytesSize (job : LogProcessingJob AckId) : ℕ := job.payload.utf8ByteSize

structure LogBatch (AckId : Type) where
  serializedBatch : String
  numberOfLogsInBatch : ℕ
  ackIds : List AckId
  sizeBatchBytes : ℕ
  selfMonitoring : LogSelfMonitoring

structure RequestLimits where
  requestBodyMaxSize : ℤ
  requestMaxEvents : ℤ

structure BatchLoop (AckId : Type) where
  batches : List (LogBatch AckId) := []
  logsForNextBatch : List String := []
  ackIdsForNextBatch : List AckId := []
  logsForNextBatchTotalLen : ℕ := 0
  logsForNextBatchEventsCount : ℕ := 0
  logEntries : ℕ := 0
  batchSfmMonitoringList : List LogSelfMonitoring := []

namespace BatchLoop

def newBatchLen (st : BatchLoop AckId) : ℕ :=
  st.logsForNextBatchTotalLen + 2 + st.logsForNextBatch.length - 1

def nextBatch (st : BatchLoop AckId) : LogBatch AckId where
  serializedBatch := "[" ++ ",".intercalate st.logsForNextBatch ++ "]"
  numberOfLogsInBatch := st.logEntries
  ackIds := st.ackIdsForNextBatch
  sizeBatchBytes := st.newBatchLen
  selfMonitoring := aggregateSelfMonitoringMetrics {} st.batchSfmMonitoringList

def closeBatch (st : BatchLoop AckId) : BatchLoop AckId :=
  { batches := st.batches ++ [st.nextBatch] }

def appendEntry (st : BatchLoop AckId) (logEntry : LogProcessingJob AckId) : BatchLoop AckId :=
  { st with
    logsForNextBatch := st.logsForNextBatch ++ [logEntry.payload]
    ackIdsForNextBatch := st.ackIdsForNextBatch ++ [logEntry.ackId]
    logEntries := st.logEntries + 1
    logsForNextBatchTotalLen := st.logsForNextBatchTotalLen + logEntry.payload.utf8ByteSize
    logsForNextBatchEventsCount := st.logsForNextBatchEventsCount + 1
    batchSfmMonitoringList := st.batchSfmMonitoringList ++ [logEntry.selfMonitoring] }

def step (limits : RequestLimits) (st : BatchLoop AckId) (logEntry : LogProcessingJob AckId) :
    BatchLoop AckId :=
  let batchLengthIfAddedEntry := st.newBatchLen + 1 + logEntry.payload.utf8ByteSize
  if (batchLengthIfAddedEntry : ℤ) > limits.requestBodyMaxSize ∨
      (st.logsForNextBatchEventsCount : ℤ) ≥ limits.requestMaxEvents then
    st.closeBatch.appendEntry logEntry
  else
    st.appendEntry logEntry

end BatchLoop

def prepareBatches (limits : RequestLimits) (logs : List (LogProcessingJob AckId)) :
    List (LogBatch AckId) :=
  let st := logs.foldl (BatchLoop.step limits) {}
  if st.logsForNextBatch.length ≥ 1 then st.batches ++ [st.nextBatch] else st.batches

def serialize (group : List (LogProcessingJob AckId)) : String :=
  "[" ++ ",".intercalate (group.map (fun job => job.payload)) ++ "]"

/-- The batch a group of jobs makes up, described without the loop's counters. -/
def batchOf (group : List (LogProcessingJob AckId)) : LogBatch AckId where
  serializedBatch := serialize group
  numberOfLogsInBatch := group.length
  ackIds := group.map (fun job => job.ackId)
  sizeBatchBytes := (serialize group).utf8ByteSize
  selfMonitoring := aggregateSelfMonitoringMetrics {} (group.map (fun job => job.selfMonitoring))

def overLimits (limits : RequestLimits) (group : List (LogProcessingJob AckId)) : Prop :=
  ((serialize group).utf8ByteSize : ℤ) > limits.requestBodyMaxSize ∨
    (group.length : ℤ) > limits.requestMaxEvents

instance (limits : RequestLimits) (group : List (LogProcessingJob AckId)) :
    Decidable (overLimits limits group) :=
  inferInstanceAs (Decidable (_ ∨ _))

def payloadSizes (group : List (LogProcessingJob AckId)) : ℕ :=
  (group.map (fun job => job.payload.utf8ByteSize)).sum

theorem intercalate_comma_size (payloads : List String) (hne : payloads ≠ []) :
    (",".intercalate payloads).utf8ByteSize + 1 =
      (payloads.map String.utf8ByteSize).sum + payloads.length := by
  induction payloads with
  | nil => exact absurd rfl hne
  | cons s rest ih =>
    cases rest with
    | nil => simp
    | cons t rest =>
      have hrest := ih (by simp)
      have hcomma : (",").utf8ByteSize = 1 := rfl
      rw [String.intercalate_cons_cons]
      simp only [String.utf8ByteSize_append, hcomma, List.map_cons, List.sum_cons,
        List.length_cons] at hrest ⊢
      omega

theorem serialize_size (group : List (LogProcessingJob AckId)) (hne : group ≠ []) :
    (serialize group).utf8ByteSize = payloadSizes group + 2 + group.length - 1 := by
  have hopen : ("[").utf8ByteSize = 1 := rfl
  have hclose : ("]").utf8ByteSize = 1 := rfl
  have h := intercalate_comma_size (group.map (fun job => job.payload)) (by simpa using hne)
  simp only [List.map_map, Function.comp_def, List.length_map] at h
  simp only [serialize, String.utf8ByteSize_append, hopen, hclose, payloadSizes]
  omega

def groupFull (limits : RequestLimits) (group : List (LogProcessingJob AckId))
    (logEntry : LogProcessingJob AckId) : Bool :=
  decide ((payloadSizes group + 2 + group.length - 1 + 1 + logEntry.bytesSize : ℕ) >
      limits.requestBodyMaxSize ∨ (group.length : ℤ) ≥ limits.requestMaxEvents)

def loopOf (p : Packing (LogProcessingJob AckId)) : BatchLoop AckId where
  batches := p.closed.map batchOf
  logsForNextBatch := p.current.map (fun job => job.payload)
  ackIdsForNextBatch := p.current.map (fun job => job.ackId)
  logsForNextBatchTotalLen := payloadSizes p.current
  logsForNextBatchEventsCount := p.current.length
  logEntries := p.current.length
  batchSfmMonitoringList := p.current.map (fun job => job.selfMonitoring)

theorem loopOf_newBatchLen (p : Packing (LogProcessingJob AckId)) :
    (loopOf p).newBatchLen = payloadSizes p.current + 2 + p.current.length - 1 := by
  simp [BatchLoop.newBatchLen, loopOf]

theorem loopOf_nextBatch (p : Packing (LogProcessingJob AckId)) (hne : p.current ≠ []) :
    (loopOf p).nextBatch = batchOf p.current := by
  simp only [BatchLoop.nextBatch, loopOf_newBatchLen, batchOf, ← serialize_size p.current hne]
  rfl

theorem loopOf_step (limits : RequestLimits) (p : Packing (LogProcessingJob AckId))
    (job : LogProcessingJob AckId) (hempty : p.current = [] → groupFull limits [] job = false) :
    (loopOf p).step limits job = loopOf (p.add (groupFull limits) job) := by
  have hcond : (((loopOf p).newBatchLen + 1 + job.payload.utf8ByteSize : ℕ) : ℤ) >
        limits.requestBodyMaxSize ∨
      ((loopOf p).logsForNextBatchEventsCount : ℤ) ≥ limits.requestMaxEvents ↔
      groupFull limits p.current job = true := by
    rw [loopOf_newBatchLen, groupFull, decide_eq_true_iff]
    rfl
  unfold BatchLoop.step Packing.add
  by_cases hf : groupFull limits p.current job = true
  · have hne : p.current ≠ [] := by
      intro he
      rw [he, hempty he] at hf
      cases hf
    rw [if_pos (hcond.mpr hf), if_pos hf, BatchLoop.closeBatch, loopOf_nextBatch p hne]
    simp [BatchLoop.appendEntry, loopOf, payloadSizes]
  · rw [if_neg (fun h => hf (hcond.mp h)), if_neg hf]
    simp [BatchLoop.appendEntry, loopOf, payloadSizes]

theorem loopOf_foldl (limits : RequestLimits) (logs : List (LogProcessingJob AckId))
    (hfit : ∀ job ∈ logs, groupFull limits [] job = false) (p : Packing (LogProcessingJob AckId)) :
    logs.foldl (BatchLoop.step limits) (loopOf p) = loopOf (p.addAll (groupFull limits) logs) := by
  induction logs generalizing p with
  | nil => rfl
  | cons job rest ih =>
    rw [List.foldl_cons, loopOf_step limits p job (fun _ => hfit job (by simp)),
      ih (fun job hj => hfit job (List.mem_cons_of_mem _ hj))]
    rfl

theorem prepareBatches_eq_pack (limits : RequestLimits) (logs : List (LogProcessingJob AckId))
    (hfit : ∀ job ∈ logs, groupFull limits [] job = false) :
    prepareBatches limits logs = (pack (groupFull limits) logs).map batchOf := by
  have hloop := loopOf_foldl limits logs hfit Packing.empty
  change logs.foldl (BatchLoop.step limits) {} = _ at hloop
  unfold prepareBatches pack
  simp only [hloop, Packing.groups]
  by_cases he : (Packing.empty.addAll (groupFull limits) logs).current = []
  · simp [loopOf, he]
  · have hlen := List.length_pos_iff.mpr he
    rw [loopOf_nextBatch _ he, if_pos (by simp only [loopOf, List.length_map]; exact hlen),
      if_neg (by simpa using he)]
    simp [loopOf]

theorem groupFull_iff_overLimits (limits : RequestLimits) (group : List (LogProcessingJob AckId))
    (job : LogProcessingJob AckId) (hne : group ≠ []) :
    groupFull limits group job = true ↔ overLimits limits (group ++ [job]) := by
  rw [groupFull, decide_eq_true_iff, overLimits, serialize_size _ (by simp)]
  have hpos := List.length_pos_iff.mpr hne
  have hsize : payloadSizes (group ++ [job]) + 2 + (group ++ [job]).length - 1 =
      payloadSizes group + 2 + group.length - 1 + 1 + job.bytesSize := by
    simp only [payloadSizes, LogProcessingJob.bytesSize, List.map_append, List.sum_append,
      List.map_cons, List.map_nil, List.sum_cons, List.sum_nil, List.length_append,
      List.length_singleton]
    omega
  rw [hsize, List.length_append, List.length_singleton]
  omega

theorem filled_within_limits (limits : RequestLimits) (hev : 1 ≤ limits.requestMaxEvents)
    {group : List (LogProcessingJob AckId)} (hne : group ≠ [])
    (hsize : ∀ job ∈ group, (job.bytesSize : ℤ) ≤ limits.requestBodyMaxSize - 2)
    (hfill : Filled (groupFull limits) group) : ¬ overLimits limits group := by
  obtain ⟨before, job, rfl⟩ := (List.eq_nil_or_concat group).resolve_left hne
  rw [List.concat_eq_append] at *
  by_cases hb : before = []
  · subst hb
    have hjob := hsize job (by simp)
    have hserial := serialize_size ([] ++ [job]) (by simp)
    simp only [payloadSizes, List.nil_append, List.map_cons, List.map_nil, List.sum_cons,
      List.sum_nil, List.length_singleton] at hserial
    simp only [LogProcessingJob.bytesSize] at hjob
    simp only [overLimits, List.nil_append, List.length_singleton, hserial]
    omega
  · have hlast := hfill before job [] rfl hb
    rw [← groupFull_iff_overLimits limits before job hb, hlast]
    simp

structure ExactGreedyPartition (limits : RequestLimits) (logs : List (LogProcessingJob AckId))
    (batches : List (LogBatch AckId)) (groups : List (List (LogProcessingJob AckId))) : Prop where
  jobs_in_order : groups.flatten = logs
  batch_of_group : batches = groups.map batchOf
  ack_ids_in_order : batches.flatMap (fun b => b.ackIds) = logs.map (fun job => job.ackId)
  group_ne_nil : ∀ group ∈ groups, group ≠ []
  size_exact : ∀ b ∈ batches, b.sizeBatchBytes = b.serializedBatch.utf8ByteSize
  size_le : ∀ b ∈ batches, (b.sizeBatchBytes : ℤ) ≤ limits.requestBodyMaxSize
  count_exact : ∀ b ∈ batches, b.numberOfLogsInBatch = b.ackIds.length
  count_le : ∀ b ∈ batches, (b.numberOfLogsInBatch : ℤ) ≤ limits.requestMaxEvents
  greedy : List.IsChain (fun group next => ∃ first rest, next = first :: rest ∧
    overLimits limits (group ++ [first])) groups

theorem step_ackIds (limits : RequestLimits) (st : BatchLoop AckId) (job : LogProcessingJob AckId) :
    (st.step limits job).batches.flatMap (fun b => b.ackIds) ++
        (st.step limits job).ackIdsForNextBatch =
      st.batches.flatMap (fun b => b.ackIds) ++ st.ackIdsForNextBatch ++ [job.ackId] := by
  unfold BatchLoop.step
  dsimp only
  split_ifs <;> simp [BatchLoop.appendEntry, BatchLoop.closeBatch, BatchLoop.nextBatch]

theorem foldl_step_ackIds (limits : RequestLimits) (logs : List (LogProcessingJob AckId))
    (st : BatchLoop AckId) :
    (logs.foldl (BatchLoop.step limits) st).batches.flatMap (fun b => b.ackIds) ++
        (logs.foldl (BatchLoop.step limits) st).ackIdsForNextBatch =
      st.batches.flatMap (fun b => b.ackIds) ++ st.ackIdsForNextBatch ++
        logs.map (fun job => job.ackId) := by
  induction logs generalizing st with
  | nil => simp
  | cons job rest ih =>
    rw [List.foldl_cons, ih, step_ackIds]
    simp

def BatchLoop.Aligned (st : BatchLoop AckId) : Prop :=
  st.ackIdsForNextBatch.length = st.logsForNextBatch.length ∧
    st.batchSfmMonitoringList.length = st.logsForNextBatch.length

theorem foldl_step_aligned (limits : RequestLimits) (logs : List (LogProcessingJob AckId))
    (st : BatchLoop AckId) (h : st.Aligned) : (logs.foldl (BatchLoop.step limits) st).Aligned := by
  induction logs generalizing st with
  | nil => exact h
  | cons job rest ih =>
    apply ih
    unfold BatchLoop.step
    dsimp only
    split_ifs <;>
      simp [BatchLoop.Aligned, BatchLoop.appendEntry, BatchLoop.closeBatch, h.1, h.2]

theorem prepareBatches_ackIds (limits : RequestLimits) (logs : List (LogProcessingJob AckId)) :
    (prepareBatches limits logs).flatMap (fun b => b.ackIds) =
      logs.map (fun job => job.ackId) := by
  have hids := foldl_step_ackIds limits logs ({} : BatchLoop AckId)
  have hlen := (foldl_step_aligned limits logs ({} : BatchLoop AckId) ⟨rfl, rfl⟩).1
  simp only [List.flatMap_nil, List.nil_append] at hids
  unfold prepareBatches
  dsimp only
  split_ifs with hne
  · simpa [BatchLoop.nextBatch] using hids
  · rw [← hids, List.eq_nil_of_length_eq_zero (hlen.trans (by omega)), List.append_nil]

theorem groupFull_nil (limits : RequestLimits) (hev : 1 ≤ limits.requestMaxEvents)
    (job : LogProcessingJob AckId) (hjob : (job.bytesSize : ℤ) ≤ limits.requestBodyMaxSize - 2) :
    groupFull limits [] job = false := by
  rw [groupFull, decide_eq_false_iff_not]
  simp only [payloadSizes, List.map_nil, List.sum_nil, List.length_nil]
  omega

theorem prepareBatches_exact_greedy_partition (limits : RequestLimits)
    (hev : 1 ≤ limits.requestMaxEvents) (logs : List (LogProcessingJob AckId))
    (hsize : ∀ job ∈ logs, (job.bytesSize : ℤ) ≤ limits.requestBodyMaxSize - 2) :
    ∃ groups, ExactGreedyPartition limits logs (prepareBatches limits logs) groups := by
  have hfit : ∀ job ∈ logs, groupFull limits [] job = false :=
    fun job hj => groupFull_nil limits hev job (hsize job hj)
  have heq := prepareBatches_eq_pack limits logs hfit
  have hflat := pack_flatten (groupFull limits) logs
  obtain ⟨hgroups, hchain⟩ := pack_valid hfit
  have hin : ∀ b ∈ prepareBatches limits logs, ∃ group, b = batchOf group ∧
      ¬ overLimits limits group := by
    intro b hb
    rw [heq] at hb
    obtain ⟨group, hg, rfl⟩ := List.mem_map.mp hb
    obtain ⟨hne, hfill⟩ := hgroups group hg
    refine ⟨group, rfl, filled_within_limits limits hev hne ?_ hfill⟩
    intro job hj
    exact hsize job (hflat ▸ List.mem_flatten.mpr ⟨group, hg, hj⟩)
  refine ⟨pack (groupFull limits) logs, hflat, heq, prepareBatches_ackIds limits logs,
    fun g hg => (hgroups g hg).1, ?_, ?_, ?_, ?_, ?_⟩
  · intro b hb
    obtain ⟨group, rfl, -⟩ := hin b hb
    rfl
  · intro b hb
    obtain ⟨group, rfl, hlim⟩ := hin b hb
    simp only [overLimits, not_or, not_lt, gt_iff_lt] at hlim
    exact hlim.1
  · intro b hb
    obtain ⟨group, rfl, -⟩ := hin b hb
    simp [batchOf]
  · intro b hb
    obtain ⟨group, rfl, hlim⟩ := hin b hb
    simp only [overLimits, not_or, not_lt, gt_iff_lt] at hlim
    exact hlim.2
  · apply List.IsChain.imp_of_mem_imp _ hchain
    rintro group next hg - ⟨first, rest, rfl, hfull⟩
    have hover := (groupFull_iff_overLimits limits group first (hgroups group hg).1).mp hfull
    exact ⟨first, rest, rfl, hover⟩

theorem prepareBatches_exact_greedy_partition_at_limit :
    let logs : List (LogProcessingJob ℕ) := [⟨"1", {}, 0⟩, ⟨"é", {}, 1⟩, ⟨"3", {}, 2⟩]
    ∃ groups, ExactGreedyPartition ⟨6, 50⟩ logs (prepareBatches ⟨6, 50⟩ logs) groups :=
  prepareBatches_exact_greedy_partition ⟨6, 50⟩ (by decide) _ (by decide)

end GcpMonitor.Logs
