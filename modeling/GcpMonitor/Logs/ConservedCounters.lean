import GcpMonitor.Logs.PushedCounters

namespace GcpMonitor.Logs

open Python TransitionSystem TaskPool

variable {AckId Body : Type}

section Conservation

theorem performPull_extends {limits : RequestLimits} {process : Body → Processed}
    {times : PullTimes} {sfmQueue after : SfmQueue} {responses : List (PullResponse AckId Body)}
    {batches : List (LogBatch AckId)} {erroneous : List AckId}
    (h : performPull limits process times sfmQueue responses = .ok (batches, erroneous, after)) :
    sfmQueue.put <+: after.put := by
  unfold performPull at h
  cases hst : responses.foldlM (PullLoop.response limits process) { sfmQueue } with
  | error e =>
    rw [hst] at h
    cases h
  | ok st =>
    rw [hst] at h
    have hreceived := foldl_receive_extends limits process
      (responses.flatMap PullResponse.messages) { sfmQueue }
    rw [← response_foldlM limits process responses _ st hst] at hreceived
    cases h
    exact hreceived.trans (putSfmIntoQueue_extends _ _)

theorem finalQueue_counters (counter : SfmCounter) {it : Iteration AckId Body} {final : SfmQueue}
    (hfinal : it.finalQueue = some final)
    (hfull : NeverFull it.limits it.process { sfmQueue := it.sfmQueue } it.receivedMessages) :
    counter.total (it.putInto final) = (it.receivedMessages.map (fun message =>
      if oversize it.limits it.process message then 0
      else counterOf it.process counter message)).sum := by
  unfold Iteration.finalQueue at hfinal
  cases hpull : it.pulled with
  | error e =>
    rw [hpull] at hfinal
    cases hfinal
  | ok result =>
    obtain ⟨batches, erroneous, queue⟩ := result
    rw [hpull] at hfinal
    dsimp only at hfinal
    split at hfinal
    · cases hfinal
    · next s hrun =>
      obtain ⟨hdone, hfinal⟩ := Option.ite_none_right_eq_some.mp hfinal
      have hpulled := performPull_counters counter hpull hfull
      obtain ⟨hsum, hread, hprefix⟩ := pushLogs_counters counter it.compressedLength queue
        it.permits it.sendingTimeStart (it.sends batches) it.trace s hrun
      obtain ⟨htotal, hput⟩ := pushLogsResult_counters counter hread it.sendingTimeEnd
      rw [Option.some.inj hfinal] at htotal hput
      obtain ⟨added, hadded⟩ := ((performPull_extends hpull).trans hprefix).trans hput
      have hsends : (it.sends batches).map (fun send => send.1.selfMonitoring) =
          batches.map LogBatch.selfMonitoring := by
        rw [Iteration.sends, List.map_map]
        change batches.zipIdx.map (LogBatch.selfMonitoring ∘ Prod.fst) = _
        rw [← List.map_map, List.zipIdx_map_fst]
      rw [Iteration.putInto, ← hadded, List.drop_left]
      rw [← hadded, SfmCounter.total_append] at htotal
      rw [pending_of_allDone counter hdone, hsends] at hsum
      change _ = _ + (it.receivedMessages.map _).sum at hpulled
      omega

theorem sum_unless_eq_iff {α : Type} (p : α → Bool) (f : α → ℕ) (xs : List α) :
    (xs.map (fun x => if p x then 0 else f x)).sum = (xs.map f).sum ↔
      ∀ x ∈ xs, p x = true → f x = 0 := by
  have hsplit : (xs.map f).sum = (xs.map (fun x => if p x then 0 else f x)).sum +
      (xs.map (fun x => if p x then f x else 0)).sum := by
    rw [← List.sum_map_add]
    congr 1
    apply List.map_congr_left
    intro x _
    cases p x <;> simp
  rw [hsplit, Nat.left_eq_add, List.sum_eq_zero_iff_forall_eq_nat]
  simp

theorem countP_eq_sum {α : Type} {f : α → ℕ} {xs : List α} (h : ∀ x ∈ xs, f x ≤ 1) :
    xs.countP (fun x => 0 < f x) = (xs.map f).sum := by
  induction xs with
  | nil => rfl
  | cons x xs ih =>
    have hx := h x List.mem_cons_self
    have hxs : ∀ y ∈ xs, f y ≤ 1 := by
      intro y hy
      exact h y (List.mem_cons_of_mem _ hy)
    rw [List.countP_cons, ih hxs, List.map_cons, List.sum_cons]
    by_cases hpos : 0 < f x
    · rw [if_pos (decide_eq_true hpos)]
      omega
    · rw [if_neg (by simpa using hpos)]
      omega

end Conservation

section Process

variable (env : LogRuntime) (settings : LogSettings) (engine : MetadataEngine)

theorem limitLengths_sfm (parsedRecord : ParsedRecord) (sfm : LogSelfMonitoring) :
    (limitLengths env settings parsedRecord sfm).2 = sfm ∨
      (limitLengths env settings parsedRecord sfm).2 = sfm.tooLongContent := by
  rw [limitLengths]
  cases (parsedRecord.mapValues (trimAttribute env settings)).get "content".toList with
  | none => exact .inl rfl
  | some content =>
    dsimp only
    cases content.truthy with
    | false => exact .inl rfl
    | true =>
      cases (trimContent env settings content).2 with
      | true => exact .inr rfl
      | false => exact .inl rfl

theorem createParsedRecord_sfm {publishTime : Json} {messageData : Text}
    {parsedRecord : ParsedRecord} {sfm : LogSelfMonitoring}
    (h : createParsedRecord env settings engine publishTime {} messageData =
      .ok (parsedRecord, sfm)) :
    ∃ fallback : Bool, sfm = { publishTimeFallbackRecords := fallback.toNat } := by
  obtain ⟨record, -, hcase⟩ := createParsedRecord_ok h
  rcases hcase with ⟨-, rfl, -⟩ | ⟨-, rfl, -⟩
  · exact ⟨true, rfl⟩
  · exact ⟨false, rfl⟩

theorem createDtLogPayload_raises (publishTime : Json) (now : ℚ) (messageData : Text) :
    ∃ fallback tooOld tooLong : Bool,
      (createDtLogPayload env settings engine publishTime now {} messageData).2 =
        { publishTimeFallbackRecords := fallback.toNat
          tooOldRecords := tooOld.toNat
          recordsWithTooLongContent := tooLong.toNat } := by
  rw [createDtLogPayload]
  split_ifs
  · exact ⟨false, false, false, rfl⟩
  · cases hparsed : createParsedRecord env settings engine publishTime {} messageData with
    | error e => exact ⟨false, false, false, rfl⟩
    | ok result =>
      obtain ⟨parsedRecord, sfm⟩ := result
      obtain ⟨fallback, rfl⟩ := createParsedRecord_sfm env settings engine hparsed
      dsimp only
      split
      · exact ⟨fallback, false, false, rfl⟩
      · exact ⟨fallback, true, false, rfl⟩
      · rcases limitLengths_sfm env settings parsedRecord
          { publishTimeFallbackRecords := fallback.toNat } with hsfm | hsfm
        · exact ⟨fallback, false, false, hsfm⟩
        · exact ⟨fallback, false, true, hsfm⟩

theorem raised_le_one {sfm : LogSelfMonitoring}
    (hsfm : ∀ counter : SfmCounter, counter.read sfm ≤ 1) (herrors : sfm.parsingErrors = 0)
    (counter : SfmCounter) (now : ℚ) :
    counter.read (processedSfm (.raised sfm now)) ≤ 1 := by
  cases counter with
  | parsingErrors =>
    change sfm.parsingErrors + 1 ≤ 1
    omega
  | tooOldRecords => exact hsfm .tooOldRecords
  | publishTimeFallbackRecords => exact hsfm .publishTimeFallbackRecords
  | recordsWithTooLongContent => exact hsfm .recordsWithTooLongContent

theorem processMessage_le_one (arrived : ArrivedMessage) (counter : SfmCounter) :
    counter.read (processedSfm (processMessage env settings engine arrived)) ≤ 1 := by
  have hempty : ∀ counter : SfmCounter, counter.read {} ≤ 1 := by
    intro counter
    rw [SfmCounter.read_empty]
    exact Nat.zero_le 1
  rw [processMessage]
  cases arrived.message.get "publishTime" .null with
  | error e => exact raised_le_one hempty rfl counter _
  | ok publishTime =>
    dsimp only
    cases decodeData env arrived.message with
    | error e => exact raised_le_one hempty rfl counter _
    | ok data =>
      obtain ⟨fallback, tooOld, tooLong, hsfm⟩ :=
        createDtLogPayload_raises env settings engine publishTime arrived.now data
      have hle : ∀ counter : SfmCounter, counter.read
          (createDtLogPayload env settings engine publishTime arrived.now {} data).2 ≤ 1 := by
        intro counter
        rw [hsfm]
        cases counter <;> simp [SfmCounter.read, Bool.toNat_le]
      dsimp only
      split
      · next e sfm heq =>
        rw [heq] at hle hsfm
        exact raised_le_one hle (by rw [hsfm]) counter _
      · next sfm heq =>
        rw [heq] at hle
        exact hle counter
      · next payload sfm heq =>
        rw [heq] at hle
        split_ifs
        · exact hle counter
        · exact hle counter

end Process

theorem counters_conserved_iff {env : LogRuntime} {settings : LogSettings}
    {engine : MetadataEngine} {it : Iteration AckId ArrivedMessage} {final : SfmQueue}
    (hprocess : it.process = processMessage env settings engine)
    (hfinal : it.finalQueue = some final)
    (hfull : NeverFull it.limits it.process { sfmQueue := it.sfmQueue } it.receivedMessages) :
    it.CountersConserved final ↔
      ∀ message ∈ it.receivedMessages, oversize it.limits it.process message = true →
        ∀ counter, counterOf it.process counter message = 0 := by
  have hle : ∀ counter, ∀ message ∈ it.receivedMessages,
      counterOf it.process counter message ≤ 1 := by
    intro counter message _
    rw [counterOf, hprocess]
    exact processMessage_le_one env settings engine message.message counter
  have hone : ∀ counter : SfmCounter, counter.total (it.putInto final) =
      it.receivedMessages.countP (fun message => 0 < counterOf it.process counter message) ↔
        ∀ message ∈ it.receivedMessages, oversize it.limits it.process message = true →
          counterOf it.process counter message = 0 := by
    intro counter
    rw [finalQueue_counters counter hfinal hfull, countP_eq_sum (hle counter)]
    exact sum_unless_eq_iff _ _ _
  rw [Iteration.CountersConserved]
  constructor
  · intro h message hmessage hoversize counter
    exact (hone counter).mp (h counter) message hmessage hoversize
  · intro h counter
    apply (hone counter).mpr
    intro message hmessage hoversize
    exact h message hmessage hoversize counter

def plainTextData : Text := "b2s=".toList

def plainTextRuntime : LogRuntime :=
  runtimeFor ['o', 'k'] (.error (.valueError none)) plainTextData publishedAt 1704067200

def plainTextIteration (requestBodyMaxSize : ℤ) (trace : List PushEvent) :
    Iteration ℕ ArrivedMessage where
  limits := ⟨requestBodyMaxSize, 50000⟩
  process := processMessage plainTextRuntime defaultSettings defaultEngine
  responses := [.received [⟨1, arrivedFor plainTextData⟩]]
  outcomes := fun _ => .response 204
  trace := trace
  sfmQueue := { maxsize := 0 }
  permits := 5
  pullTimes := ⟨0, 1, 1, 2⟩
  sendingTimeStart := 2
  sendingTimeEnd := 3
  compressedLength := String.utf8ByteSize

theorem neverFull_plainTextIteration (requestBodyMaxSize : ℤ) (trace : List PushEvent) :
    NeverFull (plainTextIteration requestBodyMaxSize trace).limits
      (plainTextIteration requestBodyMaxSize trace).process { sfmQueue := { maxsize := 0 } }
      (plainTextIteration requestBodyMaxSize trace).receivedMessages :=
  ⟨rfl, trivial⟩

theorem oversize_message_not_counted :
    ¬ ∀ (env : LogRuntime) (settings : LogSettings) (engine : MetadataEngine)
      (it : Iteration ℕ ArrivedMessage) (final : SfmQueue),
      it.process = processMessage env settings engine → it.finalQueue = some final →
      NeverFull it.limits it.process { sfmQueue := it.sfmQueue } it.receivedMessages →
      it.CountersConserved final := by
  intro hclaim
  have hlost : (plainTextIteration 10 []).finalQueue.any (fun final =>
      SfmCounter.publishTimeFallbackRecords.total ((plainTextIteration 10 []).putInto final) = 0) =
        true := by
    decide +kernel
  have hraised : (plainTextIteration 10 []).receivedMessages.countP (fun message =>
      0 < counterOf (plainTextIteration 10 []).process .publishTimeFallbackRecords message) =
        1 := by
    decide +kernel
  obtain ⟨final, hfinal, htotal⟩ := (Option.any_eq_true _ _).mp hlost
  have hconserved := hclaim _ _ _ (plainTextIteration 10 []) final rfl hfinal
    (neverFull_plainTextIteration 10 []) .publishTimeFallbackRecords
  rw [of_decide_eq_true htotal, hraised] at hconserved
  exact absurd hconserved Nat.zero_ne_one

theorem counters_conserved_iff_plain :
    ∃ final, (plainTextIteration 5242000 [.start 0, .respond 0, .report 0]).finalQueue =
        some final ∧
      (plainTextIteration 5242000 [.start 0, .respond 0, .report 0]).CountersConserved final := by
  have hends : (plainTextIteration 5242000
      [.start 0, .respond 0, .report 0]).finalQueue.isSome = true := by
    decide +kernel
  have hfits : (plainTextIteration 5242000
      [.start 0, .respond 0, .report 0]).receivedMessages.all (fun message =>
        !oversize ⟨5242000, 50000⟩ (processMessage plainTextRuntime defaultSettings defaultEngine)
          message) = true := by
    decide +kernel
  obtain ⟨final, hfinal⟩ := Option.isSome_iff_exists.mp hends
  refine ⟨final, hfinal, (counters_conserved_iff rfl hfinal
    (neverFull_plainTextIteration _ _)).mpr ?_⟩
  intro message hmessage hoversize
  have hfit := List.all_eq_true.mp hfits message hmessage
  change oversize ⟨5242000, 50000⟩
    (processMessage plainTextRuntime defaultSettings defaultEngine) message = true at hoversize
  rw [hoversize] at hfit
  exact absurd hfit Bool.false_ne_true

end GcpMonitor.Logs
