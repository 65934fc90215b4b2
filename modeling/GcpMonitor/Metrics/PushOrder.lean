import GcpMonitor.Metrics.PushMoves

namespace GcpMonitor.Metrics

open Python TransitionSystem TaskPool

variable {Line Payload : Type}

namespace Call

variable {S : IngestSettings Line Payload}

structure Recorded (S : IngestSettings Line Payload) (call : Call Line) : Prop where
  batches : call.skipped = false →
    call.tasks.map BatchTask.batch = makeBatches S.metricIngestBatchSize call.fetchMetricResults
  starts : ∀ j, call.history.countP (Happening.startsBatch j) =
    (call.tasks[j]?).elim 0 (fun task => task.phase.isStarted.toNat)
  raises : call.raiseCount = (call.tasks.map (fun task => Call.raises task.phase)).sum
  pushed : (call.history.filterMap Happening.pushed : Multiset (List Line)) =
    (call.tasks.map pushedBatch).sum

theorem Recorded.advance {call call' : Call Line} {i : ℕ} {batch : List Line}
    {old new : BatchPhase} {added : List (Happening Line)} (h : call.Recorded S)
    (ha : Advances call call' i batch old new added) : call'.Recorded S where
  batches := by
    intro hskipped
    have hmap : (call.tasks.set i ⟨batch, new⟩).map BatchTask.batch =
        call.tasks.map BatchTask.batch :=
      map_set_of_eq _ ha.task rfl
    rw [ha.tasks, hmap, ha.fetchMetricResults]
    exact h.batches (ha.skipped ▸ hskipped)
  starts := by
    intro j
    have hmove := ha.move.startsBatch j
    have hbefore := h.starts j
    obtain ⟨hi, -⟩ := List.getElem?_eq_some_iff.mp ha.task
    rw [ha.history, List.countP_append, ha.tasks]
    by_cases hj : i = j
    · subst hj
      rw [ha.task] at hbefore
      rw [List.getElem?_set_self hi]
      simp only [if_true, Option.elim_some] at hmove hbefore ⊢
      omega
    · rw [List.getElem?_set_ne hj]
      simp only [if_neg hj] at hmove
      omega
  raises := by
    have hmove := ha.move.raises
    have hbefore := h.raises
    have hsum := sum_map_set (fun task => Call.raises task.phase) ⟨batch, new⟩ ha.task
    rw [raiseCount] at hbefore ⊢
    rw [ha.history, List.countP_append, ha.tasks]
    dsimp only at hsum
    omega
  pushed := by
    have hsum := sum_map_set pushedBatch ⟨batch, new⟩ ha.task
    rw [← ha.move.pushed, ← h.pushed, ← ha.tasks] at hsum
    rw [ha.history, List.filterMap_append, ← Multiset.coe_add]
    apply add_right_cancel (b := pushedBatch ⟨batch, old⟩)
    rw [hsum, add_assoc]

abbrev InTurn (tasks : List (BatchTask Line)) : Prop :=
  tasks.Pairwise (fun earlier later => later.phase.isStarted = true → earlier.phase.endedOk = true)

abbrev StopsAfterRaise (history : List (Happening Line)) : Prop :=
  history.Pairwise (fun x y => x.isRaise = true → y.isStart = false)

/-- What keeps the pushes apart, in the sequential mode the loop and in the concurrent one the
semaphore and the abort flag. -/
structure Ordered (S : IngestSettings Line Payload) (call : Call Line) : Prop where
  sequential : S.metricIngestConcurrentPushes ≤ 1 → InTurn call.tasks
  reached : S.metricIngestConcurrentPushes ≤ 1 →
    ∀ task ∈ call.tasks, task.phase = .created ∨ task.phase.isStarted = true
  permits : 1 < S.metricIngestConcurrentPushes →
    call.tasks ≠ [] → call.permits + call.inProgress = S.metricIngestConcurrentPushes.toNat
  abort : 1 < S.metricIngestConcurrentPushes → (call.abort = true ↔ 0 < call.raiseCount)
  aborted : 1 < S.metricIngestConcurrentPushes →
    ∀ task ∈ call.tasks, task.phase = .skipped → call.abort = true
  stops : StopsAfterRaise call.history

theorem inTurn_set {tasks : List (BatchTask Line)} {i : ℕ} {batch : List Line}
    {old : BatchPhase} (new : BatchPhase) (h : InTurn tasks)
    (htask : tasks[i]? = some ⟨batch, old⟩) (hold : old.endedOk = false)
    (hbefore : ∀ task ∈ tasks.take i, task.phase.endedOk = true) :
    InTurn (tasks.set i ⟨batch, new⟩) := by
  obtain ⟨hsplit, hset⟩ := split_at ⟨batch, new⟩ htask
  rw [hsplit] at h
  obtain ⟨htake, hrest, -⟩ := List.pairwise_append.mp h
  obtain ⟨hafter, hdrop⟩ := List.pairwise_cons.mp hrest
  rw [hset]
  apply List.pairwise_append.mpr
  refine ⟨htake, List.pairwise_cons.mpr ⟨?_, hdrop⟩, ?_⟩
  · intro later hlater hstarted
    rw [hafter later hlater hstarted] at hold
    contradiction
  · intro earlier hearlier later _ _
    exact hbefore earlier hearlier

theorem endedOk_before {tasks : List (BatchTask Line)} {i : ℕ} {batch : List Line}
    {phase : PushPhase} (h : InTurn tasks)
    (htask : tasks[i]? = some ⟨batch, .pushing phase⟩) :
    ∀ task ∈ tasks.take i, task.phase.endedOk = true := by
  intro task hmem
  obtain ⟨hsplit, -⟩ := split_at ⟨batch, .created⟩ htask
  rw [hsplit] at h
  exact (List.pairwise_append.mp h).2.2 task hmem _ List.mem_cons_self rfl

theorem raises_of_endedOk {phase : BatchPhase} (h : phase.endedOk = true) :
    Call.raises phase = 0 := by
  cases phase with
  | pushing phase =>
    cases phase with
    | ended result =>
      cases result with
      | error e => cases h
      | ok value => rfl
    | _ => rfl
  | _ => rfl

theorem raises_of_not_started {phase : BatchPhase} (h : phase.isStarted = false) :
    Call.raises phase = 0 := by
  cases phase with
  | pushing phase => cases h
  | _ => rfl

theorem raiseCount_of_before {call : Call Line} {i : ℕ} {batch : List Line}
    (hrecorded : call.Recorded S) (hturn : InTurn call.tasks)
    (htask : call.tasks[i]? = some ⟨batch, .created⟩)
    (hbefore : ∀ task ∈ call.tasks.take i, task.phase.endedOk = true) : call.raiseCount = 0 := by
  rw [hrecorded.raises]
  apply List.sum_eq_zero
  intro x hx
  obtain ⟨task, hmem, rfl⟩ := List.mem_map.mp hx
  obtain ⟨hsplit, -⟩ := split_at ⟨batch, .created⟩ htask
  rw [hsplit] at hmem hturn
  obtain hmem | hmem := List.mem_append.mp hmem
  · exact raises_of_endedOk (hbefore task hmem)
  obtain rfl | hmem := List.mem_cons.mp hmem
  · rfl
  · apply raises_of_not_started
    obtain ⟨hafter, -⟩ := List.pairwise_cons.mp (List.pairwise_append.mp hturn).2.1
    by_contra hstarted
    have := hafter task hmem (Bool.not_eq_false _ ▸ hstarted)
    contradiction

theorem isStart_happenings {i : ℕ} {batch : List Line} {phase : PushPhase} :
    ∀ x ∈ happenings i batch phase, x.isStart = false := by
  cases phase <;> simp [happenings, Happening.isStart]

theorem stopsAfterRaise_append {history added : List (Happening Line)}
    (h : StopsAfterRaise history) (hadded : StopsAfterRaise added)
    (hstart : (∀ x ∈ added, x.isStart = false) ∨ history.countP Happening.isRaise = 0) :
    StopsAfterRaise (history ++ added) := by
  apply List.pairwise_append.mpr
  refine ⟨h, hadded, ?_⟩
  intro x hx y hy hraise
  obtain hstart | hnone := hstart
  · exact hstart y hy
  · exact absurd hraise (List.countP_eq_zero.mp hnone x hx)

theorem stopsAfterRaise_happenings (i : ℕ) (batch : List Line) (phase : PushPhase) :
    StopsAfterRaise (happenings i batch phase) := by
  cases phase <;> simp [happenings]

theorem stopsAfterRaise_started (i : ℕ) (batch : List Line) (phase : PushPhase) :
    StopsAfterRaise (Happening.started i batch :: happenings i batch phase) := by
  apply List.pairwise_cons.mpr
  constructor
  · intro y hy _
    exact isStart_happenings y hy
  · exact stopsAfterRaise_happenings i batch phase

theorem runPush_permits {call : Call Line} {i : ℕ} {batch : List Line} {phase : PushPhase}
    (hmode : 1 < S.metricIngestConcurrentPushes) :
    (call.runPush S i batch phase).permits = call.permits + phase.hasEnded.toNat := by
  rw [runPush, if_neg (not_le.mpr hmode)]
  cases phase with
  | ended result => cases result <;> rfl
  | _ => rfl

theorem runPush_abort {call : Call Line} {i : ℕ} {batch : List Line} {phase : PushPhase}
    (hmode : 1 < S.metricIngestConcurrentPushes) :
    (call.runPush S i batch phase).abort = true ↔
      call.abort = true ∨ 0 < Call.raises (.pushing phase) := by
  rw [runPush, if_neg (not_le.mpr hmode)]
  cases phase with
  | ended result =>
    cases result <;> simp [leave, setPhase, addHistory, Call.raises, BatchPhase.error]
  | _ => simp [leave, setPhase, addHistory, Call.raises, BatchPhase.error]

theorem Advances.inProgress {call call' : Call Line} {i : ℕ} {batch : List Line}
    {old new : BatchPhase} {added : List (Happening Line)}
    (ha : Advances call call' i batch old new added) :
    call'.inProgress + old.inProgress.toNat = call.inProgress + new.inProgress.toNat := by
  rw [Call.inProgress, ha.tasks]
  exact sum_map_set (fun task : BatchTask Line => task.phase.inProgress.toNat) ⟨batch, new⟩ ha.task

theorem Advances.raiseCount {call call' : Call Line} {i : ℕ} {batch : List Line}
    {old new : BatchPhase} {added : List (Happening Line)}
    (ha : Advances call call' i batch old new added) :
    call'.raiseCount + Call.raises old = call.raiseCount + Call.raises new := by
  rw [Call.raiseCount, ha.history, List.countP_append, ← ha.move.raises, Call.raiseCount]
  omega

theorem Advances.tasks_ne_nil {call call' : Call Line} {i : ℕ} {batch : List Line}
    {old new : BatchPhase} {added : List (Happening Line)}
    (ha : Advances call call' i batch old new added) : call.tasks ≠ [] := by
  intro hnil
  have htask := ha.task
  rw [hnil] at htask
  cases htask

theorem inProgress_pushing (phase : PushPhase) :
    (BatchPhase.pushing phase).inProgress.toNat + phase.hasEnded.toNat = 1 := by
  cases h : phase.hasEnded <;> simp [BatchPhase.inProgress, h]

theorem endedOk_of_not_ended {phase : PushPhase} (h : phase.hasEnded = false) :
    (BatchPhase.pushing phase).endedOk = false := by
  cases phase with
  | ended result => cases h
  | _ => rfl

theorem raises_of_not_ended {phase : PushPhase} (h : phase.hasEnded = false) :
    Call.raises (.pushing phase) = 0 := by
  cases phase with
  | ended result => cases h
  | _ => rfl

variable {call call' : Call Line} {context context' : PushContext}

theorem Ordered.sequential_step (h : call.Ordered S) (hm : call.Moves S context call' context')
    (hmode : S.metricIngestConcurrentPushes ≤ 1) :
    InTurn call'.tasks := by
  have hturn := h.sequential hmode
  cases hm with
  | wait hmode' => omega
  | skip hmode' => omega
  | next _ htask hbefore =>
    rw [(advances_startPush htask (.inl rfl) call.permits).tasks]
    exact inTurn_set _ hturn htask rfl hbefore
  | acquire hmode' => omega
  | resume htask hresume =>
    have hended := hasEnded_of_resume hresume
    rw [(advances_runPush htask hended _).tasks]
    exact inTurn_set _ hturn htask (endedOk_of_not_ended hended)
      (endedOk_before hturn htask)
  | complete houtcome => exact hturn

theorem Ordered.reached_step (h : call.Ordered S) (hm : call.Moves S context call' context')
    (hmode : S.metricIngestConcurrentPushes ≤ 1) :
    ∀ task ∈ call'.tasks, task.phase = .created ∨ task.phase.isStarted = true := by
  have hreached := h.reached hmode
  cases hm with
  | wait hmode' => omega
  | skip hmode' => omega
  | next _ htask hbefore =>
    rw [(advances_startPush htask (.inl rfl) call.permits).tasks]
    exact forall_mem_set hreached (.inr rfl)
  | acquire hmode' => omega
  | resume htask hresume =>
    rw [(advances_runPush htask (hasEnded_of_resume hresume) _).tasks]
    exact forall_mem_set hreached (.inr rfl)
  | complete houtcome => exact hreached

theorem Ordered.permits_step (h : call.Ordered S) (hm : call.Moves S context call' context')
    (hmode : 1 < S.metricIngestConcurrentPushes) (hne : call'.tasks ≠ []) :
    call'.permits + call'.inProgress = S.metricIngestConcurrentPushes.toNat := by
  have hpermits := h.permits hmode
  cases hm with
  | wait _ htask habort =>
    have ha := advances_setPhase htask .wait
    have hmoved := ha.inProgress
    rw [← hpermits ha.tasks_ne_nil]
    exact congrArg _ hmoved
  | skip _ htask hphase habort =>
    have ha := advances_setPhase htask (.skip hphase)
    have hmoved := ha.inProgress
    have hold : ∀ phase, phase = BatchPhase.created ∨ phase = .waiting →
        phase.inProgress.toNat = 0 := by
      rintro _ (rfl | rfl) <;> rfl
    rw [hold _ hphase] at hmoved
    rw [← hpermits ha.tasks_ne_nil]
    exact congrArg _ hmoved
  | next hmode' => omega
  | @acquire i batch _ htask hpositive habort =>
    have ha := advances_startPush (S := S) htask (.inr rfl) (call.permits - 1)
    have hmoved := ha.inProgress
    have hone := inProgress_pushing (.start S.toPushRuntime batch)
    have hwaiting : BatchPhase.waiting.inProgress.toNat = 0 := rfl
    have hheld : ({ call with permits := call.permits - 1 }.startPush S i batch).permits =
        call.permits - 1 + (PushPhase.start S.toPushRuntime batch).hasEnded.toNat :=
      runPush_permits hmode
    have hbefore := hpermits ha.tasks_ne_nil
    omega
  | @resume i batch phase phase' context' input htask hresume =>
    have hended := hasEnded_of_resume hresume
    have ha := advances_runPush (S := S) htask hended phase'
    have hmoved := ha.inProgress
    have hone := inProgress_pushing phase
    have hone' := inProgress_pushing phase'
    have hheld : (call.runPush S i batch phase').permits = call.permits + phase'.hasEnded.toNat :=
      runPush_permits hmode
    have hbefore := hpermits ha.tasks_ne_nil
    rw [hended, Bool.toNat_false] at hone
    omega
  | complete houtcome => exact hpermits hne

theorem Ordered.abort_step (h : call.Ordered S) (hm : call.Moves S context call' context')
    (hmode : 1 < S.metricIngestConcurrentPushes) :
    call'.abort = true ↔ 0 < call'.raiseCount := by
  have habort := h.abort hmode
  cases hm with
  | wait _ htask => exact habort
  | skip _ htask => exact habort
  | next hmode' => omega
  | @acquire i batch _ htask =>
    have hcount := (advances_startPush (S := S) htask (.inr rfl) (call.permits - 1)).raiseCount
    have hwaiting : Call.raises .waiting = 0 := rfl
    rw [startPush, runPush_abort hmode]
    rw [startPush] at hcount
    have hsame : ({ call with permits := call.permits - 1 }.addHistory
        [.started i batch]).abort = call.abort := rfl
    rw [hsame, habort]
    omega
  | @resume i batch phase phase' context' input htask hresume =>
    have hended := hasEnded_of_resume hresume
    have hcount := (advances_runPush (S := S) htask hended phase').raiseCount
    rw [raises_of_not_ended hended] at hcount
    rw [runPush_abort hmode, habort]
    omega
  | complete houtcome => exact habort

theorem Ordered.aborted_step (h : call.Ordered S) (hm : call.Moves S context call' context')
    (hmode : 1 < S.metricIngestConcurrentPushes) :
    ∀ task ∈ call'.tasks, task.phase = .skipped → call'.abort = true := by
  have haborted := h.aborted hmode
  cases hm with
  | wait _ htask habort =>
    apply forall_mem_set haborted
    rintro ⟨⟩
  | skip _ htask hphase habort =>
    intro _ _ _
    exact habort
  | next hmode' => omega
  | @acquire i batch _ htask =>
    rw [(advances_startPush htask (.inr rfl) _).tasks]
    apply forall_mem_set
    · intro task hmem hskipped
      exact (runPush_abort hmode).mpr (.inl (haborted task hmem hskipped))
    · rintro ⟨⟩
  | @resume i batch phase phase' context' input htask hresume =>
    rw [(advances_runPush htask (hasEnded_of_resume hresume) _).tasks]
    apply forall_mem_set
    · intro task hmem hskipped
      exact (runPush_abort hmode).mpr (.inl (haborted task hmem hskipped))
    · rintro ⟨⟩
  | complete houtcome => exact haborted

theorem Ordered.stops_step (hr : call.Recorded S) (h : call.Ordered S)
    (hm : call.Moves S context call' context') :
    StopsAfterRaise call'.history := by
  have hstops := h.stops
  cases hm with
  | wait _ htask habort => exact hstops
  | skip _ htask hphase habort => exact hstops
  | next hmode htask hbefore =>
    rw [(advances_startPush htask (.inl rfl) call.permits).history]
    exact stopsAfterRaise_append hstops (stopsAfterRaise_started _ _ _)
      (.inr (raiseCount_of_before hr (h.sequential hmode) htask hbefore))
  | acquire hmode htask hpositive habort =>
    rw [(advances_startPush htask (.inr rfl) _).history]
    apply stopsAfterRaise_append hstops (stopsAfterRaise_started _ _ _)
    right
    by_contra hraised
    rw [(h.abort hmode).mpr (Nat.pos_of_ne_zero hraised)] at habort
    contradiction
  | resume htask hresume =>
    rw [(advances_runPush htask (hasEnded_of_resume hresume) _).history]
    exact stopsAfterRaise_append hstops (stopsAfterRaise_happenings _ _ _) (.inl isStart_happenings)
  | complete houtcome => exact hstops

theorem Ordered.step (hr : call.Recorded S) (h : call.Ordered S)
    (hm : call.Moves S context call' context') : call'.Ordered S where
  sequential := h.sequential_step hm
  reached := h.reached_step hm
  permits := h.permits_step hm
  abort := h.abort_step hm
  aborted := h.aborted_step hm
  stops := h.stops_step hr hm

theorem Recorded.step (h : call.Recorded S) (hm : call.Moves S context call' context') :
    call'.Recorded S := by
  obtain ⟨i, batch, old, new, added, ha⟩ | ⟨outcome, -, rfl⟩ := hm.advances
  · exact h.advance ha
  · exact ⟨h.batches, h.starts, h.raises, h.pushed⟩

end Call

end GcpMonitor.Metrics
