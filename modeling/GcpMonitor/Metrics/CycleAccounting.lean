import GcpMonitor.Metrics.ConcurrentPush
import GcpMonitor.Metrics.PushAccounting

namespace GcpMonitor.Metrics

open Python TransitionSystem TaskPool

variable {Line Payload : Type}

section Counted

def BatchPhase.awaitsBody (status : ℕ) : BatchPhase → ℕ
  | .pushing phase => phase.awaitsBody status
  | _ => 0

def BatchTask.returned (task : BatchTask Line) : ℕ :=
  if task.phase.endedOk then task.batch.length else 0

def BatchTask.unreturned (task : BatchTask Line) : ℕ :=
  if task.phase.endedOk then 0 else task.batch.length

def CallEvent.responses (status : ℕ) : CallEvent → ℕ
  | .resume _ input => input.responses status
  | _ => 0

def PollingEvent.responses (status : ℕ) : PollingEvent Line → ℕ
  | .of _ e => e.responses status
  | .call _ _ => 0

namespace Call

def reading (status : ℕ) (call : Call Line) : ℕ :=
  (call.tasks.map (fun task => task.phase.awaitsBody status)).sum

def returnedLines (call : Call Line) : ℕ := (call.tasks.map BatchTask.returned).sum

def unreturnedLines (call : Call Line) : ℕ :=
  if call.skipped then call.fetchMetricResults.length
  else (call.tasks.map BatchTask.unreturned).sum

end Call

namespace PollingState

variable (s : PollingState Line)

def reading (status : ℕ) : ℕ := (s.calls.map (Call.reading status)).sum

def sumOf (projectId : Text) (f : Call Line → ℕ) : ℕ :=
  (s.calls.map (fun call => if call.projectId = projectId then f call else 0)).sum

def returnedLines (projectId : Text) : ℕ := s.sumOf projectId Call.returnedLines

def unreturnedLines (projectId : Text) : ℕ := s.sumOf projectId Call.unreturnedLines

def fetchedLines (projectId : Text) : ℕ :=
  s.sumOf projectId (fun call => call.fetchMetricResults.length)

end PollingState

/-- Each body that is read reports on the batch of the task that reads it. -/
def BodiesReport (S : IngestSettings Line Payload) (s : PollingState Line)
    (e : PollingEvent Line) : Prop :=
  ∀ c i json call batch status, e = .of c (.resume i (.body (some json))) →
    s.calls[c]? = some call → call.tasks[i]? = some ⟨batch, .pushing (.reading status)⟩ →
      BodyReports S.toPushRuntime batch json

end Counted

namespace Call

variable {S : IngestSettings Line Payload} {call call' : Call Line} {context context' : PushContext}

structure Accounts (call : Call Line) (context : PushContext) (e : CallEvent) (call' : Call Line)
    (context' : PushContext) (gain : ℕ) : Prop where
  projectId : call'.projectId = call.projectId
  requests : ∀ status, (context'.requestCount.get status).getD 0 + call'.reading status =
    (context.requestCount.get status).getD 0 + call.reading status + e.responses status
  returned : call'.returnedLines = call.returnedLines + gain
  lines : ∀ projectId, context'.ingestLines projectId = (context.ingestLines projectId).map
    (fun lines => lines + if call.projectId = projectId then (gain : ℚ) else 0)
  whole : (∀ p, context.WholeLines p) → ∀ p, context'.WholeLines p

theorem accounts_quiet {e : CallEvent} (he : ∀ status, e.responses status = 0)
    (hproject : call'.projectId = call.projectId)
    (hreading : ∀ status, call'.reading status = call.reading status)
    (hreturned : call'.returnedLines = call.returnedLines) :
    Accounts call context e call' context 0 := by
  refine ⟨hproject, ?_, hreturned, ?_, id⟩
  · intro status
    rw [hreading, he, add_zero]
  · intro projectId
    cases context.ingestLines projectId <;> simp

theorem accounts_set {e : CallEvent} (he : ∀ status, e.responses status = 0) {i : ℕ}
    {batch : List Line} {old new : BatchPhase} (htask : call.tasks[i]? = some ⟨batch, old⟩)
    (hproject : call'.projectId = call.projectId)
    (htasks : call'.tasks = call.tasks.set i ⟨batch, new⟩)
    (hreading : ∀ status, new.awaitsBody status = old.awaitsBody status)
    (hended : new.endedOk = old.endedOk) : Accounts call context e call' context 0 := by
  apply accounts_quiet he hproject
  · intro status
    have hmap : (call.tasks.set i ⟨batch, new⟩).map (fun task => task.phase.awaitsBody status) =
        call.tasks.map (fun task => task.phase.awaitsBody status) :=
      map_set_of_eq _ htask (hreading status)
    rw [reading, htasks, hmap, reading]
  · have hsame : BatchTask.returned ⟨batch, new⟩ = BatchTask.returned ⟨batch, old⟩ := by
      simp only [BatchTask.returned, hended]
    rw [returnedLines, htasks, map_set_of_eq BatchTask.returned htask hsame, returnedLines]

theorem awaitsBody_start (R : PushRuntime Line Payload) (batch : List Line) (status : ℕ) :
    (BatchPhase.pushing (.start R batch)).awaitsBody status = 0 := by
  rw [PushPhase.start]
  split <;> rfl

theorem endedOk_start (R : PushRuntime Line Payload) (batch : List Line) :
    (BatchPhase.pushing (.start R batch)).endedOk = false := by
  rw [PushPhase.start]
  split <;> rfl

theorem accounts_startPush {e : CallEvent} (he : ∀ status, e.responses status = 0) {i : ℕ}
    {batch : List Line} {old : BatchPhase} (htask : call.tasks[i]? = some ⟨batch, old⟩)
    (hold : old = .created ∨ old = .waiting) (permits : ℕ) :
    Accounts call context e ({ call with permits }.startPush S i batch) context 0 := by
  have hreading : ∀ status, (BatchPhase.pushing (.start S.toPushRuntime batch)).awaitsBody status =
      old.awaitsBody status := by
    intro status
    rw [awaitsBody_start]
    rcases hold with rfl | rfl <;> rfl
  have hended : (BatchPhase.pushing (.start S.toPushRuntime batch)).endedOk = old.endedOk := by
    rw [endedOk_start]
    rcases hold with rfl | rfl <;> rfl
  rw [startPush, runPush_eq]
  exact accounts_set he htask rfl rfl hreading hended

theorem returned_pushing (batch : List Line) (phase : PushPhase) :
    BatchTask.returned ⟨batch, .pushing phase⟩ = phase.accounted batch := by
  cases phase with
  | ended result => cases result <;> rfl
  | _ => rfl

theorem accounted_of_not_ended {batch : List Line} {phase : PushPhase}
    (h : phase.hasEnded = false) : phase.accounted batch = 0 := by
  cases phase with
  | ended result => cases h
  | _ => rfl

theorem accounts_resume {i : ℕ} {input : PushInput} {batch : List Line} {phase phase' : PushPhase}
    (htask : call.tasks[i]? = some ⟨batch, .pushing phase⟩)
    (hresume : phase.resume S.toPushRuntime call.projectId batch context input =
      some (phase', context'))
    (hwhole : ∀ p, context.WholeLines p)
    (hbody : ∀ status json, phase = .reading status → input = .body (some json) →
      BodyReports S.toPushRuntime batch json) :
    Accounts call context (.resume i input) (call.runPush S i batch phase') context'
      (phase'.accounted batch) := by
  rw [runPush_eq]
  refine ⟨rfl, ?_, ?_, ingestLines_of_resume hresume (hwhole _) hbody,
    fun _ => wholeLines_of_resume hresume hwhole hbody⟩
  · intro status
    have hsum := sum_map_set (fun task : BatchTask Line => task.phase.awaitsBody status)
      ⟨batch, .pushing phase'⟩ htask
    have hcount := requestCount_of_resume hresume (hwhole _) hbody status
    simp only [reading, BatchPhase.awaitsBody, CallEvent.responses] at hsum ⊢
    omega
  · have hsum := sum_map_set BatchTask.returned ⟨batch, .pushing phase'⟩ htask
    rw [returned_pushing, returned_pushing, accounted_of_not_ended (hasEnded_of_resume hresume),
      add_zero] at hsum
    exact hsum

theorem accounts_complete (outcome : Except PyError Unit) :
    Accounts call context .complete { call with result := some (handleOutcome context outcome).1 }
      (handleOutcome context outcome).2 0 := by
  have hsame : Accounts call context .complete
      { call with result := some (handleOutcome context outcome).1 } context 0 :=
    accounts_quiet (fun _ => rfl) rfl (fun _ => rfl) rfl
  unfold handleOutcome
  split
  · exact ⟨rfl, hsame.requests, rfl, hsame.lines, hsame.whole⟩
  · exact ⟨rfl, hsame.requests, rfl, hsame.lines, hsame.whole⟩
  · exact ⟨rfl, hsame.requests, rfl, hsame.lines, hsame.whole⟩

theorem accounts_of_step {e : CallEvent} (h : call.step S context e = some (call', context'))
    (hbody : ∀ i json batch status, e = .resume i (.body (some json)) →
      call.tasks[i]? = some ⟨batch, .pushing (.reading status)⟩ →
        BodyReports S.toPushRuntime batch json) (hwhole : ∀ p, context.WholeLines p) :
    ∃ gain, Accounts call context e call' context' gain := by
  unfold step at h
  split at h
  · cases h
  cases e with
  | resume i input =>
    simp only [resumeTask] at h
    split at h
    · next batch phase htask =>
      obtain ⟨⟨phase', context''⟩, hresume, hnext⟩ := Option.map_eq_some_iff.mp h
      cases hnext
      refine ⟨_, accounts_resume htask hresume hwhole ?_⟩
      rintro status json rfl rfl
      exact hbody i json batch status rfl htask
    · cases h
  | complete =>
    obtain ⟨outcome, -, hnext⟩ := Option.map_eq_some_iff.mp h
    cases hnext
    exact ⟨0, accounts_complete outcome⟩
  | next i =>
    obtain ⟨-, h⟩ := Option.ite_none_right_eq_some.mp h
    obtain ⟨moved, hmoved, h⟩ := Option.map_eq_some_iff.mp h
    cases h
    unfold nextBatch at hmoved
    split at hmoved
    · next batch htask =>
      obtain ⟨-, hmoved⟩ := Option.ite_none_right_eq_some.mp hmoved
      cases hmoved
      exact ⟨0, accounts_startPush (fun _ => rfl) htask (.inl rfl) call.permits⟩
    · cases hmoved
  | wake i =>
    obtain ⟨-, h⟩ := Option.ite_none_left_eq_some.mp h
    obtain ⟨moved, hmoved, h⟩ := Option.map_eq_some_iff.mp h
    cases h
    unfold wakeTask at hmoved
    split at hmoved
    · next batch htask =>
      cases hmoved
      refine ⟨0, accounts_set (fun _ => rfl) htask rfl rfl ?_ ?_⟩
      · intro status
        split_ifs <;> rfl
      · split_ifs <;> rfl
    · cases hmoved
  | acquire i =>
    obtain ⟨-, h⟩ := Option.ite_none_left_eq_some.mp h
    obtain ⟨moved, hmoved, h⟩ := Option.map_eq_some_iff.mp h
    cases h
    unfold acquireTask at hmoved
    split at hmoved
    · next batch htask =>
      split_ifs at hmoved
      · cases hmoved
        exact ⟨0, accounts_set (fun _ => rfl) htask rfl rfl (fun _ => rfl) rfl⟩
      · cases hmoved
        exact ⟨0, accounts_startPush (fun _ => rfl) htask (.inr rfl) _⟩
    · cases hmoved

end Call

namespace PollingState

variable {S : IngestSettings Line Payload} {s t : PollingState Line}

theorem sumOf_set {c : ℕ} {call call' : Call Line} (hcall : s.calls[c]? = some call)
    (hproject : call'.projectId = call.projectId) {f : Call Line → ℕ} {gain : ℕ}
    (hgain : f call' = f call + gain) (context : PushContext) (projectId : Text) :
    sumOf ⟨context, s.calls.set c call'⟩ projectId f =
      s.sumOf projectId f + if call.projectId = projectId then gain else 0 := by
  have hsum :=
    sum_map_set (fun call => if call.projectId = projectId then f call else 0) call' hcall
  simp only [sumOf, hproject, hgain] at hsum ⊢
  split_ifs at hsum ⊢ <;> omega

theorem sumOf_append (call : Call Line) (projectId : Text) (f : Call Line → ℕ) :
    sumOf { s with calls := s.calls ++ [call] } projectId f =
      s.sumOf projectId f + if call.projectId = projectId then f call else 0 := by
  simp [sumOf]

end PollingState

theorem Call.start_tasks (S : IngestSettings Line Payload) (context : PushContext)
    (projectId : Text) (fetchMetricResults : List Line) :
    ∀ task ∈ (Call.start S context projectId fetchMetricResults).tasks, task.phase = .created := by
  unfold Call.start
  intro task hmem
  split_ifs at hmem
  · cases hmem
  · cases hmem
  · obtain ⟨batch, -, rfl⟩ := List.mem_map.mp hmem
    rfl

theorem Call.start_reading (S : IngestSettings Line Payload) (context : PushContext)
    (projectId : Text) (fetchMetricResults : List Line) (status : ℕ) :
    (Call.start S context projectId fetchMetricResults).reading status = 0 :=
  Call.sum_created (Call.start_tasks S context projectId fetchMetricResults) (fun _ => rfl)

theorem Call.start_returnedLines (S : IngestSettings Line Payload) (context : PushContext)
    (projectId : Text) (fetchMetricResults : List Line) :
    (Call.start S context projectId fetchMetricResults).returnedLines = 0 :=
  Call.sum_created (Call.start_tasks S context projectId fetchMetricResults) (fun _ => rfl)

structure PollingState.Accounted (trace : List (PollingEvent Line)) (s : PollingState Line) :
    Prop where
  requests : ∀ status, (s.context.requestCount.get status).getD 0 + s.reading status =
    (trace.map (PollingEvent.responses status)).sum
  lines : ∀ projectId, s.context.ingestLines projectId = some (s.returnedLines projectId : ℚ)
  whole : ∀ p, s.context.WholeLines p

namespace PollingState.Accounted

variable {S : IngestSettings Line Payload} {s : PollingState Line}
  {trace : List (PollingEvent Line)}

theorem call (h : s.Accounted trace) (projectId : Text) (results : List Line) :
    PollingState.Accounted (trace ++ [.call projectId results])
      { s with calls := s.calls ++ [Call.start S s.context projectId results] } where
  requests := by
    intro status
    have hbefore := h.requests status
    have hstart := Call.start_reading S s.context projectId results status
    simp only [PollingState.reading, List.map_append, List.map_singleton, List.sum_append,
      List.sum_singleton, hstart, PollingEvent.responses] at hbefore ⊢
    omega
  lines := by
    intro projectId'
    rw [PollingState.returnedLines, PollingState.sumOf_append, Call.start_returnedLines, ite_self,
      add_zero]
    exact h.lines projectId'
  whole := h.whole

theorem step (h : s.Accounted trace) {c : ℕ} {call call' : Call Line} {e : CallEvent}
    {context' : PushContext} {gain : ℕ} (hcall : s.calls[c]? = some call)
    (ha : call.Accounts s.context e call' context' gain) :
    PollingState.Accounted (trace ++ [.of c e]) ⟨context', s.calls.set c call'⟩ where
  requests := by
    intro status
    have hbefore := h.requests status
    have hcount := ha.requests status
    have hsum := sum_map_set (Call.reading status) call' hcall
    simp only [PollingState.reading, List.map_append, List.map_singleton, List.sum_append,
      List.sum_singleton, PollingEvent.responses] at hbefore hcount hsum ⊢
    omega
  lines := by
    intro projectId
    have hreturned := PollingState.sumOf_set hcall ha.projectId ha.returned context' projectId
    rw [PollingState.returnedLines, hreturned, ha.lines, h.lines, Option.map_some,
      PollingState.returnedLines]
    split_ifs <;> push_cast <;> rfl
  whole := ha.whole h.whole

end PollingState.Accounted

theorem PollingState.accounted_of_run {S : IngestSettings Line Payload} :
    ∀ trace s, (pushSystem S).run trace = some s → (pushSystem S).Along (BodiesReport S) trace →
      s.Accounted trace := by
  apply (pushSystem S).trace_invariant
    (fun trace s => (pushSystem S).Along (BodiesReport S) trace → s.Accounted trace)
  · intro _
    refine ⟨fun _ => rfl, ?_, fun _ => ⟨⟨0, rfl⟩, 0, rfl⟩⟩
    intro projectId
    simp [pushSystem, PushContext.ingestLines, PushContext.initial, PollingState.returnedLines,
      PollingState.sumOf, Number.toRat]
  · intro trace s e t hrun ih hstep hbodies
    obtain ⟨hbefore, hlast⟩ := (System.along_snoc _).mp hbodies
    have haccounted := ih hbefore
    cases e with
    | call projectId results =>
      cases hstep
      exact haccounted.call projectId results
    | of c e =>
      simp only [pushSystem, PollingState.step] at hstep
      split at hstep
      · next call hcall =>
        obtain ⟨next, hnext, rfl⟩ := Option.map_eq_some_iff.mp hstep
        obtain ⟨gain, ha⟩ := Call.accounts_of_step hnext (by
          rintro i json batch status rfl htask
          exact hlast s hrun c i json call batch status rfl hcall htask) haccounted.whole
        exact haccounted.step hcall ha
      · cases hstep

namespace Call

variable {S : IngestSettings Line Payload} {call call' : Call Line} {context context' : PushContext}

structure Settled (call : Call Line) : Prop where
  skipped : call.skipped = true → call.tasks = []
  idle : call.result.isSome = true → ∀ task ∈ call.tasks, task.phase.inProgress = false

theorem idle_of_sequentialOutcome {tasks : List (BatchTask Line)} {outcome : Except PyError Unit}
    (hturn : InTurn tasks) (h : sequentialOutcome tasks = some outcome) :
    ∀ task ∈ tasks, task.phase.inProgress = false := by
  induction tasks with
  | nil => simp
  | cons task tasks ih =>
    obtain ⟨hfirst, hrest⟩ := List.pairwise_cons.mp hturn
    unfold sequentialOutcome at h
    split at h
    · next hphase =>
      refine List.forall_mem_cons.mpr ⟨?_, ih hrest h⟩
      rw [hphase]
      rfl
    · next e hphase =>
      refine List.forall_mem_cons.mpr ⟨by rw [hphase]; rfl, ?_⟩
      intro later hlater
      -- nothing starts after a task that has raised
      have hstarted : later.phase.isStarted = false := by
        rw [← Bool.not_eq_true]
        intro hstarted
        have hok := hfirst later hlater hstarted
        rw [hphase] at hok
        contradiction
      cases hlaterPhase : later.phase with
      | pushing phase =>
        rw [hlaterPhase] at hstarted
        contradiction
      | _ => rfl
    · cases h

theorem idle_of_isOver {phase : BatchPhase} (h : phase.isOver = true) :
    phase.inProgress = false := by
  cases phase with
  | pushing phase =>
    have hended : phase.hasEnded = true := h
    simp [BatchPhase.inProgress, hended]
  | _ => rfl

theorem Valid.idle (hv : call.Valid S) {outcome : Except PyError Unit}
    (h : call.outcome S = some outcome) : ∀ task ∈ call.tasks, task.phase.inProgress = false := by
  unfold Call.outcome at h
  split_ifs at h with hmode
  · exact idle_of_sequentialOutcome (hv.ordered.sequential hmode) h
  · intro task hmem
    exact idle_of_isOver (gatherOutcome_eq_some h task hmem)

theorem Settled.step (hv : call.Valid S) (h : call.Settled) (hnone : call.result = none)
    (hm : call.Moves S context call' context') : call'.Settled := by
  obtain ⟨i, batch, old, new, added, ha⟩ | ⟨outcome, houtcome, rfl⟩ := hm.advances
  · refine ⟨?_, ?_⟩
    · intro hskipped
      have htask := ha.task
      rw [h.skipped (ha.skipped ▸ hskipped)] at htask
      contradiction
    · rw [ha.result, hnone]
      simp
  · exact ⟨h.skipped, fun _ => hv.idle houtcome⟩

theorem Settled.start (S : IngestSettings Line Payload) (context : PushContext) (projectId : Text)
    (fetchMetricResults : List Line) :
    (Call.start S context projectId fetchMetricResults).Settled := by
  unfold Call.start
  split_ifs
  · exact ⟨fun _ => rfl, by simp⟩
  · exact ⟨fun _ => rfl, by simp⟩
  · exact ⟨by simp, by simp⟩

theorem reading_of_idle (h : ∀ task ∈ call.tasks, task.phase.inProgress = false) (status : ℕ) :
    call.reading status = 0 := by
  apply List.sum_eq_zero
  intro x hx
  obtain ⟨task, hmem, rfl⟩ := List.mem_map.mp hx
  have hidle := h task hmem
  cases hphase : task.phase with
  | pushing phase =>
    rw [hphase] at hidle
    cases phase with
    | ended result => rfl
    | _ => cases hidle
  | _ => rfl

theorem fetched_eq (hv : call.Valid S) (h : call.Settled) :
    call.fetchMetricResults.length = call.returnedLines + call.unreturnedLines := by
  rw [unreturnedLines]
  split_ifs with hskipped
  · rw [returnedLines, h.skipped hskipped]
    exact (Nat.zero_add _).symm
  · have hbatches := hv.recorded.batches (Bool.eq_false_iff.mpr hskipped)
    have hlength := congrArg List.length
      (makeBatches_flatten S.metricIngestBatchSize call.fetchMetricResults)
    rw [← hbatches, List.length_flatten, List.map_map] at hlength
    rw [← hlength, returnedLines, ← List.sum_map_add]
    congr 1
    apply List.map_congr_left
    intro task _
    simp only [Function.comp_apply, BatchTask.returned, BatchTask.unreturned]
    split_ifs <;> omega

end Call

namespace PollingState

variable {S : IngestSettings Line Payload} {s : PollingState Line}

theorem calls_settled (h : (pushSystem S).Reachable s) :
    ∀ call ∈ s.calls, call.Valid S ∧ call.Settled := by
  apply (pushSystem S).invariant (fun s => ∀ call ∈ s.calls, call.Valid S ∧ call.Settled) _ _ h
  · intro call hmem
    cases hmem
  · intro s e t hsettled hstep
    obtain ⟨projectId, results, rfl⟩ | ⟨c, call, e', next, -, hcall, hnext, rfl⟩ := step_cases hstep
    · intro call hmem
      obtain hmem | hmem := List.mem_append.mp hmem
      · exact hsettled call hmem
      · rw [List.mem_singleton.mp hmem]
        exact ⟨Call.Valid.start S _ _ _, Call.Settled.start S _ _ _⟩
    · obtain ⟨hvalid, hsettle⟩ := hsettled call (List.mem_of_getElem? hcall)
      obtain ⟨hnone, hmoves⟩ := Call.moves_of_step hnext
      exact forall_mem_set hsettled ⟨hvalid.step hnext, hsettle.step hvalid hnone hmoves⟩

def AllReturned (s : PollingState Line) : Prop := ∀ call ∈ s.calls, call.result.isSome = true

theorem reading_of_allReturned (h : (pushSystem S).Reachable s) (hreturned : s.AllReturned)
    (status : ℕ) : s.reading status = 0 := by
  apply List.sum_eq_zero
  intro x hx
  obtain ⟨call, hmem, rfl⟩ := List.mem_map.mp hx
  exact Call.reading_of_idle ((calls_settled h call hmem).2.idle (hreturned call hmem)) status

theorem fetchedLines_eq (h : (pushSystem S).Reachable s) (projectId : Text) :
    s.fetchedLines projectId = s.returnedLines projectId + s.unreturnedLines projectId := by
  rw [fetchedLines, returnedLines, unreturnedLines, sumOf, sumOf, sumOf, ← List.sum_map_add]
  congr 1
  apply List.map_congr_left
  intro call hmem
  obtain ⟨hvalid, hsettled⟩ := calls_settled h call hmem
  split_ifs
  · exact Call.fetched_eq hvalid hsettled
  · rfl

end PollingState

/-- Of every run of a polling cycle, whatever the projects, the mode and the order in which the
pushes go on, when the bodies report on each line: each response is counted under its status or
waits for its body; what is counted as accepted, invalid or dropped for a project are the lines of
its batches whose push has returned; these and the others are all lines that were fetched; and no
response waits any longer once every call is over. -/
theorem polling_cycle_accounted (S : IngestSettings Line Payload)
    {trace : List (PollingEvent Line)} {s : PollingState Line}
    (h : (pushSystem S).run trace = some s)
    (hbodies : (pushSystem S).Along (BodiesReport S) trace) :
    (∀ status, (s.context.requestCount.get status).getD 0 + s.reading status =
      (trace.map (PollingEvent.responses status)).sum) ∧
    (∀ projectId, s.context.ingestLines projectId = some (s.returnedLines projectId : ℚ)) ∧
    (∀ projectId,
      s.fetchedLines projectId = s.returnedLines projectId + s.unreturnedLines projectId) ∧
    ((∀ call ∈ s.calls, call.result.isSome = true) → ∀ status, s.reading status = 0) := by
  have haccounted := PollingState.accounted_of_run trace s h hbodies
  exact ⟨haccounted.requests, haccounted.lines, PollingState.fetchedLines_eq ⟨trace, h⟩,
    PollingState.reading_of_allReturned ⟨trace, h⟩⟩

def oneLineOk : Json := .map [("linesOk".toList, .int 1), ("linesInvalid".toList, .int 0)]

def beforeBody : List (PollingEvent ℕ) :=
  .call "project".toList [10, 20] ::
    [.wake 0, .wake 1, .acquire 1, .acquire 0, .resume 0 (.response 202 none),
      .resume 1 (.response 413 none)].map (.of 0)

def cycleTrace : List (PollingEvent ℕ) :=
  beforeBody ++ [.of 0 (.resume 0 (.body (some oneLineOk)))] ++ [.of 0 .complete]

theorem cycleTrace_bodies : (pushSystem twoAtATime).Along (BodiesReport twoAtATime) cycleTrace := by
  rw [cycleTrace, System.along_snoc, System.along_snoc]
  refine ⟨⟨?_, ?_⟩, ?_⟩
  · rintro before e rest s htrace - c i json call batch status rfl
    have hmem : .of c (.resume i (.body (some json))) ∈ beforeBody := by
      rw [htrace]
      simp
    simp [beforeBody] at hmem
  · intro s hs c i json call batch status he hcall htask
    cases he
    cases hs
    cases hcall
    cases htask
    exact ⟨⟨1, 0, rfl, rfl, rfl⟩, by decide +kernel⟩
  · intro s hs c i json call batch status he
    cases he

theorem polling_cycle_accounted_dropped : ∃ s,
    (pushSystem twoAtATime).run cycleTrace = some s ∧
    s.context.ingestLines "project".toList = some (s.returnedLines "project".toList : ℚ) ∧
    (s.context.requestCount.get 413).getD 0 + s.reading 413 = 1 := by
  obtain ⟨s, hs⟩ : ∃ s, (pushSystem twoAtATime).run cycleTrace = some s := ⟨_, rfl⟩
  obtain ⟨hrequests, hlines, -⟩ := polling_cycle_accounted twoAtATime hs cycleTrace_bodies
  exact ⟨s, hs, hlines _, hrequests 413⟩

end GcpMonitor.Metrics
