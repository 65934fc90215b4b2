import GcpMonitor.Metrics.IngestResponse
import GcpMonitor.Metrics.LineAccounting

namespace GcpMonitor.Metrics

open Python ExceptList TransitionSystem
open Logs (DynatraceConnectivity)

variable {Line Payload : Type}

def fatalStatuses : List ℕ := [401, 403, 404, 405]

namespace PushInput

def isPost : PushInput → Bool
  | .networkError => true
  | .response _ _ => true
  | _ => false

def responseStatus : PushInput → Option ℕ
  | .response status _ => some status
  | _ => none

def invitesRetry : PushInput → Bool
  | .networkError => true
  | .response status _ => retryableStatusCodes.contains status
  | _ => false

end PushInput

def responses (trace : List PushInput) : List ℕ := trace.filterMap PushInput.responseStatus

def CountsResponses (context : PushContext) (trace : List PushInput) (context' : PushContext) :
    Prop :=
  ∀ status, (context'.requestCount.get status).getD 0 =
    (context.requestCount.get status).getD 0 + (responses trace).count status

def RaisesOnFatal (trace : List PushInput) (result : Except PyError Unit) : Prop :=
  (∃ e, result = .error e) ↔ ∃ status ∈ fatalStatuses, (responses trace).getLast? = some status

/-- What a whole call does: how often and after what it posts, what it counts, when it raises. -/
structure PushesProperly (context : PushContext) (trace : List PushInput)
    (result : Except PyError Unit) (context' : PushContext) : Prop where
  posts : trace.countP PushInput.isPost ≤ 4
  retries : ∀ before input after, trace = before ++ input :: after → input.isPost = true →
    (∃ later ∈ after, later.isPost = true) → input.invitesRetry = true
  counts : CountsResponses context trace context'
  raises : RaisesOnFatal trace result

def ReadsBodies (R : PushRuntime Line Payload) (projectId : Text) (linesBatch : List Line)
    (context : PushContext) (trace : List PushInput) : Prop :=
  ∀ json, .body (some json) ∈ trace → readableBody R context projectId linesBatch json = true

theorem fatalStatus_eq_some_iff {R : PushRuntime Line Payload} {status : ℕ} :
    (∃ fatal, fatalStatus R status = some fatal) ↔ status ∈ fatalStatuses := by
  simp only [fatalStatuses, List.mem_cons, List.not_mem_nil, or_false]
  constructor
  · rintro ⟨fatal, h⟩
    unfold fatalStatus at h
    split at h
    · exact .inl rfl
    · exact .inr (.inl rfl)
    · exact .inr (.inr (.inl rfl))
    · exact .inr (.inr (.inr rfl))
    · cases h
  · rintro (rfl | rfl | rfl | rfl) <;> exact ⟨_, rfl⟩

theorem responses_snoc (trace : List PushInput) (input : PushInput) :
    responses (trace ++ [input]) = responses trace ++ input.responseStatus.toList := by
  rw [responses, List.filterMap_append]
  cases input <;> rfl

theorem countsResponses_increment {context context' : PushContext} {trace : List PushInput}
    (h : CountsResponses context trace context') (status : ℕ) (retryAfter : Option Text) :
    CountsResponses context (trace ++ [.response status retryAfter])
      (context'.incrementRequestCount status) := by
  intro other
  have hother := h other
  rw [responses_snoc, List.count_append, PushContext.incrementRequestCount]
  by_cases heq : other = status
  · subst heq
    simp only [OrderedDict.get_set_self, Option.getD_some, PushInput.responseStatus,
      Option.toList_some, List.count_singleton_self]
    omega
  · have hcount : [status].count other = 0 := by
      rw [List.count_eq_zero, List.mem_singleton]
      exact heq
    simp only [OrderedDict.get_set_of_ne _ _ heq, PushInput.responseStatus, Option.toList_some,
      hcount]
    omega

theorem countsResponses_snoc {context context' : PushContext} {trace : List PushInput}
    (input : PushInput) (h : CountsResponses context trace context')
    (hinput : input.responseStatus = none) :
    CountsResponses context (trace ++ [input]) context' := by
  intro status
  rw [responses_snoc, hinput, Option.toList_none, List.append_nil]
  exact h status

def AllInviteRetry (trace : List PushInput) : Prop :=
  ∀ input ∈ trace, input.isPost = true → input.invitesRetry = true

theorem AllInviteRetry.snoc {trace : List PushInput} (h : AllInviteRetry trace)
    {input : PushInput} (hinput : input.isPost = true → input.invitesRetry = true) :
    AllInviteRetry (trace ++ [input]) := by
  intro other hother
  rcases List.mem_append.mp hother with hmem | hmem
  · exact h other hmem
  · obtain rfl := List.mem_singleton.mp hmem
    exact hinput

def RetriesInvited (trace : List PushInput) : Prop :=
  ∀ before input after, trace = before ++ input :: after → input.isPost = true →
    (∃ later ∈ after, later.isPost = true) → input.invitesRetry = true

theorem AllInviteRetry.retriesInvited_snoc {trace : List PushInput} (h : AllInviteRetry trace)
    (last : PushInput) : RetriesInvited (trace ++ [last]) := by
  rintro before input after htrace hpost ⟨later, hlater, -⟩
  obtain ⟨after', last', rfl⟩ := List.eq_nil_or_concat after |>.resolve_left
    (List.ne_nil_of_mem hlater)
  rw [List.concat_eq_append, ← List.cons_append, ← List.append_assoc] at htrace
  obtain ⟨rfl, -⟩ := List.append_inj' htrace rfl
  exact h input (by simp) hpost

theorem RetriesInvited.snoc {trace : List PushInput} (h : RetriesInvited trace)
    {last : PushInput} (hlast : last.isPost = false) : RetriesInvited (trace ++ [last]) := by
  rintro before input after htrace hpost ⟨later, hlater, hlaterPost⟩
  obtain ⟨after', last', rfl⟩ := List.eq_nil_or_concat after |>.resolve_left
    (List.ne_nil_of_mem hlater)
  rw [List.concat_eq_append, ← List.cons_append, ← List.append_assoc] at htrace
  obtain ⟨hinit, hlast'⟩ := List.append_inj' htrace rfl
  obtain rfl := List.singleton_inj.mp hlast'
  rw [List.concat_eq_append, List.mem_append, List.mem_singleton] at hlater
  rcases hlater with hlater | rfl
  · exact h before input after' hinit hpost ⟨later, hlater, hlaterPost⟩
  · rw [hlast] at hlaterPost
    contradiction

inductive PushProgress (R : PushRuntime Line Payload) (projectId : Text) (linesBatch : List Line)
    (context : PushContext) (trace : List PushInput) : PushPhase × PushContext → Prop
  | posting (attempt : Fin (maxPushRetries + 1)) (context' : PushContext)
      (hposts : trace.countP PushInput.isPost = attempt.val) (hinvite : AllInviteRetry trace)
      (hbody : ∀ json, .body (some json) ∉ trace)
      (hcounts : CountsResponses context trace context') :
      PushProgress R projectId linesBatch context trace (.posting attempt, context')
  | sleeping (attempt : Fin maxPushRetries) (delay : PyFloat) (context' : PushContext)
      (hposts : trace.countP PushInput.isPost = attempt.val + 1) (hinvite : AllInviteRetry trace)
      (hbody : ∀ json, .body (some json) ∉ trace)
      (hcounts : CountsResponses context trace context') :
      PushProgress R projectId linesBatch context trace (.sleeping attempt delay, context')
  | reading (status : ℕ) (context' : PushContext)
      (hposts : trace.countP PushInput.isPost ≤ 4) (hretries : RetriesInvited trace)
      (hbody : ∀ json, .body (some json) ∉ trace)
      (hcounts : CountsResponses context trace (context'.incrementRequestCount status))
      (hlast : (responses trace).getLast? = some status) (hfatal : status ∉ fatalStatuses) :
      PushProgress R projectId linesBatch context trace (.reading status, context')
  | ended (result : Except PyError Unit) (context' : PushContext)
      (hposts : trace.countP PushInput.isPost ≤ 4) (hretries : RetriesInvited trace)
      (hreads : ReadsBodies R projectId linesBatch context trace →
        CountsResponses context trace context')
      (hraises : RaisesOnFatal trace result ↔
        ReadsBodies R projectId linesBatch context trace) :
      PushProgress R projectId linesBatch context trace (.ended result, context')

section Step

variable {R : PushRuntime Line Payload} {projectId : Text} {linesBatch : List Line}
  {context : PushContext} {trace : List PushInput}

theorem readsBodies_snoc (input : PushInput) (hbody : ∀ json, .body (some json) ∉ trace) :
    ReadsBodies R projectId linesBatch context (trace ++ [input]) ↔
      ∀ json, input = .body (some json) →
        readableBody R context projectId linesBatch json = true := by
  constructor
  · intro h json hinput
    exact h json (by simp [hinput])
  · intro h json hmem
    rcases List.mem_append.mp hmem with hmem | hmem
    · exact absurd hmem (hbody json)
    · exact h json (List.mem_singleton.mp hmem).symm

theorem not_mem_body_snoc (input : PushInput) (hbody : ∀ json, .body (some json) ∉ trace)
    (hinput : ∀ json, input ≠ .body (some json)) :
    ∀ json, PushInput.body (some json) ∉ trace ++ [input] := by
  intro json hmem
  rcases List.mem_append.mp hmem with hmem | hmem
  · exact hbody json hmem
  · exact hinput json (List.mem_singleton.mp hmem).symm

theorem countP_isPost_snoc (input : PushInput) :
    (trace ++ [input]).countP PushInput.isPost =
      trace.countP PushInput.isPost + if input.isPost then 1 else 0 := by
  rw [List.countP_append, List.countP_singleton]

theorem not_fatal_of_invitesRetry (hinvite : AllInviteRetry trace) {status : ℕ}
    (hlast : (responses trace).getLast? = some status) : status ∉ fatalStatuses := by
  obtain ⟨input, hmem, hstatus⟩ := List.mem_filterMap.mp (List.mem_of_getLast? hlast)
  cases input with
  | response status' retryAfter =>
    cases hstatus
    have hretry := hinvite _ hmem rfl
    simp only [PushInput.invitesRetry, retryableStatusCodes, List.contains_eq_mem,
      decide_eq_true_eq, List.mem_cons, List.not_mem_nil, or_false] at hretry
    rcases hretry with rfl | rfl | rfl | rfl | rfl <;> decide
  | _ => cases hstatus

theorem raisesOnFatal_ok (h : ∀ status, (responses trace).getLast? = some status →
    status ∉ fatalStatuses) : RaisesOnFatal trace (.ok ()) := by
  constructor
  · rintro ⟨e, he⟩
    cases he
  · rintro ⟨status, hmem, hlast⟩
    exact absurd hmem (h status hlast)

theorem progress_networkError {attempt : Fin (maxPushRetries + 1)} {context' : PushContext}
    (hposts : trace.countP PushInput.isPost = attempt.val) (hinvite : AllInviteRetry trace)
    (hbody : ∀ json, .body (some json) ∉ trace)
    (hcounts : CountsResponses context trace context') :
    PushProgress R projectId linesBatch context (trace ++ [.networkError])
      (PushPhase.onNetworkError projectId linesBatch context' attempt) := by
  have hposts' : (trace ++ [PushInput.networkError]).countP PushInput.isPost = attempt.val + 1 := by
    rw [countP_isPost_snoc, hposts]
    rfl
  have hinvite' : AllInviteRetry (trace ++ [.networkError]) := hinvite.snoc (fun _ => rfl)
  have hbody' := not_mem_body_snoc .networkError hbody (by simp)
  have hcounts' := countsResponses_snoc .networkError hcounts rfl
  rw [PushPhase.onNetworkError]
  split_ifs with h
  · exact .sleeping _ _ _ hposts' hinvite' hbody' hcounts'
  · have hlt : attempt.val < 4 := attempt.isLt
    refine .ended _ _ (by omega) (hinvite.retriesInvited_snoc _) (fun _ => hcounts') ?_
    apply iff_of_true
    · apply raisesOnFatal_ok
      intro status hlast
      exact not_fatal_of_invitesRetry hinvite' hlast
    · exact (readsBodies_snoc _ hbody).mpr (by simp)

theorem progress_response {attempt : Fin (maxPushRetries + 1)} {context' : PushContext}
    (hposts : trace.countP PushInput.isPost = attempt.val) (hinvite : AllInviteRetry trace)
    (hbody : ∀ json, .body (some json) ∉ trace)
    (hcounts : CountsResponses context trace context') (status : ℕ) (retryAfter : Option Text) :
    PushProgress R projectId linesBatch context (trace ++ [.response status retryAfter])
      (PushPhase.onResponse R projectId linesBatch context' attempt status retryAfter) := by
  have hlt : attempt.val < 4 := attempt.isLt
  have hposts' : (trace ++ [PushInput.response status retryAfter]).countP PushInput.isPost =
      attempt.val + 1 := by
    rw [countP_isPost_snoc, hposts]
    rfl
  have hbody' := not_mem_body_snoc (.response status retryAfter) hbody (by simp)
  have hcounts' := countsResponses_increment hcounts status retryAfter
  have hretries' := hinvite.retriesInvited_snoc (.response status retryAfter)
  have hreads :
      ReadsBodies R projectId linesBatch context (trace ++ [.response status retryAfter]) :=
    (readsBodies_snoc _ hbody).mpr (by simp)
  have hlast : (responses (trace ++ [.response status retryAfter])).getLast? = some status := by
    rw [responses_snoc]
    exact List.getLast?_concat
  rw [PushPhase.onResponse]
  cases hfatal : fatalStatus R status with
  | some fatal =>
    have hmem : status ∈ fatalStatuses := fatalStatus_eq_some_iff.mp ⟨fatal, hfatal⟩
    refine .ended _ _ (by omega) hretries' (fun _ => hcounts') (iff_of_true ?_ hreads)
    exact iff_of_true ⟨fatal.2, rfl⟩ ⟨status, hmem, hlast⟩
  | none =>
    have hmem : status ∉ fatalStatuses := by
      intro hmem
      obtain ⟨fatal, h⟩ := fatalStatus_eq_some_iff.mpr hmem
      rw [hfatal] at h
      cases h
    have hok : RaisesOnFatal (trace ++ [.response status retryAfter]) (.ok ()) := by
      apply raisesOnFatal_ok
      intro other hother
      rw [hlast] at hother
      cases hother
      exact hmem
    dsimp only
    split_ifs with hretryable hattempt hlarge
    · have hinvite' : AllInviteRetry (trace ++ [.response status retryAfter]) := by
        apply hinvite.snoc
        intro _
        simpa [PushInput.invitesRetry] using hretryable
      exact .sleeping _ _ _ hposts' hinvite' hbody' hcounts'
    · exact .ended _ _ (by omega) hretries' (fun _ => hcounts') (iff_of_true hok hreads)
    · exact .ended _ _ (by omega) hretries' (fun _ => hcounts') (iff_of_true hok hreads)
    · exact .reading _ _ (by omega) hretries' hbody' hcounts' hlast hmem

theorem progress_body {status : ℕ} {context' : PushContext}
    (hposts : trace.countP PushInput.isPost ≤ 4) (hretries : RetriesInvited trace)
    (hbody : ∀ json, .body (some json) ∉ trace)
    (hcounts : CountsResponses context trace (context'.incrementRequestCount status))
    (hlast : (responses trace).getLast? = some status) (hfatal : status ∉ fatalStatuses)
    (hok : context'.ingestLinesOkCount = context.ingestLinesOkCount)
    (hinvalid : context'.ingestLinesInvalidCount = context.ingestLinesInvalidCount)
    (json : Option Json) :
    PushProgress R projectId linesBatch context (trace ++ [.body json])
      (.ended (readBody R context' projectId linesBatch status json).2,
        (readBody R context' projectId linesBatch status json).1) := by
  have hposts' : (trace ++ [PushInput.body json]).countP PushInput.isPost ≤ 4 := by
    rw [countP_isPost_snoc]
    exact hposts
  have hretries' : RetriesInvited (trace ++ [.body json]) := hretries.snoc rfl
  have hcounts' := countsResponses_snoc (.body json) hcounts rfl
  have hlast' : (responses (trace ++ [.body json])).getLast? = some status := by
    rw [responses_snoc]
    exact (List.append_nil (responses trace)).symm ▸ hlast
  have hreturned : RaisesOnFatal (trace ++ [.body json]) (.ok ()) := by
    apply raisesOnFatal_ok
    intro other hother
    rw [hlast'] at hother
    cases hother
    exact hfatal
  have hread : ReadsBodies R projectId linesBatch context (trace ++ [.body json]) ↔ _ :=
    readsBodies_snoc (.body json) hbody
  cases json with
  | none =>
    refine .ended _ _ hposts' hretries' (fun _ => hcounts')
      (iff_of_true hreturned (hread.mpr (by simp)))
  | some json =>
    have hreadable : ReadsBodies R projectId linesBatch context (trace ++ [.body (some json)]) ↔
        readableBody R context projectId linesBatch json = true := by
      rw [hread]
      simp
    have hsame := readableBody_congr (R := R) hok hinvalid projectId linesBatch json
    have hisOk := isOk_readBody R context' projectId linesBatch status json
    refine .ended _ _ hposts' hretries' ?_ ?_
    · intro hreads other
      rw [requestCount_readBody (hsame.trans (hreadable.mp hreads))]
      exact hcounts' other
    · rw [hreadable, ← hsame, ← hisOk]
      cases (readBody R context' projectId linesBatch status (some json)).2 with
      | ok => exact iff_of_true hreturned rfl
      | error e =>
        apply iff_of_false
        · intro hraises
          obtain ⟨other, hmem, hother⟩ := hraises.mp ⟨e, rfl⟩
          rw [hlast'] at hother
          cases hother
          exact hfatal hmem
        · exact Bool.false_ne_true

theorem progress_of_run {payload : Payload} (hpayload : R.payload linesBatch = .ok payload) :
    ∀ trace s, (pushRun R projectId linesBatch context).run trace = some s →
      PushProgress R projectId linesBatch context trace s := by
  apply (pushRun R projectId linesBatch context).trace_invariant
  · have hstart : PushPhase.start R linesBatch = .posting 0 := by
      rw [PushPhase.start, hpayload]
    rw [pushRun, hstart]
    refine .posting 0 context rfl ?_ ?_ ?_
    · intro input hmem
      contradiction
    · intro json hmem
      contradiction
    · intro status
      rfl
  · rintro trace s input t hrun hprogress hstep
    have hcounters := counters_of_run trace s hrun
    cases hprogress with
    | posting attempt context' hposts hinvite hbody hcounts =>
      cases input with
      | networkError =>
        cases hstep
        exact progress_networkError hposts hinvite hbody hcounts
      | response status retryAfter =>
        cases hstep
        exact progress_response hposts hinvite hbody hcounts status retryAfter
      | slept => cases hstep
      | body json => cases hstep
    | sleeping attempt delay context' hposts hinvite hbody hcounts =>
      cases input <;> cases hstep
      refine .posting _ _ ?_ (hinvite.snoc (by simp [PushInput.isPost]))
        (not_mem_body_snoc _ hbody (by simp)) (countsResponses_snoc _ hcounts rfl)
      rw [countP_isPost_snoc, hposts]
      rfl
    | reading status context' hposts hretries hbody hcounts hlast hfatal =>
      cases input <;> cases hstep
      obtain ⟨hok, hinvalid⟩ := hcounters rfl
      exact progress_body hposts hretries hbody hcounts hlast hfatal hok hinvalid _
    | ended result context' => cases input <;> cases hstep

theorem eq_nil_of_payload_error {e : PyError} (hpayload : R.payload linesBatch = .error e)
    {s : PushPhase × PushContext}
    (hrun : (pushRun R projectId linesBatch context).run trace = some s) :
    trace = [] ∧ s = (.ended (.error e), context) := by
  have hstart : PushPhase.start R linesBatch = .ended (.error e) := by
    rw [PushPhase.start, hpayload]
  have hinit : (pushRun R projectId linesBatch context).init = (.ended (.error e), context) := by
    rw [pushRun, hstart]
  cases trace with
  | nil =>
    have hs : some (pushRun R projectId linesBatch context).init = some s := hrun
    rw [hinit, Option.some.injEq] at hs
    exact ⟨rfl, hs.symm⟩
  | cons input rest =>
    have hstep : (pushRun R projectId linesBatch context).step
        (pushRun R projectId linesBatch context).init input = none := by
      rw [hinit]
      cases input <;> rfl
    rw [System.run, System.runFrom, List.foldlM_cons, hstep] at hrun
    cases hrun

end Step

theorem push_raises_on_fatal_iff (R : PushRuntime Line Payload) (projectId : Text)
    (linesBatch : List Line) (context : PushContext) {trace : List PushInput}
    {result : Except PyError Unit} {context' : PushContext}
    (hrun : (pushRun R projectId linesBatch context).run trace = some (.ended result, context')) :
    PushesProperly context trace result context' ↔
      (∃ payload, R.payload linesBatch = .ok payload) ∧
        ∀ json, .body (some json) ∈ trace →
          readableBody R context projectId linesBatch json = true := by
  cases hpayload : R.payload linesBatch with
  | error e =>
    obtain ⟨rfl, hs⟩ := eq_nil_of_payload_error hpayload hrun
    cases hs
    apply iff_of_false
    · intro h
      obtain ⟨status, -, hlast⟩ := h.raises.mp ⟨e, rfl⟩
      cases hlast
    · rintro ⟨⟨payload, h⟩, -⟩
      cases h
  | ok payload =>
    cases progress_of_run hpayload trace _ hrun with
    | ended _ _ hposts hretries hreads hraises =>
      constructor
      · intro h
        exact ⟨⟨payload, rfl⟩, hraises.mp h.raises⟩
      · rintro ⟨-, hbodies⟩
        exact ⟨hposts, hretries, hreads hbodies, hraises.mpr hbodies⟩

theorem push_raises_on_fatal_accepted :
    ∃ result context', (pushRun ingestRuntime [] [10, 20] .initial).run
        ([.networkError, .slept, .response 503 none, .slept] ++ answered 400 (.map
          [("linesOk".toList, .int 1), ("error".toList, .map [("invalidLines".toList,
            .list [.map [("line".toList, .int 2)]])])])) = some (.ended result, context') ∧
      ∀ status, (context'.requestCount.get status).getD 0 = [503, 400].count status := by
  have hrun : ∃ result context', (pushRun ingestRuntime [] [10, 20] .initial).run
      ([.networkError, .slept, .response 503 none, .slept] ++ answered 400 (.map
        [("linesOk".toList, .int 1), ("error".toList, .map [("invalidLines".toList,
          .list [.map [("line".toList, .int 2)]])])])) = some (.ended result, context') :=
    ⟨_, _, rfl⟩
  obtain ⟨result, context', hrun⟩ := hrun
  have h := (push_raises_on_fatal_iff ingestRuntime [] [10, 20] .initial hrun).mpr
  refine ⟨result, context', hrun, ?_⟩
  intro status
  have hproper := h ⟨⟨(), rfl⟩, by
    intro json hmem
    simp only [answered, List.cons_append, List.nil_append, List.mem_cons, reduceCtorEq,
      PushInput.body.injEq, Option.some.injEq, List.not_mem_nil, or_false, false_or] at hmem
    rw [hmem]
    decide +kernel⟩
  have hcount := hproper.counts status
  rw [hcount]
  exact Nat.zero_add _

def numberedBeyond : Json :=
  .map [("linesOk".toList, .int 1), ("linesInvalid".toList, .int 1),
    ("error".toList, .map [("invalidLines".toList, .list [.map [("line".toList, .int 3)]])])]

theorem reported_line_beyond_batch_raises :
    ¬ ∀ (R : PushRuntime ℕ Unit) (projectId : Text) (linesBatch : List ℕ) (context : PushContext)
      (trace : List PushInput) (result : Except PyError Unit) (context' : PushContext),
      (∃ payload, R.payload linesBatch = .ok payload) →
        (pushRun R projectId linesBatch context).run trace = some (.ended result, context') →
          PushesProperly context trace result context' := by
  intro hclaim
  have hrun : ∃ context', (pushRun ingestRuntime [] [10, 20] .initial).run
      (answered 400 numberedBeyond) = some (.ended (.error .indexError), context') :=
    ⟨_, rfl⟩
  obtain ⟨context', hrun⟩ := hrun
  have h := hclaim ingestRuntime [] [10, 20] .initial _ _ context' ⟨(), rfl⟩ hrun
  obtain ⟨status, hmem, hlast⟩ := h.raises.mp ⟨_, rfl⟩
  cases hlast
  revert hmem
  decide

end GcpMonitor.Metrics
