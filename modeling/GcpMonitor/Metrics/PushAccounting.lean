import GcpMonitor.Library.Tally
import GcpMonitor.Metrics.IngestResponse
import GcpMonitor.Metrics.LineAccounting

namespace GcpMonitor.Metrics

open Python

variable {Line Payload : Type}

/-- The body counts each line of the batch once, in whole numbers, and the rest of it is as
Dynatrace documents it. -/
structure BodyReports (R : PushRuntime Line Payload) (batch : List Line) (json : Json) :
    Prop where
  counts : ∃ linesOk linesInvalid : ℤ, linesOf json "linesOk" = some (.int linesOk) ∧
    linesOf json "linesInvalid" = some (.int linesInvalid) ∧
      linesOk + linesInvalid = batch.length
  readable : readableReport R batch json = true

def PushPhase.awaitsBody (status : ℕ) : PushPhase → ℕ
  | .reading s => if s = status then 1 else 0
  | _ => 0

def PushInput.responses (status : ℕ) : PushInput → ℕ
  | .response s _ => if s = status then 1 else 0
  | _ => 0

section Body

variable {R : PushRuntime Line Payload} {projectId : Text} {batch : List Line}
  {context : PushContext} {json : Json}

theorem BodyReports.whole (h : BodyReports R batch json) : ReportsWhole json := by
  obtain ⟨linesOk, linesInvalid, hok, hinvalid, -⟩ := h.counts
  exact ⟨⟨linesOk, hok⟩, linesInvalid, hinvalid⟩

theorem BodyReports.reported (h : BodyReports R batch json) :
    linesReported json = some (batch.length : ℚ) := by
  obtain ⟨linesOk, linesInvalid, hok, hinvalid, hsum⟩ := h.counts
  have hcast : (linesOk : ℚ) + linesInvalid = batch.length := by exact_mod_cast hsum
  simpa [linesReported, hok, hinvalid, Number.toRat] using hcast

theorem linesOf_eq_some {key : String} {n : Number} (h : linesOf json key = some n) :
    ∃ lines, json.get key (.int 0) = .ok lines ∧ lines.number = .ok n := by
  apply ExceptList.bind_eq_ok_iff.mp
  rw [linesOf] at h
  cases hread : json.get key (.int 0) >>= Json.number with
  | error e =>
    rw [hread] at h
    cases h
  | ok m =>
    rw [hread] at h
    cases h
    rfl

theorem addable_int {total lines : Number} {json : Json} (hjson : json.number = .ok lines)
    (htotal : ∃ m, total = .int m) (hlines : ∃ n, lines = .int n) : addable total json = true := by
  obtain ⟨m, rfl⟩ := htotal
  obtain ⟨n, rfl⟩ := hlines
  unfold addable
  rw [hjson]

theorem BodyReports.readBody_ok (h : BodyReports R batch json)
    (hcontext : context.WholeLines projectId) (status : ℕ) :
    (readBody R context projectId batch status (some json)).2 = .ok () := by
  have hisOk : (readBody R context projectId batch status (some json)).2.isOk = true := by
    rw [isOk_readBody]
    obtain ⟨linesOk, linesInvalid, hok, hinvalid, -⟩ := h.counts
    obtain ⟨ok, hgetOk, hok⟩ := linesOf_eq_some hok
    obtain ⟨invalid, hgetInvalid, hinvalid⟩ := linesOf_eq_some hinvalid
    cases json with
    | map entries =>
      cases hgetOk
      cases hgetInvalid
      rw [readableBody, addable_int hok hcontext.1 ⟨_, rfl⟩,
        addable_int hinvalid hcontext.2 ⟨_, rfl⟩, h.readable]
      rfl
    | _ => cases hgetOk
  cases hresult : (readBody R context projectId batch status (some json)).2 with
  | ok => rfl
  | error e =>
    rw [hresult] at hisOk
    cases hisOk

theorem addLines_whole {count count' : OrderedDict Text Number} {lines : Json} {m n : ℤ}
    (h : addLines count projectId lines = .ok count')
    (hcount : (count.get projectId).getD (.int 0) = .int m) (hlines : lines.number = .ok (.int n)) :
    (count'.get projectId).getD (.int 0) = .int (m + n) := by
  rw [addLines, hcount, hlines] at h
  cases h
  rw [OrderedDict.get_set_self]
  rfl

end Body

section Resume

variable {R : PushRuntime Line Payload} {projectId : Text} {batch : List Line}
  {context context' : PushContext} {phase phase' : PushPhase} {input : PushInput}

theorem getD_incrementRequestCount (context : PushContext) (status status' : ℕ) :
    ((context.incrementRequestCount status).requestCount.get status').getD 0 =
      (context.requestCount.get status').getD 0 + if status = status' then 1 else 0 :=
  OrderedDict.getD_addTo _ _ _ _

theorem readBody_requestCount {status : ℕ} {json : Option Json}
    (h : (readBody R context projectId batch status json).2 = .ok ()) :
    (readBody R context projectId batch status json).1.requestCount =
      (context.incrementRequestCount status).requestCount := by
  cases json with
  | none => rfl
  | some json =>
    cases hok : json.get "linesOk" (.int 0) with
    | error e => simp [readBody, hok] at h
    | ok linesOk =>
      cases hinvalid : json.get "linesInvalid" (.int 0) with
      | error e => simp [readBody, hok, hinvalid] at h
      | ok linesInvalid =>
        simp only [readBody, hok, hinvalid]
        split
        · rfl
        · split <;> rfl

theorem requestCount_of_resume
    (h : PushPhase.resume R projectId batch context phase input = some (phase', context'))
    (hwhole : context.WholeLines projectId)
    (hbody : ∀ status json, phase = .reading status → input = .body (some json) →
      BodyReports R batch json) (status : ℕ) :
    (context'.requestCount.get status).getD 0 + phase'.awaitsBody status =
      (context.requestCount.get status).getD 0 + phase.awaitsBody status +
        input.responses status := by
  cases phase with
  | posting attempt =>
    cases input with
    | networkError =>
      simp only [PushPhase.resume, PushPhase.onNetworkError, Option.some.injEq] at h
      split_ifs at h <;> cases h <;> rfl
    | response s retryAfter =>
      simp only [PushPhase.resume, PushPhase.onResponse, Option.some.injEq] at h
      split at h
      · cases h
        exact getD_incrementRequestCount context s status
      · split_ifs at h <;> cases h
        · exact getD_incrementRequestCount context s status
        · exact getD_incrementRequestCount context s status
        · exact getD_incrementRequestCount context s status
        · rfl
    | slept => cases h
    | body json => cases h
  | sleeping attempt delay =>
    cases input <;> cases h
    rfl
  | reading s =>
    cases input with
    | body json =>
      cases h
      have hok : (readBody R context projectId batch s json).2 = .ok () := by
        cases json with
        | none => rfl
        | some json => exact (hbody s json rfl rfl).readBody_ok hwhole s
      rw [readBody_requestCount hok, getD_incrementRequestCount]
      rfl
    | _ => cases h
  | ended result => cases input <;> cases h

theorem addLines_get_of_ne {count count' : OrderedDict Text Number} {lines : Json}
    (h : addLines count projectId lines = .ok count') {projectId' : Text}
    (hne : projectId ≠ projectId') : count'.get projectId' = count.get projectId' := by
  obtain ⟨sum, -, rfl⟩ := ExceptList.map_eq_ok_iff.mp h
  exact OrderedDict.get_set_of_ne _ _ (Ne.symm hne)

theorem wholeLines_of_readBody {status : ℕ} {json : Json} (hcontext : ∀ p, context.WholeLines p)
    (hjson : ReportsWhole json)
    (h : (readBody R context projectId batch status (some json)).2 = .ok ()) (p : Text) :
    (readBody R context projectId batch status (some json)).1.WholeLines p := by
  obtain ⟨⟨m, hm⟩, n, hn⟩ := hjson
  obtain ⟨linesOk, hgetOk, hm⟩ := linesOf_eq_some hm
  obtain ⟨linesInvalid, hgetInvalid, hn⟩ := linesOf_eq_some hn
  simp only [readBody, hgetOk, hgetInvalid] at h ⊢
  cases hokCount : addLines context.ingestLinesOkCount projectId linesOk with
  | error e => simp [PushContext.incrementRequestCount, hokCount] at h
  | ok okCount =>
    cases hinvalidCount : addLines context.ingestLinesInvalidCount projectId linesInvalid with
    | error e => simp [PushContext.incrementRequestCount, hokCount, hinvalidCount] at h
    | ok invalidCount =>
      obtain ⟨⟨ok, hok⟩, invalid, hinvalid⟩ := hcontext p
      simp only [PushContext.incrementRequestCount, hokCount, hinvalidCount,
        PushContext.WholeLines]
      by_cases hproject : projectId = p
      · subst hproject
        exact ⟨⟨_, addLines_whole hokCount hok hm⟩, _, addLines_whole hinvalidCount hinvalid hn⟩
      · rw [addLines_get_of_ne hokCount hproject, addLines_get_of_ne hinvalidCount hproject]
        exact ⟨⟨ok, hok⟩, invalid, hinvalid⟩

theorem wholeLines_of_resume
    (h : PushPhase.resume R projectId batch context phase input = some (phase', context'))
    (hwhole : ∀ p, context.WholeLines p)
    (hbody : ∀ status json, phase = .reading status → input = .body (some json) →
      BodyReports R batch json) (p : Text) : context'.WholeLines p := by
  cases phase with
  | posting attempt =>
    cases input with
    | networkError =>
      simp only [PushPhase.resume, PushPhase.onNetworkError, Option.some.injEq] at h
      split_ifs at h <;> cases h <;> exact hwhole p
    | response status retryAfter =>
      simp only [PushPhase.resume, PushPhase.onResponse, Option.some.injEq] at h
      split at h
      · cases h
        exact hwhole p
      · split_ifs at h <;> cases h <;> exact hwhole p
    | slept => cases h
    | body json => cases h
  | sleeping attempt delay =>
    cases input <;> cases h
    exact hwhole p
  | reading status =>
    cases input with
    | body json =>
      cases h
      cases json with
      | none => exact hwhole p
      | some json =>
        have hreports := hbody status json rfl rfl
        exact wholeLines_of_readBody hwhole hreports.whole
          (hreports.readBody_ok (hwhole projectId) status) p
    | _ => cases h
  | ended result => cases input <;> cases h

theorem ingestLines_dropLines_of_ne {projectId' : Text} (hne : projectId ≠ projectId')
    (lines : ℕ) :
    (context.dropLines projectId lines).ingestLines projectId' =
      context.ingestLines projectId' := by
  simp only [PushContext.ingestLines, PushContext.dropLines,
    OrderedDict.get_set_of_ne _ _ (Ne.symm hne)]

theorem readBody_ingestLines_of_ne {status : ℕ} {json : Option Json} {projectId' : Text}
    (hne : projectId ≠ projectId') :
    (readBody R context projectId batch status json).1.ingestLines projectId' =
      context.ingestLines projectId' := by
  cases json with
  | none => exact ingestLines_dropLines_of_ne hne _
  | some json =>
    cases hok : json.get "linesOk" (.int 0) with
    | error e => simp [readBody, hok]
    | ok linesOk =>
      cases hinvalid : json.get "linesInvalid" (.int 0) with
      | error e => simp [readBody, hok, hinvalid]
      | ok linesInvalid =>
        simp only [readBody, hok, hinvalid]
        split
        · rfl
        · next okCount hokCount =>
          have hget := addLines_get_of_ne hokCount hne
          split
          · simp only [PushContext.ingestLines, hget]
            rfl
          · next invalidCount hinvalidCount =>
            simp only [PushContext.ingestLines, hget, addLines_get_of_ne hinvalidCount hne]
            rfl

def PushPhase.accounted (batch : List Line) : PushPhase → ℕ
  | .ended (.ok _) => batch.length
  | _ => 0

theorem ingestLines_of_resume
    (h : PushPhase.resume R projectId batch context phase input = some (phase', context'))
    (hwhole : context.WholeLines projectId)
    (hbody : ∀ status json, phase = .reading status → input = .body (some json) →
      BodyReports R batch json) (projectId' : Text) :
    context'.ingestLines projectId' = (context.ingestLines projectId').map
      (fun lines =>
        lines + if projectId = projectId' then (phase'.accounted batch : ℚ) else 0) := by
  have hsame : ∀ lines : Option ℚ, lines = lines.map
      (fun lines => lines + if projectId = projectId' then ((0 : ℕ) : ℚ) else 0) := by
    intro lines
    cases lines <;> simp
  have hdrop : ∀ context : PushContext,
      (context.dropLines projectId batch.length).ingestLines projectId' =
        (context.ingestLines projectId').map
          (fun lines => lines + if projectId = projectId' then (batch.length : ℚ) else 0) := by
    intro context
    by_cases hproject : projectId = projectId'
    · subst hproject
      simp only [if_true]
      exact ingestLines_dropLines _
    · simp only [if_neg hproject, add_zero]
      rw [ingestLines_dropLines_of_ne hproject, Option.map_id']
  cases phase with
  | posting attempt =>
    cases input with
    | networkError =>
      simp only [PushPhase.resume, PushPhase.onNetworkError, Option.some.injEq] at h
      split_ifs at h <;> cases h
      · exact hsame _
      · exact hdrop context
    | response s retryAfter =>
      simp only [PushPhase.resume, PushPhase.onResponse, Option.some.injEq] at h
      split at h
      · cases h
        exact hsame _
      · split_ifs at h <;> cases h
        · exact hsame _
        · exact hdrop (context.incrementRequestCount s)
        · exact hdrop (context.incrementRequestCount s)
        · exact hsame _
    | slept => cases h
    | body json => cases h
  | sleeping attempt delay =>
    cases input <;> cases h
    exact hsame _
  | reading s =>
    cases input with
    | body json =>
      cases h
      cases json with
      | none => exact hdrop (context.incrementRequestCount s)
      | some json =>
        have hreports := hbody s json rfl rfl
        have hok := hreports.readBody_ok hwhole s
        have hrounded := linesRounded_of_whole hwhole hreports.whole
        rw [hok, PushPhase.accounted]
        by_cases hproject : projectId = projectId'
        · subst hproject
          rw [readBody_eq_ok hok, hreports.reported, hrounded]
          cases context.ingestLines projectId <;> simp
        · simp only [if_neg hproject, add_zero]
          rw [readBody_ingestLines_of_ne hproject, Option.map_id']
    | _ => cases h
  | ended result => cases input <;> cases h

end Resume

end GcpMonitor.Metrics
