import GcpMonitor.Library.ExceptList
import GcpMonitor.Library.TransitionSystem
import GcpMonitor.Metrics.PushToDynatrace
import Mathlib.Data.Option.NAry
import Mathlib.Tactic.Ring

namespace GcpMonitor.Metrics

open Python TransitionSystem

variable {Line Payload : Type}

def PushContext.ingestLines (context : PushContext) (projectId : Text) : Option ℚ :=
  Option.map₂ (fun counted dropped => counted + dropped)
    (Option.map₂ (fun ok invalid => ok + invalid)
      ((context.ingestLinesOkCount.get projectId).getD (.int 0)).toRat
      ((context.ingestLinesInvalidCount.get projectId).getD (.int 0)).toRat)
    (some (((context.ingestLinesDroppedCount.get projectId).getD 0 : ℕ) : ℚ))

def linesOf (ingestResponseJson : Json) (key : String) : Option Number :=
  (ingestResponseJson.get key (.int 0) >>= Json.number).toOption

def linesReported (ingestResponseJson : Json) : Option ℚ :=
  Option.map₂ (fun linesOk linesInvalid => linesOk + linesInvalid)
    ((linesOf ingestResponseJson "linesOk").bind Number.toRat)
    ((linesOf ingestResponseJson "linesInvalid").bind Number.toRat)

/-- How far `total + lines` is off the exact sum. -/
def roundedOff (total lines : Number) : Option ℚ :=
  Option.map₂ (fun sum exact => sum - exact) ((total.add lines).toOption.bind Number.toRat)
    (Option.map₂ (fun p q => p + q) total.toRat lines.toRat)

def PushContext.linesRounded (context : PushContext) (projectId : Text)
    (ingestResponseJson : Json) : Option ℚ :=
  Option.map₂ (fun ok invalid => ok + invalid)
    ((linesOf ingestResponseJson "linesOk").bind
      (roundedOff ((context.ingestLinesOkCount.get projectId).getD (.int 0))))
    ((linesOf ingestResponseJson "linesInvalid").bind
      (roundedOff ((context.ingestLinesInvalidCount.get projectId).getD (.int 0))))

def ingestStatus (status : ℕ) : Bool := (200 ≤ status && status ≤ 299) || status = 400

def pushRun (R : PushRuntime Line Payload) (projectId : Text) (linesBatch : List Line)
    (context : PushContext) : System (PushPhase × PushContext) PushInput where
  init := (.start R linesBatch, context)
  step s input := PushPhase.resume R projectId linesBatch s.2 s.1 input

def ReportsAll (statuses : ℕ → Bool) (linesBatch : List Line) (s : PushPhase × PushContext)
    (input : PushInput) : Prop :=
  ∀ status json, s.1 = .reading status → input = .body (some json) → statuses status = true →
    linesReported json = some (linesBatch.length : ℚ)

/-- With a status that the API answers with, nothing is rounded off; with another one, the body
reports all lines, as far as they are not rounded off or up to. -/
def CountsAll (projectId : Text) (linesBatch : List Line) (s : PushPhase × PushContext)
    (input : PushInput) : Prop :=
  ∀ status json, s.1 = .reading status → input = .body (some json) →
    if ingestStatus status then s.2.linesRounded projectId json = some 0
    else Option.map₂ (fun lines rounded => lines + rounded) (linesReported json)
      (s.2.linesRounded projectId json) = some (linesBatch.length : ℚ)

inductive Accounts (projectId : Text) (linesBatch : List Line) (s : PushPhase × PushContext)
    (input : PushInput) (t : PushPhase × PushContext) : Prop
  | quiet (hend : t.1.hasEnded = false) (hbody : ∀ json, input ≠ .body (some json))
      (hlines : t.2.ingestLines projectId = s.2.ingestLines projectId)
  | raised (e : PyError) (hend : t.1 = .ended (.error e))
  | dropped (hend : t.1 = .ended (.ok ())) (hbody : ∀ json, input ≠ .body (some json))
      (hlines : t.2.ingestLines projectId =
        (s.2.ingestLines projectId).map (fun lines => lines + (linesBatch.length : ℚ)))
  | counted (status : ℕ) (json : Json) (hend : t.1 = .ended (.ok ()))
      (hphase : s.1 = .reading status) (hinput : input = .body (some json))
      (hlines : t.2.ingestLines projectId =
        Option.map₂ (fun before lines => before + lines) (s.2.ingestLines projectId)
          (Option.map₂ (fun lines rounded => lines + rounded) (linesReported json)
            (s.2.linesRounded projectId json)))

section

variable {R : PushRuntime Line Payload} {projectId : Text} {linesBatch : List Line}
  {context context' : PushContext}

theorem ingestLines_dropLines (lines : ℕ) :
    (context.dropLines projectId lines).ingestLines projectId =
      (context.ingestLines projectId).map (fun q => q + (lines : ℚ)) := by
  simp only [PushContext.ingestLines, PushContext.dropLines, OrderedDict.get_set_self,
    Option.getD_some, Nat.cast_add]
  cases ((context.ingestLinesOkCount.get projectId).getD (.int 0)).toRat with
  | none => rfl
  | some ok =>
    cases ((context.ingestLinesInvalidCount.get projectId).getD (.int 0)).toRat with
    | none => rfl
    | some invalid =>
      simp only [Option.map₂_some_some, Option.map_some, Option.some.injEq]
      ring

theorem toRat_add {x y : PyFloat} {r : ℚ} (h : (x.add y).toRat = some r) :
    (∃ p, x.toRat = some p) ∧ ∃ q, y.toRat = some q := by
  cases x with
  | finite p =>
    cases y with
    | finite q => exact ⟨⟨p, rfl⟩, q, rfl⟩
    | _ => cases h
  | infinity a =>
    cases y with
    | infinity b => cases a <;> cases b <;> cases h
    | _ => cases h
  | nan => cases y <;> cases h

theorem finite_of_toFloat {x : Number} {y : PyFloat} {q : ℚ} (h : x.toFloat = .ok y)
    (hy : y.toRat = some q) : ∃ p, x.toRat = some p := by
  cases x with
  | int n => exact ⟨n, rfl⟩
  | float x =>
    cases h
    exact ⟨q, hy⟩

theorem finite_of_add {total lines sum : Number} {r : ℚ} (h : total.add lines = .ok sum)
    (hsum : sum.toRat = some r) : (∃ p, total.toRat = some p) ∧ ∃ q, lines.toRat = some q := by
  have hfloats : (do return Number.float ((← total.toFloat).add (← lines.toFloat)) :
      Except PyError Number) = .ok sum →
        (∃ p, total.toRat = some p) ∧ ∃ q, lines.toRat = some q := by
    intro h
    obtain ⟨x, hx, h⟩ := ExceptList.bind_eq_ok_iff.mp h
    obtain ⟨y, hy, h⟩ := ExceptList.bind_eq_ok_iff.mp h
    cases h
    obtain ⟨⟨p, hp⟩, q, hq⟩ := toRat_add hsum
    exact ⟨finite_of_toFloat hx hp, finite_of_toFloat hy hq⟩
  cases total with
  | int m =>
    cases lines with
    | int n => exact ⟨⟨m, rfl⟩, n, rfl⟩
    | float y => exact hfloats h
  | float x => exact hfloats h

theorem addLines_eq_ok {count count' : OrderedDict Text Number} {lines : Json}
    (h : addLines count projectId lines = .ok count') :
    ∃ n, lines.number = .ok n ∧ ((count'.get projectId).getD (.int 0)).toRat =
      Option.map₂ (fun p q => p + q)
        (Option.map₂ (fun p q => p + q) ((count.get projectId).getD (.int 0)).toRat n.toRat)
        (roundedOff ((count.get projectId).getD (.int 0)) n) := by
  unfold addLines at h
  obtain ⟨sum, hsum, rfl⟩ := ExceptList.map_eq_ok_iff.mp h
  obtain ⟨n, hn, hadd⟩ := ExceptList.bind_eq_ok_iff.mp hsum
  refine ⟨n, hn, ?_⟩
  rw [OrderedDict.get_set_self, Option.getD_some, roundedOff, hadd]
  cases hfinite : sum.toRat with
  | none => simp [Except.toOption, hfinite]
  | some r =>
    obtain ⟨⟨p, hp⟩, q, hq⟩ := finite_of_add hadd hfinite
    simp [Except.toOption, hfinite, hp, hq]

theorem map₂_add_add (ok invalid linesOk linesInvalid roundedOk roundedInvalid : Option ℚ)
    (dropped : ℚ) :
    Option.map₂ (fun p q => p + q)
        (Option.map₂ (fun p q => p + q)
          (Option.map₂ (fun p q => p + q) (Option.map₂ (fun p q => p + q) ok linesOk) roundedOk)
          (Option.map₂ (fun p q => p + q) (Option.map₂ (fun p q => p + q) invalid linesInvalid)
            roundedInvalid)) (some dropped) =
      Option.map₂ (fun p q => p + q)
        (Option.map₂ (fun p q => p + q) (Option.map₂ (fun p q => p + q) ok invalid) (some dropped))
        (Option.map₂ (fun p q => p + q) (Option.map₂ (fun p q => p + q) linesOk linesInvalid)
          (Option.map₂ (fun p q => p + q) roundedOk roundedInvalid)) := by
  cases ok <;> cases invalid <;> cases linesOk <;> cases linesInvalid <;> cases roundedOk <;>
    cases roundedInvalid <;> try rfl
  simp only [Option.map₂_some_some, Option.some.injEq]
  ring

theorem readBody_eq_ok {status : ℕ} {json : Json}
    (h : (readBody R context projectId linesBatch status (some json)).2 = .ok ()) :
    (readBody R context projectId linesBatch status (some json)).1.ingestLines projectId =
      Option.map₂ (fun before lines => before + lines) (context.ingestLines projectId)
        (Option.map₂ (fun lines rounded => lines + rounded) (linesReported json)
          (context.linesRounded projectId json)) := by
  cases hok : json.get "linesOk" (.int 0) with
  | error e => simp [readBody, hok] at h
  | ok linesOk =>
    cases hinvalid : json.get "linesInvalid" (.int 0) with
    | error e => simp [readBody, hok, hinvalid] at h
    | ok linesInvalid =>
      simp only [readBody, hok, hinvalid] at h ⊢
      cases hokCount : addLines context.ingestLinesOkCount projectId linesOk with
      | error e => simp [PushContext.incrementRequestCount, hokCount] at h
      | ok okCount =>
        cases hinvalidCount : addLines context.ingestLinesInvalidCount projectId linesInvalid with
        | error e => simp [PushContext.incrementRequestCount, hokCount, hinvalidCount] at h
        | ok invalidCount =>
          obtain ⟨ok, hlinesOk, hokRat⟩ := addLines_eq_ok hokCount
          obtain ⟨invalid, hlinesInvalid, hinvalidRat⟩ := addLines_eq_ok hinvalidCount
          have hreadOk : linesOf json "linesOk" = some ok := by
            rw [linesOf, hok]
            exact congrArg Except.toOption hlinesOk
          have hreadInvalid : linesOf json "linesInvalid" = some invalid := by
            rw [linesOf, hinvalid]
            exact congrArg Except.toOption hlinesInvalid
          simp only [PushContext.incrementRequestCount, hokCount, hinvalidCount, linesReported,
            PushContext.linesRounded, hreadOk, hreadInvalid, PushContext.ingestLines,
            Option.bind_some]
          rw [hokRat, hinvalidRat]
          exact map₂_add_add _ _ _ _ _ _ _

theorem accounts_of_resume {phase phase' : PushPhase} {input : PushInput}
    (h : PushPhase.resume R projectId linesBatch context phase input = some (phase', context')) :
    Accounts projectId linesBatch (phase, context) input (phase', context') := by
  cases phase with
  | posting attempt =>
    cases input with
    | networkError =>
      simp only [PushPhase.resume, PushPhase.onNetworkError, Option.some.injEq] at h
      split_ifs at h <;> cases h
      · exact .quiet rfl (by simp) rfl
      · exact .dropped rfl (by simp) (ingestLines_dropLines _)
    | response status retryAfter =>
      simp only [PushPhase.resume, PushPhase.onResponse, Option.some.injEq] at h
      split at h
      · next connectivity error _ =>
        cases h
        exact .raised error rfl
      · split_ifs at h <;> cases h
        · exact .quiet rfl (by simp) rfl
        · exact .dropped rfl (by simp) (ingestLines_dropLines _)
        · exact .dropped rfl (by simp) (ingestLines_dropLines _)
        · exact .quiet rfl (by simp) rfl
    | slept => cases h
    | body json => cases h
  | sleeping attempt delay =>
    cases input <;> cases h
    exact .quiet rfl (by simp) rfl
  | reading status =>
    cases input with
    | body json =>
      cases json with
      | none =>
        cases h
        exact .dropped rfl (by simp) (ingestLines_dropLines _)
      | some json =>
        cases hresult : (readBody R context projectId linesBatch status (some json)).2 with
        | error e =>
          simp only [PushPhase.resume, hresult, Option.some.injEq] at h
          cases h
          exact .raised e rfl
        | ok =>
          cases h
          have hended : PushPhase.ended
              (readBody R context projectId linesBatch status (some json)).2 = .ended (.ok ()) :=
            congrArg PushPhase.ended hresult
          exact .counted status json hended rfl rfl (readBody_eq_ok hresult)
    | _ => cases h
  | ended result => cases input <;> cases h

theorem hasEnded_of_resume {phase : PushPhase} {input : PushInput} {next : PushPhase × PushContext}
    (h : PushPhase.resume R projectId linesBatch context phase input = some next) :
    phase.hasEnded = false := by
  cases phase with
  | ended result => cases input <;> cases h
  | _ => rfl

theorem map₂_add_eq_iff {before : ℚ} {lines : Option ℚ} {n : ℚ} :
    Option.map₂ (fun p q => p + q) (some before) lines = some (before + n) ↔ lines = some n := by
  cases lines <;> simp

theorem countsAll_counted {phase : PushPhase} {status : ℕ} {json : Json}
    (hphase : phase = .reading status)
    (hreports : ReportsAll ingestStatus linesBatch (phase, context) (.body (some json))) :
    CountsAll projectId linesBatch (phase, context) (.body (some json)) ↔
      Option.map₂ (fun lines rounded => lines + rounded) (linesReported json)
        (context.linesRounded projectId json) = some (linesBatch.length : ℚ) := by
  subst hphase
  have hthis : CountsAll projectId linesBatch (.reading status, context) (.body (some json)) ↔
      if ingestStatus status then context.linesRounded projectId json = some 0
      else Option.map₂ (fun lines rounded => lines + rounded) (linesReported json)
        (context.linesRounded projectId json) = some (linesBatch.length : ℚ) := by
    constructor
    · intro h
      exact h status json rfl rfl
    · rintro h status' json' hreading hinput
      cases hreading
      cases hinput
      exact h
  rw [hthis]
  split_ifs with hstatus
  · rw [hreports status json rfl rfl hstatus]
    cases context.linesRounded projectId json <;> simp
  · rfl

structure Accounted (projectId : Text) (linesBatch : List Line) (before : ℚ)
    (s : PushPhase × PushContext) (condition : Prop) : Prop where
  running : s.1.hasEnded = false → s.2.ingestLines projectId = some before ∧ condition
  returned : s.1 = .ended (.ok ()) →
    (s.2.ingestLines projectId = some (before + linesBatch.length) ↔ condition)

theorem accounted_of_run {before : ℚ} (hbefore : context.ingestLines projectId = some before) :
    ∀ trace s, (pushRun R projectId linesBatch context).run trace = some s →
      (pushRun R projectId linesBatch context).Along (ReportsAll ingestStatus linesBatch) trace →
        Accounted projectId linesBatch before s ((pushRun R projectId linesBatch context).Along
          (CountsAll projectId linesBatch) trace) := by
  apply (pushRun R projectId linesBatch context).trace_invariant
    (fun trace s =>
      (pushRun R projectId linesBatch context).Along (ReportsAll ingestStatus linesBatch) trace →
        Accounted projectId linesBatch before s ((pushRun R projectId linesBatch context).Along
          (CountsAll projectId linesBatch) trace))
  · intro _
    constructor
    · intro _
      exact ⟨hbefore, System.along_nil _⟩
    · intro hended
      simp only [pushRun, PushPhase.start] at hended
      split at hended <;> cases hended
  · rintro trace ⟨phase, context₁⟩ input ⟨phase', context₂⟩ hrun ih hstep hreports
    obtain ⟨hreports, hlast⟩ := (System.along_snoc _).mp hreports
    obtain ⟨hlines, halong⟩ := (ih hreports).running (hasEnded_of_resume hstep)
    -- all that is left of the condition is what it says of the last step
    have hcondition : (pushRun R projectId linesBatch context).Along
        (CountsAll projectId linesBatch) (trace ++ [input]) ↔
          CountsAll projectId linesBatch (phase, context₁) input := by
      rw [System.along_snoc]
      constructor
      · rintro ⟨-, h⟩
        exact h _ hrun
      · intro h
        refine ⟨halong, ?_⟩
        intro s hs
        rw [hrun] at hs
        cases hs
        exact h
    have hvacuous : (∀ json, input ≠ .body (some json)) →
        CountsAll projectId linesBatch (phase, context₁) input := by
      intro hbody _ json _ hinput
      exact absurd hinput (hbody json)
    rw [hcondition]
    cases accounts_of_resume hstep with
    | quiet hend hbody hsame =>
      constructor
      · intro _
        exact ⟨hsame.trans hlines, hvacuous hbody⟩
      · rintro rfl
        cases hend
    | raised e hend =>
      subst hend
      exact ⟨by simp [PushPhase.hasEnded], by simp⟩
    | dropped hend hbody hdropped =>
      subst hend
      refine ⟨by simp [PushPhase.hasEnded], ?_⟩
      intro _
      refine iff_of_true ?_ (hvacuous hbody)
      rw [hdropped, hlines]
      rfl
    | counted status json hend hphase hinput hcounted =>
      subst hend hinput
      refine ⟨by simp [PushPhase.hasEnded], ?_⟩
      intro _
      rw [hcounted, hlines, map₂_add_eq_iff, countsAll_counted hphase (hlast _ hrun)]

theorem counters_of_run : ∀ trace s, (pushRun R projectId linesBatch context).run trace = some s →
    s.1.hasEnded = false → s.2.ingestLinesOkCount = context.ingestLinesOkCount ∧
      s.2.ingestLinesInvalidCount = context.ingestLinesInvalidCount := by
  apply (pushRun R projectId linesBatch context).trace_invariant
    (fun _ s => s.1.hasEnded = false → s.2.ingestLinesOkCount = context.ingestLinesOkCount ∧
      s.2.ingestLinesInvalidCount = context.ingestLinesInvalidCount)
  · intro _
    exact ⟨rfl, rfl⟩
  · rintro trace ⟨phase, context₁⟩ input ⟨phase', context₂⟩ - ih hstep hend
    obtain ⟨hok, hinvalid⟩ := ih (hasEnded_of_resume hstep)
    cases phase with
    | posting attempt =>
      cases input with
      | networkError =>
        simp only [pushRun, PushPhase.resume, PushPhase.onNetworkError, Option.some.injEq] at hstep
        split_ifs at hstep <;> cases hstep
        · exact ⟨hok, hinvalid⟩
        · cases hend
      | response status retryAfter =>
        simp only [pushRun, PushPhase.resume, PushPhase.onResponse, Option.some.injEq] at hstep
        split at hstep
        · cases hstep
          cases hend
        · split_ifs at hstep <;> cases hstep
          · exact ⟨hok, hinvalid⟩
          · cases hend
          · cases hend
          · exact ⟨hok, hinvalid⟩
      | slept => cases hstep
      | body json => cases hstep
    | sleeping attempt delay =>
      cases input <;> cases hstep
      exact ⟨hok, hinvalid⟩
    | reading status =>
      cases input <;> cases hstep
      cases hend
    | ended result => cases input <;> cases hstep

def PushContext.WholeLines (context : PushContext) (projectId : Text) : Prop :=
  (∃ n, (context.ingestLinesOkCount.get projectId).getD (.int 0) = .int n) ∧
    ∃ n, (context.ingestLinesInvalidCount.get projectId).getD (.int 0) = .int n

def ReportsWhole (ingestResponseJson : Json) : Prop :=
  (∃ n, linesOf ingestResponseJson "linesOk" = some (.int n)) ∧
    ∃ n, linesOf ingestResponseJson "linesInvalid" = some (.int n)

theorem roundedOff_int (m n : ℤ) : roundedOff (.int m) (.int n) = some 0 := by
  simp [roundedOff, Number.add, Number.toRat, Except.toOption]

theorem linesRounded_of_whole {json : Json} (hcontext : context.WholeLines projectId)
    (hjson : ReportsWhole json) : context.linesRounded projectId json = some 0 := by
  obtain ⟨⟨ok, hok⟩, invalid, hinvalid⟩ := hcontext
  obtain ⟨⟨linesOk, hlinesOk⟩, linesInvalid, hlinesInvalid⟩ := hjson
  simp [PushContext.linesRounded, hok, hinvalid, hlinesOk, hlinesInvalid, roundedOff_int]

theorem along_countsAll_iff (hcontext : context.WholeLines projectId) {trace : List PushInput}
    (hjson : ∀ json, .body (some json) ∈ trace → ReportsWhole json) :
    (pushRun R projectId linesBatch context).Along (CountsAll projectId linesBatch) trace ↔
      (pushRun R projectId linesBatch context).Along
        (ReportsAll (fun status => !ingestStatus status) linesBatch) trace := by
  have hstep : ∀ before input rest s, trace = before ++ input :: rest →
      (pushRun R projectId linesBatch context).run before = some s →
        (CountsAll projectId linesBatch s input ↔
          ReportsAll (fun status => !ingestStatus status) linesBatch s input) := by
    rintro before input rest ⟨phase, context₁⟩ htrace hrun
    refine forall_congr' fun status => forall_congr' fun json => ?_
    refine forall_congr' fun hphase => forall_congr' fun hinput => ?_
    subst hinput hphase
    obtain ⟨hok, hinvalid⟩ := counters_of_run before _ hrun rfl
    have hwhole : context₁.WholeLines projectId := by
      rw [PushContext.WholeLines, hok, hinvalid]
      exact hcontext
    have hrounded := linesRounded_of_whole hwhole (hjson json (by rw [htrace]; simp))
    simp only [hrounded]
    cases ingestStatus status with
    | true => simp
    | false => cases linesReported json <;> simp
  constructor
  · intro h before input rest s htrace hrun
    exact (hstep before input rest s htrace hrun).mp (h before input rest s htrace hrun)
  · intro h before input rest s htrace hrun
    exact (hstep before input rest s htrace hrun).mpr (h before input rest s htrace hrun)

theorem every_line_accounted_iff (R : PushRuntime Line Payload) (projectId : Text)
    (linesBatch : List Line) (context : PushContext) {before : ℚ}
    (hbefore : context.ingestLines projectId = some before) {trace : List PushInput}
    {context' : PushContext}
    (hrun : (pushRun R projectId linesBatch context).run trace =
      some (.ended (.ok ()), context'))
    (hreports : (pushRun R projectId linesBatch context).Along
      (ReportsAll ingestStatus linesBatch) trace) :
    context'.ingestLines projectId = some (before + linesBatch.length) ↔
      (pushRun R projectId linesBatch context).Along (CountsAll projectId linesBatch) trace := by
  exact (accounted_of_run hbefore trace _ hrun hreports).returned rfl

end

def ingestRuntime : PushRuntime ℕ Unit where
  payload := fun _ => .ok ()
  float := fun _ => none
  printable := fun _ _ => true
  dynatraceUrl := "https://abc12345.live.dynatrace.com".toList

def answered (status : ℕ) (json : Json) : List PushInput :=
  [.response status none, .body (some json)]

theorem along_answered {status : ℕ} {json : Json} {statuses : ℕ → Bool}
    (h : statuses status = true → linesReported json = some 2)
    (hreading : PushPhase.onResponse ingestRuntime [] [10, 20] .initial 0 status none =
      (.reading status, .initial)) :
    (pushRun ingestRuntime [] [10, 20] .initial).Along (ReportsAll statuses [10, 20])
      (answered status json) := by
  have hsplit : answered status json = [.response status none] ++ [.body (some json)] := rfl
  rw [hsplit, System.along_snoc, System.along_singleton]
  constructor
  · rintro _ _ - hinput
    cases hinput
  · rintro s hs status' json' hphase hinput hstatus
    have hs' : some (PushPhase.onResponse ingestRuntime [] [10, 20] .initial 0 status none) =
      some s := hs
    rw [hreading] at hs'
    cases hs'
    cases hphase
    cases hinput
    exact h hstatus

def notImplementedBody : Json := .map [("error".toList, .map [("code".toList, .int 501)])]

theorem lines_of_unexpected_status_are_lost :
    ¬ ∀ (R : PushRuntime ℕ Unit) (projectId : Text) (linesBatch : List ℕ) (context : PushContext)
      (before : ℚ) (trace : List PushInput) (context' : PushContext), linesBatch ≠ [] →
      context.ingestLines projectId = some before →
        (pushRun R projectId linesBatch context).run trace = some (.ended (.ok ()), context') →
          (pushRun R projectId linesBatch context).Along (ReportsAll ingestStatus linesBatch)
              trace →
            context'.ingestLines projectId = some (before + linesBatch.length) := by
  intro hclaim
  have hrun : ∃ context', (pushRun ingestRuntime [] [10, 20] .initial).run
      (answered 501 notImplementedBody) = some (.ended (.ok ()), context') ∧
        context'.ingestLines [] = some 0 :=
    ⟨_, rfl, by decide +kernel⟩
  obtain ⟨context', hrun, hlines⟩ := hrun
  have hgrown := hclaim ingestRuntime [] [10, 20] .initial 0 _ context' (by decide)
    (by decide +kernel) hrun (along_answered nofun rfl)
  rw [hlines] at hgrown
  revert hgrown
  decide +kernel

theorem every_line_accounted_accepted :
    ∃ context', (pushRun ingestRuntime [] [10, 20] .initial).run (answered 202
        (.map [("linesOk".toList, .int 1), ("linesInvalid".toList, .int 1)])) =
      some (.ended (.ok ()), context') ∧ context'.ingestLines [] = some (0 + 2) := by
  have hrun : ∃ context', (pushRun ingestRuntime [] [10, 20] .initial).run (answered 202
      (.map [("linesOk".toList, .int 1), ("linesInvalid".toList, .int 1)])) =
        some (.ended (.ok ()), context') :=
    ⟨_, rfl⟩
  obtain ⟨context', hrun⟩ := hrun
  refine ⟨context', hrun, ?_⟩
  have hbefore : PushContext.initial.ingestLines [] = some 0 := by decide +kernel
  have haccounted := every_line_accounted_iff ingestRuntime [] [10, 20] .initial hbefore hrun
    (along_answered (fun _ => by decide +kernel) rfl)
  refine haccounted.mpr ((along_countsAll_iff ⟨⟨0, rfl⟩, 0, rfl⟩ ?_).mpr ?_)
  · intro json hmem
    simp only [answered, List.mem_cons, reduceCtorEq, PushInput.body.injEq, Option.some.injEq,
      List.not_mem_nil, or_false, false_or] at hmem
    rw [hmem]
    exact ⟨⟨1, rfl⟩, 1, rfl⟩
  · exact along_answered nofun rfl

end GcpMonitor.Metrics
