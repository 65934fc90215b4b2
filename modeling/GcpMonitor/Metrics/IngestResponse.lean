import GcpMonitor.Library.ExceptList
import GcpMonitor.Metrics.PushToDynatrace

namespace GcpMonitor.Metrics

open Python ExceptList

variable {Line Payload : Type}

def fits : Number → Bool
  | .int n => fitsFloat n
  | .float _ => true

/-- What can be added to a total: an `int` that meets a `float` must not be too large for one. -/
def addable (total : Number) (lines : Json) : Bool :=
  match total, lines.number with
  | .int _, .ok (.int _) => true
  | total, .ok lines => fits total && fits lines
  | _, .error _ => false

def readableWarning : Json → Bool
  | .map entries =>
    match (entries.lookup "warning".toList).getD (.str []) with
    | .str _ => true
    | _ => false
  | _ => false

def readableWarnings : Json → Bool
  | .map entries =>
    entries.isEmpty ||
      match (entries.lookup "warningLines".toList).getD (.list []) with
      | .list items => items.all readableWarning
      | .str s => s.isEmpty
      | .map entries => entries.isEmpty
      | _ => false
  | _ => true

def readableLine (R : PushRuntime Line Payload) (linesBatch : List Line) (number : ℤ)
    (reason : Json) : Bool :=
  number ≤ 0 || linesBatch[(number - 1).toNat]?.any (fun line => R.printable line reason)

/-- A `float` is no index, so that it must not be above zero as far as a `float` one below it can
tell. -/
def readableInvalidLine (R : PushRuntime Line Payload) (linesBatch : List Line) : Json → Bool
  | .map entries =>
    let reason := (entries.lookup "error".toList).getD (.str [])
    match (entries.lookup "line".toList).getD (.int 0) with
    | .bool b => readableLine R linesBatch (if b then 1 else 0) reason
    | .int n => readableLine R linesBatch n reason
    | .float x => !x.exceeds (1 / 2 ^ 54)
    | _ => false
  | _ => false

def readableError (R : PushRuntime Line Payload) (linesBatch : List Line) : Json → Bool
  | .null => true
  | .map entries =>
    match (entries.lookup "invalidLines".toList).getD (.list []) with
    | .list items => items.all (readableInvalidLine R linesBatch)
    | invalidLines => !invalidLines.truthy
  | _ => false

def readableReport (R : PushRuntime Line Payload) (linesBatch : List Line) : Json → Bool
  | .map entries =>
    readableWarnings ((entries.lookup "warnings".toList).getD .null) &&
      readableError R linesBatch ((entries.lookup "error".toList).getD .null)
  | _ => false

def readableBody (R : PushRuntime Line Payload) (context : PushContext) (projectId : Text)
    (linesBatch : List Line) : Json → Bool
  | .map entries =>
    addable ((context.ingestLinesOkCount.get projectId).getD (.int 0))
        ((entries.lookup "linesOk".toList).getD (.int 0)) &&
      addable ((context.ingestLinesInvalidCount.get projectId).getD (.int 0))
        ((entries.lookup "linesInvalid".toList).getD (.int 0)) &&
      readableReport R linesBatch (.map entries)
  | _ => false

theorem readableBody_congr {R : PushRuntime Line Payload} {context context' : PushContext}
    (hok : context'.ingestLinesOkCount = context.ingestLinesOkCount)
    (hinvalid : context'.ingestLinesInvalidCount = context.ingestLinesInvalidCount)
    (projectId : Text) (linesBatch : List Line) (json : Json) :
    readableBody R context' projectId linesBatch json =
      readableBody R context projectId linesBatch json := by
  cases json with
  | map entries => rw [readableBody, hok, hinvalid, readableBody]
  | _ => rfl

theorem isOk_toFloat (x : Number) : x.toFloat.isOk = fits x := by
  cases x with
  | int n =>
    rw [Number.toFloat, PyFloat.ofInt, fits]
    cases fitsFloat n <;> rfl
  | float x => rfl

theorem isOk_add (total : Number) (lines : Json) :
    (lines.number >>= total.add).isOk = addable total lines := by
  have hfloats : ∀ x y : Number, (do
      return Number.float ((← x.toFloat).add (← y.toFloat)) : Except PyError Number).isOk =
        (fits x && fits y) := by
    intro x y
    rw [← isOk_toFloat, ← isOk_toFloat]
    cases x.toFloat with
    | error e => rfl
    | ok p => cases y.toFloat <;> rfl
  unfold addable
  cases lines.number with
  | error e => cases total <;> rfl
  | ok lines =>
    cases total with
    | int m =>
      cases lines with
      | int n => rfl
      | float y => exact hfloats (.int m) (.float y)
    | float x => exact hfloats (.float x) lines

theorem isOk_addLines (count : OrderedDict Text Number) (projectId : Text) (lines : Json) :
    (addLines count projectId lines).isOk =
      addable ((count.get projectId).getD (.int 0)) lines := by
  rw [addLines, ← isOk_add]
  cases lines.number >>= ((count.get projectId).getD (.int 0)).add <;> rfl

def keepsWarning (warning : Json) : Except PyError Bool := do
  let text ← warning.get "warning" (.str [])
  return !(← text.endsWith monotonicCountersWarning)

theorem isOk_keepsWarning (warning : Json) :
    (keepsWarning warning).isOk = readableWarning warning := by
  cases warning with
  | map entries =>
    have hget : keepsWarning (.map entries) =
        (((entries.lookup "warning".toList).getD (.str [])).endsWith monotonicCountersWarning >>=
          fun ends => pure !ends) := rfl
    rw [hget, readableWarning]
    cases (entries.lookup "warning".toList).getD (.str []) <;> rfl
  | _ => rfl

theorem isOk_filteredWarnings (entries : List (Text × Json)) :
    (filteredWarnings (.map entries)).isOk =
      readableWarnings ((entries.lookup "warnings".toList).getD .null) := by
  have hget : filteredWarnings (.map entries) =
      (match (entries.lookup "warnings".toList).getD .null with
      | .map entries =>
        if entries.isEmpty then pure []
        else ((entries.lookup "warningLines".toList).getD (.list [])).iter >>=
          fun warnings => warnings.filterM keepsWarning
      | _ => pure []) := rfl
  rw [hget]
  cases (entries.lookup "warnings".toList).getD .null with
  | map entries =>
    rw [readableWarnings]
    cases entries with
    | nil => rfl
    | cons entry rest =>
      simp only [List.isEmpty_cons, Bool.false_eq_true, if_false, Bool.false_or]
      cases (List.lookup "warningLines".toList (entry :: rest)).getD (.list []) with
      | list items =>
        refine isOk_filterM.trans ?_
        simp only [isOk_keepsWarning]
      | str s =>
        refine isOk_filterM.trans ?_
        simp only [isOk_keepsWarning]
        cases s <;> rfl
      | map entries =>
        refine isOk_filterM.trans ?_
        simp only [isOk_keepsWarning]
        cases entries <;> rfl
      | _ => rfl
  | _ => rfl

section

variable {R : PushRuntime Line Payload} {linesBatch : List Line}

def logIndexed (R : PushRuntime Line Payload) (linesBatch : List Line) (reason : Json)
    (lineIndex : Number) : Except PyError Unit :=
  if lineIndex.exceeds (-1) then
    lineIndex.item linesBatch >>= fun line =>
      if R.printable line reason then .ok () else .error (.valueError none)
  else pure ()

theorem isOk_logIndexed_int (reason : Json) (n : ℤ) :
    (logIndexed R linesBatch reason (.int (-1 + n))).isOk =
      readableLine R linesBatch n reason := by
  rw [logIndexed, readableLine]
  by_cases hn : n ≤ 0
  · have hexceeds : ¬ (Number.int (-1 + n)).exceeds (-1) = true := by
      simp only [Number.exceeds, decide_eq_true_eq]
      omega
    rw [if_neg hexceeds, decide_eq_true hn]
    rfl
  · have hexceeds : (Number.int (-1 + n)).exceeds (-1) = true := by
      simp only [Number.exceeds, decide_eq_true_eq]
      omega
    have hindex : -1 + n = n - 1 := by omega
    rw [if_pos hexceeds, decide_eq_false hn, Bool.false_or, Number.item, hindex]
    cases linesBatch[(n - 1).toNat]? with
    | none => rfl
    | some line =>
      change (if R.printable line reason = true then Except.ok ()
        else .error (.valueError none) : Except PyError Unit).isOk = R.printable line reason
      cases R.printable line reason <;> rfl

theorem isOk_logIndexed_float (reason : Json) (x : PyFloat) :
    (logIndexed R linesBatch reason (.float x)).isOk = !x.exceeds (-1) := by
  rw [logIndexed]
  change (if x.exceeds (-1) = true then .error .typeError else pure () : Except PyError Unit).isOk =
    _
  cases x.exceeds (-1) <;> rfl

theorem isOk_logInvalidLine (invalidLine : Json) :
    (logInvalidLine R linesBatch invalidLine).isOk =
      readableInvalidLine R linesBatch invalidLine := by
  cases invalidLine with
  | map entries =>
    have hget : logInvalidLine R linesBatch (.map entries) =
        (((entries.lookup "line".toList).getD (.int 0)).number >>= fun line =>
          (Number.int (-1)).add line >>=
            logIndexed R linesBatch ((entries.lookup "error".toList).getD (.str []))) := rfl
    rw [hget, readableInvalidLine]
    cases (entries.lookup "line".toList).getD (.int 0) with
    | bool b => exact isOk_logIndexed_int _ _
    | int n => exact isOk_logIndexed_int _ n
    | float x =>
      have hfits : PyFloat.ofInt (-1) = .ok (.finite (-1)) := by decide +kernel
      have hadd : (Number.int (-1)).add (.float x) =
          .ok (.float (PyFloat.add (.finite (-1)) x)) := by
        rw [Number.add, Number.toFloat, hfits]
        · rfl
        · simp
      change ((Number.int (-1)).add (.float x) >>= logIndexed R linesBatch _).isOk = _
      rw [hadd]
      refine (isOk_logIndexed_float _ _).trans ?_
      rw [PyFloat.exceeds_neg_one_add]
    | _ => rfl
  | _ => rfl

end

theorem isOk_forM_iter {value : Json} {e : PyError} (h : value.iter = .error e)
    (f : Json → Except PyError PUnit) :
    (if value.truthy then value.iter >>= fun items => items.forM f else pure ()).isOk =
      !value.truthy := by
  rw [h]
  cases value.truthy <;> rfl

theorem isOk_logInvalidLines (R : PushRuntime Line Payload) (linesBatch : List Line)
    (entries : List (Text × Json)) :
    (logInvalidLines R (.map entries) linesBatch).isOk =
      readableError R linesBatch ((entries.lookup "error".toList).getD .null) := by
  have herror : (Json.map entries).get "error" .null =
      pure ((entries.lookup "error".toList).getD .null) := rfl
  rw [logInvalidLines, herror, pure_bind]
  cases (entries.lookup "error".toList).getD .null with
  | map entries =>
    have hlines : (Json.map entries).get "invalidLines" (.list []) =
        .ok ((entries.lookup "invalidLines".toList).getD (.list [])) := rfl
    simp only [hlines, readableError]
    cases (entries.lookup "invalidLines".toList).getD (.list []) with
    | list items =>
      cases items with
      | nil => rfl
      | cons item rest =>
        refine isOk_forM.trans ?_
        simp only [isOk_logInvalidLine]
    | str s =>
      cases s <;> rfl
    | map entries =>
      cases entries with
      | nil => rfl
      | cons entry rest => rfl
    | bool b => exact isOk_forM_iter rfl _
    | int n => exact isOk_forM_iter rfl _
    | float x => exact isOk_forM_iter rfl _
    | null => rfl
  | _ => rfl

theorem readBody_map (R : PushRuntime Line Payload) (context : PushContext) (projectId : Text)
    (linesBatch : List Line) (status : ℕ) (entries : List (Text × Json)) :
    (readBody R context projectId linesBatch status (some (.map entries))).2.isOk =
        readableBody R context projectId linesBatch (.map entries) ∧
      (readBody R context projectId linesBatch status (some (.map entries))).1.requestCount =
        (context.incrementRequestCount status).requestCount := by
  have hok : (Json.map entries).get "linesOk" (.int 0) =
      .ok ((entries.lookup "linesOk".toList).getD (.int 0)) := rfl
  have hinvalid : (Json.map entries).get "linesInvalid" (.int 0) =
      .ok ((entries.lookup "linesInvalid".toList).getD (.int 0)) := rfl
  simp only [readBody, hok, hinvalid, readableBody, readableReport]
  rw [← isOk_addLines, ← isOk_addLines, ← isOk_filteredWarnings, ← isOk_logInvalidLines]
  simp only [PushContext.incrementRequestCount]
  cases addLines context.ingestLinesOkCount projectId
      ((entries.lookup "linesOk".toList).getD (.int 0)) with
  | error e => exact ⟨rfl, rfl⟩
  | ok okCount =>
    cases addLines context.ingestLinesInvalidCount projectId
        ((entries.lookup "linesInvalid".toList).getD (.int 0)) with
    | error e => exact ⟨rfl, rfl⟩
    | ok invalidCount =>
      refine ⟨?_, rfl⟩
      cases filteredWarnings (.map entries) <;> rfl

theorem isOk_readBody (R : PushRuntime Line Payload) (context : PushContext) (projectId : Text)
    (linesBatch : List Line) (status : ℕ) (json : Json) :
    (readBody R context projectId linesBatch status (some json)).2.isOk =
      readableBody R context projectId linesBatch json := by
  cases json with
  | map entries => exact (readBody_map R context projectId linesBatch status entries).1
  | _ => rfl

theorem requestCount_readBody {R : PushRuntime Line Payload} {context : PushContext}
    {projectId : Text} {linesBatch : List Line} {status : ℕ} {json : Json}
    (h : readableBody R context projectId linesBatch json = true) :
    (readBody R context projectId linesBatch status (some json)).1.requestCount =
      (context.incrementRequestCount status).requestCount := by
  cases json with
  | map entries => exact (readBody_map R context projectId linesBatch status entries).2
  | _ => cases h

end GcpMonitor.Metrics
