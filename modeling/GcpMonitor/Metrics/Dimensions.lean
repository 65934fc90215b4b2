import GcpMonitor.Library.EscapedText
import GcpMonitor.Python.Text

namespace GcpMonitor.Metrics

open EscapedText

/-- The length limits of the configuration. `get_int_environment_value` takes strings of digits
only, so none of them is negative. -/
structure LengthLimits where
  maxDimensionNameLength : ℕ
  maxDimensionValueLength : ℕ
  allowedMetricDimensionValueLength : ℕ
  allowedMetricDimensionKeyLength : ℕ
  allowedMetricKeyLength : ℕ

structure DimensionValue where
  name : Text
  value : Text
  deriving DecidableEq

structure IngestLine (V : Type) where
  entityId : Text
  metricName : Text
  metricType : Text
  value : V
  timestamp : ℤ
  dimensionValues : List DimensionValue
  deriving DecidableEq

def sanitizeDimensionValue (rawValue : Text) : Text :=
  let sanitized := ((rawValue.replace '\r' [' ']).replace '\n' [' ']).replace '\t' [' ']
  (sanitized.replace '\\' ['\\', '\\']).replace '"' ['\\', '"']

def truncateEscapedDimensionValue (escapedValue : Text) (maxLength : ℕ) : Text :=
  if escapedValue.length ≤ maxLength then escapedValue
  else
    let truncated := escapedValue.take maxLength
    let trailingBackslashes :=
      truncated.length - (truncated.rdropWhile (fun c => c = '\\')).length
    if trailingBackslashes % 2 = 1 then truncated.dropLast else truncated

def createDimension (limits : LengthLimits) (name value : Text) : DimensionValue :=
  let effectiveMaxValueLength :=
    min limits.maxDimensionValueLength limits.allowedMetricDimensionValueLength
  let name :=
    if name.length > limits.maxDimensionNameLength then name.take limits.maxDimensionNameLength
    else name
  let stringValue := sanitizeDimensionValue value
  let stringValue :=
    if stringValue.length > effectiveMaxValueLength then
      truncateEscapedDimensionValue stringValue effectiveMaxValueLength
    else stringValue
  ⟨name, stringValue⟩

def DimensionValue.toText (limits : LengthLimits) (dimensionValue : DimensionValue) : Text :=
  dimensionValue.name.take limits.allowedMetricDimensionKeyLength ++ '=' :: '"' ::
    dimensionValue.value.take limits.allowedMetricDimensionValueLength ++ ['"']

namespace IngestLine

variable {V : Type}

def dimensionsString (limits : LengthLimits) (line : IngestLine V) : Text :=
  let dimensionValues :=
    (line.dimensionValues.filter (fun dimensionValue => dimensionValue.value ≠ [])).map
      (DimensionValue.toText limits)
  let dimensions := [','].intercalate dimensionValues
  if dimensions ≠ [] then ',' :: dimensions else dimensions

def toText (limits : LengthLimits) (str : V → Text) (line : IngestLine V) : Text :=
  let separator := if line.metricType = "gauge".toList then "," else "="
  let metricType :=
    if line.metricType ≠ "count".toList then line.metricType else "count,delta".toList
  line.metricName.take limits.allowedMetricKeyLength ++ line.dimensionsString limits ++
    ' ' :: metricType ++ separator.toList ++ str line.value ++
    ' ' :: Text.ofInt line.timestamp

end IngestLine

def mint : Escaping Char where
  esc := '\\'
  quote := '"'
  quote_ne_esc := by decide

def isNameChar (c : Char) : Bool := c ≠ ',' && c ≠ '=' && c ≠ '"' && !c.isWhitespace

def isLineBreaking (c : Char) : Bool := c = '\r' || c = '\n' || c = '\t'

def parseDimension : Text → Option ((Text × Text) × Text)
  | ',' :: s =>
    match s.dropWhile isNameChar with
    | '=' :: '"' :: rest =>
      (mint.scan rest).map (fun (value, rest) => ((s.takeWhile isNameChar, value), rest))
    | _ => none
  | _ => none

def parseDimensionsWithin : ℕ → Text → Option (List (Text × Text))
  | _, [] => some []
  | 0, _ :: _ => none
  | fuel + 1, c :: s =>
    match parseDimension (c :: s) with
    | some (dimension, rest) => (parseDimensionsWithin fuel rest).map (fun l => dimension :: l)
    | none => none

def parseDimensions (s : Text) : Option (List (Text × Text)) := parseDimensionsWithin s.length s

def cutName (limits : LengthLimits) (name : Text) : Text :=
  (name.take limits.maxDimensionNameLength).take limits.allowedMetricDimensionKeyLength

def withSpaces (rawValue : Text) : Text :=
  rawValue.map (fun c => if c = '\r' ∨ c = '\n' ∨ c = '\t' then ' ' else c)

def valueLimit (limits : LengthLimits) : ℕ :=
  min limits.maxDimensionValueLength limits.allowedMetricDimensionValueLength

def renderDimension (dimension : Text × Text) : Text :=
  ',' :: dimension.1 ++ '=' :: '"' :: mint.escape dimension.2 ++ ['"']

theorem sanitizeDimensionValue_append (s t : Text) :
    sanitizeDimensionValue (s ++ t) = sanitizeDimensionValue s ++ sanitizeDimensionValue t := by
  simp only [sanitizeDimensionValue, Text.replace_append]

theorem sanitizeDimensionValue_singleton (c : Char) :
    sanitizeDimensionValue [c] = mint.escape (withSpaces [c]) := by
  by_cases hcontrol : c = '\r' ∨ c = '\n' ∨ c = '\t'
  · rcases hcontrol with rfl | rfl | rfl <;> rfl
  · by_cases hspecial : c = '\\' ∨ c = '"'
    · rcases hspecial with rfl | rfl <;> rfl
    · have hspaces : withSpaces [c] = [c] := by
        simp only [withSpaces, List.map_cons, List.map_nil, if_neg hcontrol]
      have hescape : mint.escape [c] = [c] :=
        (mint.escape_singleton c).trans (if_neg hspecial)
      push Not at hcontrol hspecial
      obtain ⟨hcr, hlf, htab⟩ := hcontrol
      obtain ⟨hesc, hquote⟩ := hspecial
      rw [hspaces, hescape]
      simp only [sanitizeDimensionValue, Text.replace_singleton, hcr, hlf, htab, hesc, hquote,
        if_false]

theorem sanitizeDimensionValue_eq (rawValue : Text) :
    sanitizeDimensionValue rawValue = mint.escape (withSpaces rawValue) := by
  induction rawValue with
  | nil => rfl
  | cons c s ih =>
    have hspaces : withSpaces (c :: s) = withSpaces [c] ++ withSpaces s := rfl
    rw [← List.singleton_append, sanitizeDimensionValue_append, sanitizeDimensionValue_singleton,
      ih, List.singleton_append, hspaces, mint.escape_append]

theorem createDimension_value (limits : LengthLimits) (name value : Text) :
    (createDimension limits name value).value =
      mint.truncate (mint.escape (withSpaces value)) (valueLimit limits) := by
  rw [← sanitizeDimensionValue_eq]
  simp only [createDimension]
  split_ifs with h
  · rfl
  · exact (if_pos (not_lt.mp h)).symm

theorem createDimension_name (limits : LengthLimits) (name value : Text) :
    (createDimension limits name value).name = name.take limits.maxDimensionNameLength := by
  simp only [createDimension]
  split_ifs with h
  · rfl
  · exact (List.take_of_length_le (not_lt.mp h)).symm

theorem toText_createDimension (limits : LengthLimits) {name value v : Text}
    (hv : mint.LongestFitting (valueLimit limits) (withSpaces value) v) :
    ',' :: (createDimension limits name value).toText limits =
      renderDimension (cutName limits name, v) := by
  have hvalue : (createDimension limits name value).value = mint.escape v :=
    (createDimension_value limits name value).trans (mint.truncate_escape_eq hv)
  have hfits : (mint.escape v).length ≤ limits.allowedMetricDimensionValueLength :=
    hv.fits.trans (min_le_right _ _)
  rw [DimensionValue.toText, hvalue, List.take_of_length_le hfits, createDimension_name]
  rfl

theorem cons_intercalate_comma {items : List Text} (h : items ≠ []) :
    ',' :: [','].intercalate items = items.flatMap (fun item => ',' :: item) := by
  induction items with
  | nil => contradiction
  | cons item rest ih =>
    cases rest with
    | nil => simp
    | cons next rest =>
      rw [List.intercalate_cons_cons, List.flatMap_cons, ← ih (by simp)]
      simp

theorem dimensionsString_eq {V : Type} (limits : LengthLimits) (line : IngestLine V) :
    line.dimensionsString limits =
      (line.dimensionValues.filter (fun dimensionValue => dimensionValue.value ≠ [])).flatMap
        (fun dimensionValue => ',' :: dimensionValue.toText limits) := by
  rw [IngestLine.dimensionsString]
  cases line.dimensionValues.filter (fun dimensionValue => dimensionValue.value ≠ []) with
  | nil => rfl
  | cons first rest =>
    have hne : [','].intercalate ((first :: rest).map (DimensionValue.toText limits)) ≠ [] := by
      rw [List.map_cons]
      cases rest.map (DimensionValue.toText limits) <;> simp [DimensionValue.toText]
    simp only [if_pos hne]
    rw [cons_intercalate_comma (by simp), List.flatMap_map]

theorem dimensionsString_createDimension {V : Type} (limits : LengthLimits) (line : IngestLine V)
    {dimensions : List (Text × Text)} {values : List Text}
    (hvalues : List.Forall₂ (fun dimension value =>
      mint.LongestFitting (valueLimit limits) (withSpaces dimension.2) value) dimensions values)
    (hline : line.dimensionValues =
      dimensions.map (fun dimension => createDimension limits dimension.1 dimension.2)) :
    line.dimensionsString limits =
      (((dimensions.map (fun dimension => cutName limits dimension.1)).zip values).filter
        (fun dimension => dimension.2 ≠ [])).flatMap renderDimension := by
  rw [dimensionsString_eq, hline]
  clear hline
  induction hvalues with
  | nil => rfl
  | @cons dimension value dimensions values hvalue _ ih =>
    have hempty : (createDimension limits dimension.1 dimension.2).value = [] ↔ value = [] := by
      rw [createDimension_value, mint.truncate_escape_eq hvalue, mint.escape_eq_nil_iff]
    simp only [List.map_cons, List.zip_cons_cons, List.filter_cons, decide_not, ne_eq] at ih ⊢
    by_cases hv : value = []
    · simp only [hempty.mpr hv, hv, decide_true, Bool.not_true, Bool.false_eq_true, if_false]
      exact ih
    · simp only [mt hempty.mp hv, hv, decide_false, Bool.not_false, if_true, List.flatMap_cons]
      rw [ih, toText_createDimension limits hvalue]

theorem parseDimension_renderDimension {name : Text} (hname : ∀ c ∈ name, isNameChar c = true)
    (value rest : Text) :
    parseDimension (renderDimension (name, value) ++ rest) = some ((name, value), rest) := by
  have hs : renderDimension (name, value) ++ rest =
      ',' :: (name ++ '=' :: '"' :: (mint.escape value ++ '"' :: rest)) := by
    simp [renderDimension]
  have hdrop : (name ++ '=' :: '"' :: (mint.escape value ++ '"' :: rest)).dropWhile isNameChar =
      '=' :: '"' :: (mint.escape value ++ '"' :: rest) :=
    List.dropWhile_append_of_pos hname
  have htake : (name ++ '=' :: '"' :: (mint.escape value ++ '"' :: rest)).takeWhile isNameChar =
      name := by
    rw [List.takeWhile_append_of_pos hname]
    exact List.append_nil name
  have hscan : mint.scan (mint.escape value ++ '"' :: rest) = some (value, rest) :=
    mint.scan_escape value rest
  rw [hs, parseDimension]
  simp only [hdrop, htake, hscan, Option.map_some]

theorem parseDimensionsWithin_render (dimensions : List (Text × Text)) (fuel : ℕ)
    (hnames : ∀ dimension ∈ dimensions, ∀ c ∈ dimension.1, isNameChar c = true)
    (hfuel : dimensions.length ≤ fuel) :
    parseDimensionsWithin fuel (dimensions.flatMap renderDimension) = some dimensions := by
  induction dimensions generalizing fuel with
  | nil => cases fuel <;> rfl
  | cons dimension rest ih =>
    cases fuel with
    | zero => simp at hfuel
    | succ fuel =>
      have hitem := parseDimension_renderDimension (hnames dimension List.mem_cons_self)
        dimension.2 (rest.flatMap renderDimension)
      have hrest := ih fuel (fun d hd => hnames d (List.mem_cons_of_mem _ hd))
        (by simpa using hfuel)
      rw [List.flatMap_cons]
      change (match parseDimension (renderDimension dimension ++ rest.flatMap renderDimension) with
        | some (dimension, rest) => (parseDimensionsWithin fuel rest).map (dimension :: ·)
        | none => none) = _
      rw [hitem]
      simp only [hrest, Option.map_some]

theorem parseDimensions_render {dimensions : List (Text × Text)}
    (hnames : ∀ dimension ∈ dimensions, ∀ c ∈ dimension.1, isNameChar c = true) :
    parseDimensions (dimensions.flatMap renderDimension) = some dimensions := by
  apply parseDimensionsWithin_render dimensions _ hnames
  induction dimensions with
  | nil => exact le_refl _
  | cons dimension rest ih =>
    have hrest := ih (fun d hd => hnames d (List.mem_cons_of_mem _ hd))
    simp only [List.flatMap_cons, List.length_append, List.length_cons, renderDimension]
    omega

theorem mem_withSpaces {rawValue : Text} {c : Char} (h : c ∈ withSpaces rawValue) :
    isLineBreaking c = false := by
  obtain ⟨d, -, rfl⟩ := List.mem_map.mp h
  by_cases hd : d = '\r' ∨ d = '\n' ∨ d = '\t'
  · rw [if_pos hd]
    rfl
  · rw [if_neg hd]
    simpa [isLineBreaking, and_assoc] using hd

theorem mem_renderDimension {dimension : Text × Text} {c : Char}
    (hname : ∀ c ∈ dimension.1, isLineBreaking c = false)
    (hvalue : ∀ c ∈ dimension.2, isLineBreaking c = false) (h : c ∈ renderDimension dimension) :
    isLineBreaking c = false := by
  simp only [renderDimension, List.cons_append, List.mem_cons, List.mem_append, List.not_mem_nil,
    or_false] at h
  rcases h with rfl | (hc | rfl | rfl | hc) | rfl
  · rfl
  · exact hname c hc
  · rfl
  · rfl
  · rcases mint.mem_escape hc with rfl | hc
    · rfl
    · exact hvalue c hc
  · rfl

theorem isLineBreaking_of_isNameChar {c : Char} (h : isNameChar c = true) :
    isLineBreaking c = false := by
  by_contra hc
  simp only [isLineBreaking, Bool.or_eq_true, decide_eq_true_eq, Bool.not_eq_false] at hc
  rcases hc with (rfl | rfl) | rfl <;> exact absurd h (by decide)

theorem exists_longestFitting (limits : LengthLimits) (dimensions : List (Text × Text)) :
    ∃ values, List.Forall₂ (fun dimension value =>
        mint.LongestFitting (valueLimit limits) (withSpaces dimension.2) value)
      dimensions values := by
  induction dimensions with
  | nil => exact ⟨[], .nil⟩
  | cons dimension rest ih =>
    obtain ⟨values, hvalues⟩ := ih
    obtain ⟨value, hvalue, -⟩ :=
      mint.truncate_escape (withSpaces dimension.2) (valueLimit limits)
    exact ⟨value :: values, .cons hvalue hvalues⟩

theorem mem_cutName_zip {limits : LengthLimits} {dimensions : List (Text × Text)}
    {values : List Text} {dimension : Text × Text}
    (hvalues : List.Forall₂ (fun dimension value =>
      mint.LongestFitting (valueLimit limits) (withSpaces dimension.2) value) dimensions values)
    (h : dimension ∈ (dimensions.map (fun dimension => cutName limits dimension.1)).zip values) :
    ∃ source ∈ dimensions, dimension.1 = cutName limits source.1 ∧
      dimension.2 <+: withSpaces source.2 := by
  induction hvalues with
  | nil => simp at h
  | @cons source value dimensions values hvalue _ ih =>
    rw [List.map_cons, List.zip_cons_cons] at h
    rcases List.mem_cons.mp h with rfl | h
    · exact ⟨source, List.mem_cons_self, rfl, hvalue.isPrefix⟩
    · obtain ⟨source, hsource, heq⟩ := ih h
      exact ⟨source, List.mem_cons_of_mem _ hsource, heq⟩

theorem mem_cutName {limits : LengthLimits} {name : Text} {c : Char}
    (h : c ∈ cutName limits name) : c ∈ name :=
  List.mem_of_mem_take (List.mem_of_mem_take h)

theorem dimensionsString_round_trip {V : Type} (limits : LengthLimits) (line : IngestLine V)
    (dimensions : List (Text × Text))
    (hline : line.dimensionValues =
      dimensions.map (fun dimension => createDimension limits dimension.1 dimension.2))
    (hnames : ∀ dimension ∈ dimensions, ∀ c ∈ dimension.1, isNameChar c = true) :
    (∀ c ∈ line.dimensionsString limits, c ≠ '\r' ∧ c ≠ '\n' ∧ c ≠ '\t') ∧
    ∃ values, List.Forall₂ (fun dimension value =>
        mint.LongestFitting (valueLimit limits) (withSpaces dimension.2) value) dimensions values ∧
      parseDimensions (line.dimensionsString limits) =
        some (((dimensions.map (fun dimension => cutName limits dimension.1)).zip values).filter
          (fun dimension => dimension.2 ≠ [])) := by
  obtain ⟨values, hvalues⟩ := exists_longestFitting limits dimensions
  have hsources : ∀ dimension ∈
      ((dimensions.map (fun dimension => cutName limits dimension.1)).zip values).filter
        (fun dimension => dimension.2 ≠ []),
      (∀ c ∈ dimension.1, isNameChar c = true) ∧ ∀ c ∈ dimension.2, isLineBreaking c = false := by
    intro dimension hdimension
    obtain ⟨source, hsource, hname, hvalue⟩ :=
      mem_cutName_zip hvalues (List.mem_of_mem_filter hdimension)
    constructor
    · intro c hc
      rw [hname] at hc
      exact hnames source hsource c (mem_cutName hc)
    · intro c hc
      exact mem_withSpaces (hvalue.subset hc)
  rw [dimensionsString_createDimension limits line hvalues hline]
  constructor
  · intro c hc
    obtain ⟨dimension, hdimension, hc⟩ := List.mem_flatMap.mp hc
    obtain ⟨hname, hvalue⟩ := hsources dimension hdimension
    have hbreak := mem_renderDimension (fun c hc => isLineBreaking_of_isNameChar (hname c hc))
      hvalue hc
    simpa [isLineBreaking, and_assoc] using hbreak
  · exact ⟨values, hvalues, parseDimensions_render fun d hd => (hsources d hd).1⟩

theorem dimensionsString_round_trip_cut_quote :
    ∃ values, List.Forall₂ (fun dimension value =>
        mint.LongestFitting 3 (withSpaces dimension.2) value)
          [("k".toList, "ab\"c".toList), ("l".toList, "\n".toList)] values ∧
      ((["k".toList, "l".toList].zip values).filter (fun dimension => dimension.2 ≠ [])) =
        [("k".toList, "ab".toList), ("l".toList, " ".toList)] := by
  let limits : LengthLimits := ⟨100, 3, 250, 100, 250⟩
  let dimensions := [("k".toList, "ab\"c".toList), ("l".toList, "\n".toList)]
  let line : IngestLine Unit := ⟨[], "m".toList, "gauge".toList, (), 0,
    dimensions.map (fun dimension => createDimension limits dimension.1 dimension.2)⟩
  have hnames : ∀ dimension ∈ dimensions, ∀ c ∈ dimension.1, isNameChar c = true := by
    simp [dimensions, isNameChar]
  obtain ⟨-, values, hvalues, hparse⟩ :=
    dimensionsString_round_trip limits line dimensions rfl hnames
  have hline : parseDimensions (line.dimensionsString limits) =
      some [("k".toList, "ab".toList), ("l".toList, " ".toList)] := by
    decide +kernel
  rw [hline] at hparse
  exact ⟨values, hvalues, (Option.some.inj hparse).symm⟩

end GcpMonitor.Metrics
