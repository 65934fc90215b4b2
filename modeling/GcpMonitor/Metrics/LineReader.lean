import GcpMonitor.Library.TextReader
import GcpMonitor.Metrics.Dimensions
import Mathlib.Data.List.Forall2

namespace GcpMonitor.Metrics

open EscapedText TextReader

/-- What a server reads of a line of the metric ingest protocol. -/
structure ReadLine where
  metricKey : Text
  dimensions : List (Text × Text)
  metricType : Text
  value : Text
  timestamp : ℤ
  deriving DecidableEq

def isWordChar (c : Char) : Bool := c ≠ ' '

def isTypeChar (c : Char) : Bool := c ≠ ',' && c ≠ '='

def readPayload (metricKey : Text) (dimensions : List (Text × Text)) (text : Text) :
    Option ReadLine :=
  match (text.takeWhile isWordChar).dropWhile isTypeChar, text.dropWhile isWordChar with
  | _ :: value, _ :: timestamp => (Text.int timestamp).map (fun timestamp =>
    ⟨metricKey, dimensions, (text.takeWhile isWordChar).takeWhile isTypeChar, value, timestamp⟩)
  | _, _ => none

def readLine (text : Text) : Option ReadLine :=
  let metricKey := text.takeWhile isNameChar
  if metricKey = [] then none
  else
    match readMany parseDimension text.length (text.dropWhile isNameChar) with
    | some (dimensions, ' ' :: rest) => readPayload metricKey dimensions rest
    | _ => none

def readLines (body : Text) : Option (List ReadLine) := (body.splitOn '\n').mapM readLine

def linesInput {V : Type} (limits : LengthLimits) (str : V → Text)
    (linesBatch : List (IngestLine V)) : Text :=
  ['\n'].intercalate (linesBatch.map (IngestLine.toText limits str))

/-- The dimensions that stand for these names and values: each name up to the limits, and of each
value, its line breaks made blanks, as much as fits when it is escaped, and none that is empty. -/
def Fitted (limits : LengthLimits) (sources dimensions : List (Text × Text)) : Prop :=
  ∃ values, List.Forall₂ (fun source value =>
      mint.LongestFitting (valueLimit limits) (withSpaces source.2) value) sources values ∧
    dimensions = ((sources.map (fun source => cutName limits source.1)).zip values).filter
      (fun dimension => dimension.2 ≠ [])

namespace IngestLine

variable {V : Type} (limits : LengthLimits) (str : V → Text) (line : IngestLine V)

def isCount : Bool := line.metricType = "count".toList || line.metricType = "count,delta".toList

def readType : Text := if line.isCount then "count".toList else line.metricType

def deltaKey : Text := if line.isCount then "delta=".toList else []

def meant (dimensions : List (Text × Text)) : ReadLine where
  metricKey := line.metricName.take limits.allowedMetricKeyLength
  dimensions := dimensions
  metricType := line.readType
  value := line.deltaKey ++ str line.value
  timestamp := line.timestamp

structure Plain (sources : List (Text × Text)) : Prop where
  key_ne : line.metricName.take limits.allowedMetricKeyLength ≠ []
  key : ∀ c ∈ line.metricName, isNameChar c = true
  type : line.metricType = "count,delta".toList ∨ ∀ c ∈ line.metricType, isNameChar c = true
  value : ∀ c ∈ str line.value, c ≠ ' ' ∧ c ≠ '\n'
  dimensions : line.dimensionValues =
    sources.map (fun source => createDimension limits source.1 source.2)
  names : ∀ source ∈ sources, ∀ c ∈ source.1, isNameChar c = true

def payload : Text :=
  (if line.isCount || line.metricType = "gauge".toList then ',' else '=') ::
    (line.deltaKey ++ str line.value)

end IngestLine

variable {V : Type} {limits : LengthLimits} {str : V → Text}

theorem isNameChar_cases {c : Char} (h : isNameChar c = true) :
    isWordChar c = true ∧ isTypeChar c = true ∧ c ≠ '\n' := by
  rw [isNameChar] at h
  refine ⟨?_, ?_, ?_⟩
  · rw [isWordChar, decide_eq_true_eq]
    rintro rfl
    exact absurd h (by decide)
  · simp only [Bool.and_eq_true] at h
    rw [isTypeChar, h.1.1.1, h.1.1.2]
    rfl
  · rintro rfl
    exact absurd h (by decide)

theorem type_append_payload (line : IngestLine V) :
    (if line.metricType ≠ "count".toList then line.metricType else "count,delta".toList) ++
        (if line.metricType = "gauge".toList then "," else "=").toList ++ str line.value =
      line.readType ++ line.payload str := by
  rw [IngestLine.payload, IngestLine.readType, IngestLine.deltaKey, IngestLine.isCount]
  by_cases hcount : line.metricType = "count".toList
  · rw [hcount]
    rfl
  · by_cases hdelta : line.metricType = "count,delta".toList
    · rw [hdelta]
      rfl
    · simp only [hcount, hdelta, decide_false, Bool.or_false, Bool.false_eq_true, if_false,
        Bool.false_or, decide_eq_true_eq, ne_eq, not_false_eq_true, if_true, List.nil_append]
      by_cases hgauge : line.metricType = "gauge".toList
      · rw [if_pos hgauge, if_pos hgauge, List.append_assoc]
        rfl
      · rw [if_neg hgauge, if_neg hgauge, List.append_assoc]
        rfl

theorem toText_eq (line : IngestLine V) :
    line.toText limits str = line.metricName.take limits.allowedMetricKeyLength ++
      (line.dimensionsString limits ++
        ' ' :: (line.readType ++ line.payload str ++ ' ' :: Text.ofInt line.timestamp)) := by
  rw [← type_append_payload]
  simp only [IngestLine.toText, List.append_assoc, List.cons_append]

theorem mem_deltaKey {line : IngestLine V} {c : Char} (h : c ∈ line.deltaKey) :
    c ≠ ' ' ∧ c ≠ '\n' := by
  rw [IngestLine.deltaKey] at h
  split_ifs at h
  · have hall : "delta=".toList.all (fun c => c ≠ ' ' && c ≠ '\n') = true := rfl
    simpa using List.all_eq_true.mp hall c h
  · contradiction

theorem isNameChar_readType {line : IngestLine V}
    (h : line.metricType = "count,delta".toList ∨ ∀ c ∈ line.metricType, isNameChar c = true) :
    ∀ c ∈ line.readType, isNameChar c = true := by
  have hcount : ∀ c ∈ "count".toList, isNameChar c = true := List.all_eq_true.mp rfl
  rw [IngestLine.readType, IngestLine.isCount]
  rcases h with h | h
  · rw [h]
    exact hcount
  · split_ifs
    · exact hcount
    · exact h

theorem mem_payload {line : IngestLine V} (hvalue : ∀ c ∈ str line.value, c ≠ ' ' ∧ c ≠ '\n')
    {c : Char} (h : c ∈ line.payload str) : c ≠ ' ' ∧ c ≠ '\n' := by
  rw [IngestLine.payload, List.mem_cons, List.mem_append] at h
  rcases h with h | h | h
  · rw [h]
    split_ifs <;> decide
  · exact mem_deltaKey h
  · exact hvalue c h

theorem readPayload_payload (line : IngestLine V) (metricKey : Text)
    (dimensions : List (Text × Text))
    (htype : line.metricType = "count,delta".toList ∨ ∀ c ∈ line.metricType, isNameChar c = true)
    (hvalue : ∀ c ∈ str line.value, c ≠ ' ' ∧ c ≠ '\n') :
    readPayload metricKey dimensions
        (line.readType ++ line.payload str ++ ' ' :: Text.ofInt line.timestamp) =
      some ⟨metricKey, dimensions, line.readType, line.deltaKey ++ str line.value,
        line.timestamp⟩ := by
  have hword : ∀ c ∈ line.readType ++ line.payload str, isWordChar c = true := by
    intro c hc
    rcases List.mem_append.mp hc with hc | hc
    · exact (isNameChar_cases (isNameChar_readType htype c hc)).1
    · rw [isWordChar, decide_eq_true_eq]
      exact (mem_payload hvalue hc).1
  have hends : EndsRun isWordChar (' ' :: Text.ofInt line.timestamp) := endsRun_cons rfl _
  have hmarked : EndsRun isTypeChar (line.payload str) := by
    apply endsRun_cons
    split_ifs <;> rfl
  have htypes : ∀ c ∈ line.readType, isTypeChar c = true :=
    fun c hc => (isNameChar_cases (isNameChar_readType htype c hc)).2.1
  rw [readPayload, takeWhile_run hword hends, dropWhile_run hword hends,
    takeWhile_run htypes hmarked, dropWhile_run htypes hmarked, IngestLine.payload]
  simp only [Text.int_ofInt, Option.map_some]

theorem exists_fitted (limits : LengthLimits) (sources : List (Text × Text)) :
    ∃ dimensions, Fitted limits sources dimensions := by
  obtain ⟨values, hvalues⟩ := exists_longestFitting limits sources
  exact ⟨_, values, hvalues, rfl⟩

theorem Fitted.source {sources dimensions : List (Text × Text)}
    (h : Fitted limits sources dimensions) {dimension : Text × Text}
    (hmem : dimension ∈ dimensions) :
    ∃ source ∈ sources, dimension.1 = cutName limits source.1 ∧
      dimension.2 <+: withSpaces source.2 := by
  obtain ⟨values, hvalues, rfl⟩ := h
  exact mem_cutName_zip hvalues (List.mem_of_mem_filter hmem)

namespace IngestLine.Plain

variable {line : IngestLine V} {sources dimensions : List (Text × Text)}

theorem dimensionsString_eq_fitted (h : line.Plain limits str sources)
    (hfitted : Fitted limits sources dimensions) :
    line.dimensionsString limits = (dimensions.map renderDimension).flatten := by
  obtain ⟨values, hvalues, rfl⟩ := hfitted
  rw [dimensionsString_createDimension limits line hvalues h.dimensions, List.flatMap_def]

theorem isNameChar_of_fitted (h : line.Plain limits str sources)
    (hfitted : Fitted limits sources dimensions) :
    ∀ dimension ∈ dimensions, ∀ c ∈ dimension.1, isNameChar c = true := by
  intro dimension hmem c hc
  obtain ⟨source, hsource, hname, -⟩ := hfitted.source hmem
  rw [hname] at hc
  exact h.names source hsource c (mem_cutName hc)

theorem reads_dimensions (h : line.Plain limits str sources)
    (hfitted : Fitted limits sources dimensions) {n : ℕ} (hn : dimensions.length ≤ n) :
    Reads (readMany parseDimension n) (fun rest => parseDimension rest = none)
      (line.dimensionsString limits) dimensions := by
  rw [h.dimensionsString_eq_fitted hfitted]
  apply reads_many
  · rw [List.forall₂_map_left_iff, List.forall₂_same]
    rintro ⟨name, value⟩ hmem rest -
    exact parseDimension_renderDimension (h.isNameChar_of_fitted hfitted _ hmem) value rest
  · rw [List.length_map]
    exact hn

theorem length_dimensions_le (h : line.Plain limits str sources)
    (hfitted : Fitted limits sources dimensions) :
    dimensions.length ≤ (line.dimensionsString limits).length := by
  rw [h.dimensionsString_eq_fitted hfitted]
  clear hfitted
  induction dimensions with
  | nil => exact Nat.le_refl _
  | cons dimension dimensions ih =>
    rw [List.map_cons, List.flatten_cons, List.length_append, renderDimension, List.length_cons]
    simp only [List.length_append, List.length_cons]
    omega

theorem endsRun_dimensions (h : line.Plain limits str sources)
    (hfitted : Fitted limits sources dimensions) (rest : Text) :
    EndsRun isNameChar (line.dimensionsString limits ++ ' ' :: rest) := by
  rw [h.dimensionsString_eq_fitted hfitted]
  cases dimensions with
  | nil => exact endsRun_cons rfl _
  | cons dimension dimensions => exact endsRun_cons rfl _

theorem readLine_toText (h : line.Plain limits str sources)
    (hfitted : Fitted limits sources dimensions) :
    readLine (line.toText limits str) = some (line.meant limits str dimensions) := by
  have hkey : ∀ c ∈ line.metricName.take limits.allowedMetricKeyLength, isNameChar c = true :=
    fun c hc => h.key c (List.mem_of_mem_take hc)
  have hends := h.endsRun_dimensions hfitted
    (line.readType ++ line.payload str ++ ' ' :: Text.ofInt line.timestamp)
  have hlength : dimensions.length ≤ (line.toText limits str).length := by
    have hle := h.length_dimensions_le hfitted
    rw [toText_eq]
    simp only [List.length_append]
    omega
  have hread := h.reads_dimensions hfitted hlength
    (' ' :: (line.readType ++ line.payload str ++ ' ' :: Text.ofInt line.timestamp)) rfl
  rw [readLine]
  rw [toText_eq] at hread ⊢
  rw [takeWhile_run hkey hends, dropWhile_run hkey hends, if_neg h.key_ne, hread]
  exact readPayload_payload line _ dimensions h.type h.value

theorem newline_not_mem (h : line.Plain limits str sources)
    (hfitted : Fitted limits sources dimensions) : '\n' ∉ line.toText limits str := by
  intro hc
  rw [toText_eq, List.mem_append, List.mem_append, List.mem_cons, List.mem_append,
    List.mem_append, List.mem_cons] at hc
  rcases hc with hc | hc | hc | (hc | hc) | hc | hc
  · exact (isNameChar_cases (h.key _ (List.mem_of_mem_take hc))).2.2 rfl
  · rw [h.dimensionsString_eq_fitted hfitted, ← List.flatMap_def] at hc
    obtain ⟨dimension, hmem, hc⟩ := List.mem_flatMap.mp hc
    have hname := h.isNameChar_of_fitted hfitted dimension hmem
    obtain ⟨source, -, -, hvalue⟩ := hfitted.source hmem
    have hbreak := mem_renderDimension (fun c hc => isLineBreaking_of_isNameChar (hname c hc))
      (fun c hc => mem_withSpaces (hvalue.subset hc)) hc
    exact absurd hbreak (by decide)
  · exact absurd hc (by decide)
  · exact (isNameChar_cases (isNameChar_readType h.type _ hc)).2.2 rfl
  · exact (mem_payload h.value hc).2 rfl
  · exact absurd hc (by decide)
  · exact Text.not_mem_ofInt (by decide) rfl hc

end IngestLine.Plain

def ReadsBack (limits : LengthLimits) (str : V → Text)
    (Sources : IngestLine V → List (Text × Text) → Prop) (linesBatch : List (IngestLine V))
    (readings : List ReadLine) : Prop :=
  List.Forall₂ (fun line reading => ∃ sources dimensions, Sources line sources ∧
    Fitted limits sources dimensions ∧ reading = line.meant limits str dimensions)
      linesBatch readings

theorem splitOn_linesInput {linesBatch : List (IngestLine V)} (hne : linesBatch ≠ [])
    (h : ∀ line ∈ linesBatch, ∃ sources, line.Plain limits str sources) :
    (linesInput limits str linesBatch).splitOn '\n' =
      linesBatch.map (IngestLine.toText limits str) := by
  rw [linesInput]
  apply List.splitOn_intercalate
  · intro text htext
    obtain ⟨line, hline, rfl⟩ := List.mem_map.mp htext
    obtain ⟨sources, hplain⟩ := h line hline
    obtain ⟨dimensions, hfitted⟩ := exists_fitted limits sources
    exact hplain.newline_not_mem hfitted
  · simpa using hne

theorem readLines_linesInput {Sources : IngestLine V → List (Text × Text) → Prop}
    {linesBatch : List (IngestLine V)} (hne : linesBatch ≠ [])
    (h : ∀ line ∈ linesBatch, ∃ sources, Sources line sources ∧ line.Plain limits str sources) :
    ∃ readings, readLines (linesInput limits str linesBatch) = some readings ∧
      ReadsBack limits str Sources linesBatch readings := by
  have hplain : ∀ line ∈ linesBatch, ∃ sources, line.Plain limits str sources := by
    intro line hline
    obtain ⟨sources, -, hplain⟩ := h line hline
    exact ⟨sources, hplain⟩
  rw [readLines, splitOn_linesInput hne hplain]
  clear hplain hne
  induction linesBatch with
  | nil => exact ⟨[], rfl, .nil⟩
  | cons line linesBatch ih =>
    obtain ⟨readings, hreadings, hback⟩ :=
      ih (fun line hline => h line (List.mem_cons_of_mem _ hline))
    obtain ⟨sources, hsources, hplain⟩ := h line List.mem_cons_self
    obtain ⟨dimensions, hfitted⟩ := exists_fitted limits sources
    refine ⟨line.meant limits str dimensions :: readings, ?_,
      .cons ⟨sources, dimensions, hsources, hfitted, rfl⟩ hback⟩
    rw [List.map_cons, List.mapM_cons, hplain.readLine_toText hfitted, hreadings]
    rfl

end GcpMonitor.Metrics
