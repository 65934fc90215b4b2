import GcpMonitor.Metrics.Dimensions

namespace GcpMonitor.Metrics

open EscapedText

structure MetadataLimits extends LengthLimits where
  allowedMetricDisplayNameLength : ℕ
  allowedMetricDescriptionLength : ℕ
  allowedMetricUnitNameLength : ℕ

def noBreaks (s : Text) : Bool := s.all (fun c => c ≠ '\r' && c ≠ '\n')

@[simp] theorem noBreaks_append (s t : Text) :
    noBreaks (s ++ t) = (noBreaks s && noBreaks t) := List.all_append

@[simp] theorem noBreaks_cons (c : Char) (s : Text) :
    noBreaks (c :: s) = ((c ≠ '\r' && c ≠ '\n') && noBreaks s) := List.all_cons

def displayNameKey : Text := " dt.meta.displayname=\"".toList

def descriptionKey : Text := ",dt.meta.description=\"".toList

def unitKey : Text := ",dt.meta.unit=\"".toList

structure MetricMetadata where
  metricName : Text
  metricType : Text
  metricDisplayName : Text
  metricDescription : Text
  metricUnit : Text

structure MetadataIngestLine where
  metricName : Text
  metricType : Text
  metaMetricDisplayName : Text
  metaMetricDescription : Text
  metaMetricUnit : Text

namespace MetadataIngestLine

def init (metadata : MetricMetadata) : MetadataIngestLine where
  metricName := metadata.metricName
  metricType := if "count".toList <:+: metadata.metricType then "count".toList
    else metadata.metricType
  metaMetricDisplayName :=
    if 0 < metadata.metricDisplayName.length then metadata.metricDisplayName
    else metadata.metricName
  metaMetricDescription := metadata.metricDescription
  metaMetricUnit := metadata.metricUnit

variable (limits : MetadataLimits) (line : MetadataIngestLine)

def name : Text := line.metricName.take limits.allowedMetricKeyLength

def displayName : Text := line.metaMetricDisplayName.take limits.allowedMetricDisplayNameLength

def description : Text :=
  Text.replace (line.metaMetricDescription.take limits.allowedMetricDescriptionLength) '"' []

def unit : Text := line.metaMetricUnit.take limits.allowedMetricUnitNameLength

def afterDescription : Text := unitKey ++ line.unit limits ++ ['"']

def afterDisplayName : Text :=
  descriptionKey ++ line.description limits ++ '"' :: line.afterDescription limits

def toText : Text :=
  '#' :: line.name limits ++ ' ' :: line.metricType ++ displayNameKey ++ line.displayName limits ++
    '"' :: line.afterDisplayName limits

/-- One line of the key, the type and the three values, and each value is read up to the quote that
`to_string` puts after it. -/
structure WellFormed : Prop where
  layout : line.toText limits =
    '#' :: line.metricName.take limits.allowedMetricKeyLength ++ ' ' :: line.metricType ++
      displayNameKey ++ line.displayName limits ++ '"' ::
        (descriptionKey ++ line.description limits ++ '"' ::
          (unitKey ++ line.unit limits ++ ['"']))
  singleLine : noBreaks (line.toText limits) = true
  displayName : ∃ read, mint.scan (line.displayName limits ++ '"' :: line.afterDisplayName limits) =
    some (read, line.afterDisplayName limits)
  description : ∃ read,
    mint.scan (line.description limits ++ '"' :: line.afterDescription limits) =
      some (read, line.afterDescription limits)
  unit : ∃ read, mint.scan (line.unit limits ++ ['"']) = some (read, [])

end MetadataIngestLine

def ingestInput (limits : MetadataLimits) (batch : List MetricMetadata) : Text :=
  ['\n'].intercalate (batch.map (fun metadata => (MetadataIngestLine.init metadata).toText limits))

def serverLines (input : Text) : List Text := input.splitOn '\n'

def Plain (word : Text) : Prop :=
  ∀ c ∈ word, c ≠ '\r' ∧ c ≠ '\n' ∧ c ≠ '"' ∧ c ≠ '\\'

/-- No line break, no quote that no backslash escapes, and no backslash at the end that has nothing
to escape. -/
def Contained (value : Text) : Prop :=
  noBreaks value = true ∧ mint.closed value = true

structure TextsContained (limits : MetadataLimits) (metadata : MetricMetadata) : Prop where
  displayName : Contained (metadata.metricDisplayName.take limits.allowedMetricDisplayNameLength)
  description : Contained
    (Text.replace (metadata.metricDescription.take limits.allowedMetricDescriptionLength) '"' [])
  unit : Contained (metadata.metricUnit.take limits.allowedMetricUnitNameLength)

theorem plain_of_all {word : Text}
    (h : word.all (fun c => c ≠ '\r' && c ≠ '\n' && c ≠ '"' && c ≠ '\\') = true) :
    Plain word := by
  intro c hc
  have hchar := List.all_eq_true.mp h c hc
  simpa [and_assoc] using hchar

theorem Plain.contained {word : Text} (h : Plain word) : Contained word := by
  constructor
  · apply List.all_eq_true.mpr
    intro c hc
    obtain ⟨hreturn, hline, -⟩ := h c hc
    simp [hreturn, hline]
  · apply mint.closed_of_forall
    intro c hc
    exact (h c hc).2.2

theorem Plain.take {word : Text} (h : Plain word) (n : ℕ) : Plain (word.take n) :=
  fun c hc => h c (List.mem_of_mem_take hc)

namespace MetadataIngestLine

variable {limits : MetadataLimits} {line : MetadataIngestLine}

theorem noBreaks_toText (hname : Plain line.metricName) (htype : Plain line.metricType) :
    noBreaks (line.toText limits) = (noBreaks (line.displayName limits) &&
      (noBreaks (line.description limits) && noBreaks (line.unit limits))) := by
  have hkey : noBreaks (line.name limits) = true := (hname.take _).contained.1
  have hkind : noBreaks line.metricType = true := htype.contained.1
  have hdisplayname : noBreaks displayNameKey = true := by decide +kernel
  have hdescription : noBreaks descriptionKey = true := by decide +kernel
  have hunit : noBreaks unitKey = true := by decide +kernel
  have hquote : noBreaks ['"'] = true := by decide +kernel
  simp only [toText, afterDisplayName, afterDescription, List.cons_append, noBreaks_append,
    noBreaks_cons, hkey, hkind, hdisplayname, hdescription, hunit, hquote, Bool.and_true]
  simp

theorem wellFormed_iff (hname : Plain line.metricName) (htype : Plain line.metricType) :
    line.WellFormed limits ↔ Contained (line.displayName limits) ∧
      Contained (line.description limits) ∧ Contained (line.unit limits) := by
  constructor
  · rintro ⟨-, hsingle, hdisplay, hdescription, hunit⟩
    rw [noBreaks_toText hname htype, Bool.and_eq_true, Bool.and_eq_true] at hsingle
    obtain ⟨hd, hs, hu⟩ := hsingle
    exact ⟨⟨hd, (mint.scan_append_quote_iff _ _).mp hdisplay⟩,
      ⟨hs, (mint.scan_append_quote_iff _ _).mp hdescription⟩,
      ⟨hu, (mint.scan_append_quote_iff _ _).mp hunit⟩⟩
  · rintro ⟨⟨hd, hdisplay⟩, ⟨hs, hdescription⟩, ⟨hu, hunit⟩⟩
    refine ⟨rfl, ?_, (mint.scan_append_quote_iff _ _).mpr hdisplay,
      (mint.scan_append_quote_iff _ _).mpr hdescription,
      (mint.scan_append_quote_iff _ _).mpr hunit⟩
    rw [noBreaks_toText hname htype, hd, hs, hu]
    rfl

theorem plain_init_metricType {metadata : MetricMetadata} (h : Plain metadata.metricType) :
    Plain (init metadata).metricType := by
  unfold init
  dsimp only
  split_ifs
  · exact plain_of_all (by decide +kernel)
  · exact h

theorem init_wellFormed_iff {metadata : MetricMetadata} (hname : Plain metadata.metricName)
    (htype : Plain metadata.metricType) :
    (init metadata).WellFormed limits ↔ TextsContained limits metadata := by
  have hdisplay : Contained ((init metadata).displayName limits) ↔
      Contained (metadata.metricDisplayName.take limits.allowedMetricDisplayNameLength) := by
    unfold displayName init
    dsimp only
    split_ifs with hgiven
    · rfl
    · have hempty : metadata.metricDisplayName = [] := by simpa using hgiven
      rw [hempty, List.take_nil]
      exact iff_of_true (hname.take _).contained ⟨rfl, rfl⟩
  have hfields : (init metadata).WellFormed limits ↔ _ :=
    wellFormed_iff hname (plain_init_metricType htype)
  rw [hfields, hdisplay]
  constructor
  · rintro ⟨hd, hs, hu⟩
    exact ⟨hd, hs, hu⟩
  · rintro ⟨hd, hs, hu⟩
    exact ⟨hd, hs, hu⟩

end MetadataIngestLine

theorem serverLines_ingestInput {limits : MetadataLimits} {batch : List MetricMetadata}
    (hne : batch ≠ [])
    (h : ∀ metadata ∈ batch, (MetadataIngestLine.init metadata).WellFormed limits) :
    serverLines (ingestInput limits batch) =
      batch.map (fun metadata => (MetadataIngestLine.init metadata).toText limits) := by
  apply List.splitOn_intercalate
  · intro line hline
    obtain ⟨metadata, hmetadata, rfl⟩ := List.mem_map.mp hline
    intro hbreak
    have hsingle := List.all_eq_true.mp (h metadata hmetadata).singleLine _ hbreak
    simp at hsingle
  · simpa using hne

theorem metadata_lines_well_formed_iff (limits : MetadataLimits) (batch : List MetricMetadata)
    (hne : batch ≠ [])
    (hplain : ∀ metadata ∈ batch, Plain metadata.metricName ∧ Plain metadata.metricType) :
    ((∀ metadata ∈ batch, (MetadataIngestLine.init metadata).WellFormed limits) ∧
        (serverLines (ingestInput limits batch)).length = batch.length) ↔
      ∀ metadata ∈ batch, TextsContained limits metadata := by
  constructor
  · rintro ⟨hlines, -⟩ metadata hmetadata
    obtain ⟨hname, htype⟩ := hplain metadata hmetadata
    exact (MetadataIngestLine.init_wellFormed_iff hname htype).mp (hlines metadata hmetadata)
  · intro hcontained
    have hlines : ∀ metadata ∈ batch, (MetadataIngestLine.init metadata).WellFormed limits := by
      intro metadata hmetadata
      obtain ⟨hname, htype⟩ := hplain metadata hmetadata
      exact (MetadataIngestLine.init_wellFormed_iff hname htype).mpr
        (hcontained metadata hmetadata)
    refine ⟨hlines, ?_⟩
    rw [serverLines_ingestInput hne hlines, List.length_map]

def defaultMetadataLimits : MetadataLimits where
  maxDimensionNameLength := 100
  maxDimensionValueLength := 250
  allowedMetricDimensionValueLength := 250
  allowedMetricDimensionKeyLength := 100
  allowedMetricKeyLength := 250
  allowedMetricDisplayNameLength := 300
  allowedMetricDescriptionLength := 65535
  allowedMetricUnitNameLength := 63

def requestsMetadata (displayName : String) : MetricMetadata where
  metricName := "cloud.gcp.requests".toList
  metricType := "count,delta".toList
  metricDisplayName := displayName.toList
  metricDescription := "All \"requests\"".toList
  metricUnit := "Count".toList

theorem plain_requestsMetadata (displayName : String) :
    Plain (requestsMetadata displayName).metricName ∧
      Plain (requestsMetadata displayName).metricType :=
  ⟨plain_of_all (by decide +kernel : "cloud.gcp.requests".toList.all _ = true),
    plain_of_all (by decide +kernel : "count,delta".toList.all _ = true)⟩

theorem metadata_lines_well_formed_quoted_description :
    (∀ metadata ∈ [requestsMetadata "Requests"],
        (MetadataIngestLine.init metadata).WellFormed defaultMetadataLimits) ∧
      (serverLines (ingestInput defaultMetadataLimits [requestsMetadata "Requests"])).length =
        1 := by
  refine (metadata_lines_well_formed_iff defaultMetadataLimits [requestsMetadata "Requests"]
    (List.cons_ne_nil _ _) ?_).mpr ?_
  · intro metadata hmetadata
    rw [List.mem_singleton.mp hmetadata]
    exact plain_requestsMetadata _
  · intro metadata hmetadata
    rw [List.mem_singleton.mp hmetadata]
    exact ⟨⟨by decide +kernel, by decide +kernel⟩, ⟨by decide +kernel, by decide +kernel⟩,
      ⟨by decide +kernel, by decide +kernel⟩⟩

theorem quoted_display_name_breaks_line :
    ¬ ∀ (limits : MetadataLimits) (metadata : MetricMetadata), Plain metadata.metricName →
      Plain metadata.metricType → (MetadataIngestLine.init metadata).WellFormed limits := by
  intro hclaim
  obtain ⟨hname, htype⟩ := plain_requestsMetadata "Requests \"in flight\""
  have hcontained := (MetadataIngestLine.init_wellFormed_iff hname htype).mp
    (hclaim defaultMetadataLimits _ hname htype)
  have hopen : mint.closed ((requestsMetadata "Requests \"in flight\"").metricDisplayName.take
      defaultMetadataLimits.allowedMetricDisplayNameLength) = false := by
    decide +kernel
  rw [hcontained.displayName.2] at hopen
  cases hopen

end GcpMonitor.Metrics
