import GcpMonitor.Metrics.Service

namespace GcpMonitor.Metrics

open Python

structure ExcludedMetric where
  metric : Yaml
  dimensions : Option (List Yaml)

def asText : Yaml → Option Text
  | .str s => some s
  | _ => none

def ExcludedMetric.dimensionNames (excludedMetric : ExcludedMetric) : List Text :=
  (excludedMetric.dimensions.getD []).filterMap asText

def metricPrefix (entry : Option ExcludedMetric) : Option Text :=
  match entry.bind (fun excludedMetric => asText excludedMetric.metric) with
  | some (c :: s) => some (c :: s)
  | _ => none

def matchingMetrics (metricName : Text)
    (excludedMetricsAndDimensions : List (Option ExcludedMetric)) : List (Text × ExcludedMetric) :=
  excludedMetricsAndDimensions.filterMap (fun entry =>
    match entry, metricPrefix entry with
    | some excludedMetric, some metricPrefix =>
      if metricPrefix.isPrefixOf metricName then some (metricPrefix, excludedMetric) else none
    | _, _ => none)

/-- `max` with a key keeps the first of the items that are equally good. -/
def longer (best : Option (Text × ExcludedMetric)) (item : Text × ExcludedMetric) :
    Option (Text × ExcludedMetric) :=
  match best with
  | none => some item
  | some best => if best.1.length < item.1.length then some item else some best

def findExcludedMetric (metricName : Text)
    (excludedMetricsAndDimensions : List (Option ExcludedMetric)) : Option ExcludedMetric :=
  ((matchingMetrics metricName excludedMetricsAndDimensions).foldl longer none).map Prod.snd

def shouldExcludeMetric (metricName : Text)
    (excludedMetricsAndDimensions : List (Option ExcludedMetric)) : Bool :=
  match findExcludedMetric metricName excludedMetricsAndDimensions with
  | some found => (found.dimensions.getD []).isEmpty
  | none => false

def lastSegment (key : Text) : Text := key.rtakeWhile (fun c => c ≠ '.')

def shouldExcludeDimension (metricName : Text) (dimension : Dimension)
    (excludedMetricsAndDimensions : List (Option ExcludedMetric))
    (foundExcludedMetric : Option ExcludedMetric) : Bool :=
  let foundExcludedMetric :=
    foundExcludedMetric.orElse (fun _ => findExcludedMetric metricName excludedMetricsAndDimensions)
  match foundExcludedMetric with
  | some found => found.dimensionNames.contains (lastSegment dimension.keyForFetchMetric)
  | none => false

theorem mem_matchingMetrics {metricName metricPrefix : Text} {excludedMetric : ExcludedMetric}
    {entries : List (Option ExcludedMetric)}
    (h : (metricPrefix, excludedMetric) ∈ matchingMetrics metricName entries) :
    some excludedMetric ∈ entries ∧ asText excludedMetric.metric = some metricPrefix ∧
      metricPrefix <+: metricName := by
  obtain ⟨entry, hentry, hmatch⟩ := List.mem_filterMap.mp h
  split at hmatch
  · next excluded found hfound =>
    obtain ⟨hstarts, hpair⟩ := Option.ite_none_right_eq_some.mp hmatch
    cases hpair
    refine ⟨hentry, ?_, List.isPrefixOf_iff_prefix.mp hstarts⟩
    simp only [GcpMonitor.Metrics.metricPrefix, Option.bind_some] at hfound
    split at hfound
    · next c s hmetric =>
      cases hfound
      exact hmetric
    · contradiction
  · contradiction

theorem foldl_longer {items : List (Text × ExcludedMetric)} {start : Option (Text × ExcludedMetric)}
    {best : Text × ExcludedMetric} (h : items.foldl longer start = some best) :
    (best ∈ items ∨ start = some best) ∧
      (∀ item ∈ items, item.1.length ≤ best.1.length) ∧
      ∀ item, start = some item → item.1.length ≤ best.1.length := by
  induction items generalizing start with
  | nil =>
    refine ⟨.inr h, by simp, ?_⟩
    rintro item rfl
    cases h
    exact le_refl _
  | cons first rest ih =>
    obtain ⟨hmem, hrest, hstart⟩ := ih h
    have hfirst : ∃ item, longer start first = some item ∧ first.1.length ≤ item.1.length ∧
        (item = first ∨ start = some item) ∧
        ∀ other, start = some other → other.1.length ≤ item.1.length := by
      cases start with
      | none => exact ⟨first, rfl, le_refl _, .inl rfl, by simp⟩
      | some best =>
        by_cases hlt : best.1.length < first.1.length
        · refine ⟨first, if_pos hlt, le_refl _, .inl rfl, ?_⟩
          rintro other ⟨⟩
          omega
        · refine ⟨best, if_neg hlt, by omega, .inr rfl, ?_⟩
          rintro other ⟨⟩
          exact le_refl _
    obtain ⟨item, hitem, hle, hsource, hother⟩ := hfirst
    have hbest := hstart item hitem
    refine ⟨?_, ?_, ?_⟩
    · rcases hmem with hmem | hmem
      · exact .inl (List.mem_cons_of_mem _ hmem)
      · rw [hitem] at hmem
        cases hmem
        rcases hsource with rfl | hsource
        · exact .inl List.mem_cons_self
        · exact .inr hsource
    · intro other hmem
      rcases List.mem_cons.mp hmem with rfl | hmem
      · omega
      · exact hrest other hmem
    · intro other hstart'
      have := hother other hstart'
      omega

theorem findExcludedMetric_longest {metricName : Text} {entries : List (Option ExcludedMetric)}
    {found : ExcludedMetric} (h : findExcludedMetric metricName entries = some found) :
    ∃ metricPrefix, asText found.metric = some metricPrefix ∧ some found ∈ entries ∧
      metricPrefix <+: metricName ∧
      ∀ item ∈ matchingMetrics metricName entries, item.1.length ≤ metricPrefix.length := by
  obtain ⟨⟨metricPrefix, excludedMetric⟩, hbest, rfl⟩ := Option.map_eq_some_iff.mp h
  obtain ⟨hmem, hlongest, -⟩ := foldl_longer hbest
  rcases hmem with hmem | hmem
  · obtain ⟨hentry, hmetric, hstarts⟩ := mem_matchingMetrics hmem
    exact ⟨metricPrefix, hmetric, hentry, hstarts, hlongest⟩
  · contradiction

theorem shouldExcludeDimension_eq {metricName : Text} {dimension : Dimension}
    {entries : List (Option ExcludedMetric)} {found : ExcludedMetric}
    (h : findExcludedMetric metricName entries = some found) :
    shouldExcludeDimension metricName dimension entries
        (findExcludedMetric metricName entries) =
      found.dimensionNames.contains (lastSegment dimension.keyForFetchMetric) := by
  rw [h]
  rfl

end GcpMonitor.Metrics
