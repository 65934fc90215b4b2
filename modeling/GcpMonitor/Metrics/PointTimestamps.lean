import GcpMonitor.Metrics.FetchPages
import GcpMonitor.Metrics.Milliseconds
import GcpMonitor.Python.Strptime

namespace GcpMonitor.Metrics

open Python ExceptList

def parseEndTime (timestampIso : Text) : Except PyError Datetime :=
  match strptime timestampIso "%Y-%m-%dT%H:%M:%SZ" with
  | .error (.valueError _) => strptime timestampIso "%Y-%m-%dT%H:%M:%S.%fZ"
  | result => result

def endTimeMillis (endTime : Option Text) : Except PyError ℤ := do
  let timestampIso ← endTime.elim (.error .keyError) .ok
  let timestampParsed ← parseEndTime timestampIso
  return truncate (binary64 (timestampParsed.timestamp * 1000))

/-- A timestamp as the API writes it, in UTC and with none, three, six or nine digits of a
fraction of a second. -/
structure UtcTimestamp where
  year : ℕ
  month : ℕ
  day : ℕ
  hour : ℕ
  minute : ℕ
  second : ℕ
  fraction : Text
  valid : IsDatetime year month day hour minute second 0
  isDigit : ∀ c ∈ fraction, c.isDigit = true
  length : fraction.length ∈ [0, 3, 6, 9]

namespace UtcTimestamp

def fractionText (stamp : UtcTimestamp) : Text :=
  if stamp.fraction = [] then ['Z'] else '.' :: (stamp.fraction ++ ['Z'])

def toText (stamp : UtcTimestamp) : Text :=
  padded 4 stamp.year ++ ('-' :: (padded 2 stamp.month ++ ('-' :: (padded 2 stamp.day ++
    ('T' :: (padded 2 stamp.hour ++ (':' :: (padded 2 stamp.minute ++
      (':' :: (padded 2 stamp.second ++ stamp.fractionText))))))))))

def start (stamp : UtcTimestamp) : Datetime where
  year := stamp.year
  month := stamp.month
  day := stamp.day
  hour := stamp.hour
  minute := stamp.minute
  second := stamp.second
  microsecond := 0
  valid := stamp.valid

def instant (stamp : UtcTimestamp) : ℚ :=
  stamp.start.sinceEpoch / 1000000 +
    (Nat.ofDigitChars 10 stamp.fraction 0 : ℚ) / 10 ^ stamp.fraction.length

def microsecond (stamp : UtcTimestamp) : ℕ :=
  Nat.ofDigitChars 10 stamp.fraction 0 * 10 ^ (6 - stamp.fraction.length)

def sinceEpoch (stamp : UtcTimestamp) : ℤ := stamp.start.sinceEpoch + stamp.microsecond

variable (stamp : UtcTimestamp)

theorem length_cases (h : stamp.fraction.length ≠ 9) :
    stamp.fraction.length = 0 ∨ stamp.fraction.length = 3 ∨ stamp.fraction.length = 6 := by
  have hlength := stamp.length
  simp only [List.mem_cons, List.not_mem_nil, or_false] at hlength
  omega

theorem microsecond_mul {stamp : UtcTimestamp} (h : stamp.fraction.length ≤ 6) :
    stamp.microsecond * 10 ^ stamp.fraction.length =
      Nat.ofDigitChars 10 stamp.fraction 0 * 1000000 := by
  rw [microsecond, mul_assoc, ← pow_add, Nat.sub_add_cancel h]
  norm_num

theorem microsecond_lt {stamp : UtcTimestamp} (h : stamp.fraction.length ≤ 6) :
    stamp.microsecond < 1000000 := by
  have hlt := ofDigitChars_lt stamp.isDigit
  have hpos : 0 < 10 ^ stamp.fraction.length := by positivity
  refine lt_of_mul_lt_mul_right ?_ hpos.le
  rw [microsecond_mul h, mul_comm 1000000]
  exact Nat.mul_lt_mul_of_pos_right hlt (by omega)

theorem floor_instant {stamp : UtcTimestamp} (h : stamp.fraction.length ≤ 6) :
    ⌊1000 * stamp.instant⌋ = stamp.sinceEpoch / 1000 := by
  have hpos : (0 : ℚ) < 10 ^ stamp.fraction.length := by positivity
  have hfraction : (Nat.ofDigitChars 10 stamp.fraction 0 : ℚ) / 10 ^ stamp.fraction.length =
      stamp.microsecond / 1000000 := by
    rw [div_eq_div_iff hpos.ne' (by norm_num)]
    exact_mod_cast (microsecond_mul h).symm
  have hinstant : 1000 * stamp.instant = (stamp.sinceEpoch : ℚ) / (1000 : ℕ) := by
    rw [instant, hfraction, sinceEpoch]
    push_cast
    ring
  rw [hinstant, Rat.floor_intCast_div_natCast]
  rfl

def datetime {stamp : UtcTimestamp} (h : stamp.fraction.length ≤ 6) : Datetime where
  year := stamp.year
  month := stamp.month
  day := stamp.day
  hour := stamp.hour
  minute := stamp.minute
  second := stamp.second
  microsecond := stamp.microsecond
  valid := { stamp.valid with microsecond_lt := microsecond_lt h }

theorem sinceEpoch_datetime {stamp : UtcTimestamp} (h : stamp.fraction.length ≤ 6) :
    (datetime h).sinceEpoch = stamp.sinceEpoch := by
  simp [sinceEpoch, Datetime.sinceEpoch, Datetime.toordinal, datetime, start]

def dateItems : List FormatItem :=
  [.directive .year, .literal '-', .directive .month, .literal '-', .directive .day, .literal 'T',
    .directive .hour, .literal ':', .directive .minute, .literal ':', .directive .second]

def dateGroups : List (Directive × ℕ) :=
  [(.year, stamp.year), (.month, stamp.month), (.day, stamp.day), (.hour, stamp.hour),
    (.minute, stamp.minute), (.second, stamp.second)]

theorem matchFormat_date {c : Char} (hc : c.toLower.isDigit = false) (items : List FormatItem) :
    matchFormat (dateItems ++ .literal c :: items) stamp.toText =
      (matchFormat (.literal c :: items) stamp.fractionText).map
        (fun (groups, s) => (stamp.dateGroups ++ groups, s)) := by
  obtain ⟨-, hyear, hmonth, hmonth', hday, hday', hhour, hminute, hsecond, -⟩ := stamp.valid
  have hdays := daysInMonth_le stamp.year stamp.month
  simp only [dateItems, toText, List.cons_append, List.nil_append]
  rw [matchFormat_year (by omega), matchFormat_literal,
    matchFormat_padded ⟨by decide, by decide⟩ hmonth hmonth' (by decide), matchFormat_literal,
    matchFormat_padded ⟨by decide, by decide⟩ hday (show _ ≤ 31 by omega) (by decide),
    matchFormat_literal,
    matchFormat_padded ⟨by decide, by decide⟩ (Nat.zero_le _) (show _ ≤ 23 by omega) (by decide),
    matchFormat_literal,
    matchFormat_padded ⟨by decide, by decide⟩ (Nat.zero_le _) (show _ ≤ 59 by omega) (by decide),
    matchFormat_literal,
    matchFormat_padded ⟨by decide, by decide⟩ (Nat.zero_le _) (show _ ≤ 61 by omega) hc]
  simp only [Option.map_map]
  rfl

theorem formatItems_seconds :
    formatItems "%Y-%m-%dT%H:%M:%SZ".toList = some (dateItems ++ [.literal 'Z']) := by
  decide +kernel

theorem formatItems_fraction :
    formatItems "%Y-%m-%dT%H:%M:%S.%fZ".toList =
      some (dateItems ++ [.literal '.', .directive .microsecond, .literal 'Z']) := by
  decide +kernel

theorem strptime_seconds :
    strptime stamp.toText "%Y-%m-%dT%H:%M:%SZ" =
      if stamp.fraction = [] then .ok stamp.start else .error (.valueError none) := by
  rw [strptime, formatItems_seconds, Option.bind_some, matchFormat_date stamp (by decide)]
  split_ifs with hfraction
  · rw [fractionText, if_pos hfraction]
    exact dif_pos stamp.valid
  · rw [fractionText, if_neg hfraction, matchFormat, if_neg (by decide)]
    rfl

theorem matchFormat_fraction (hfraction : stamp.fraction ≠ []) :
    matchFormat [.literal '.', .directive .microsecond, .literal 'Z'] stamp.fractionText =
      if stamp.fraction.length = 9 then none
      else some ([(.microsecond, stamp.microsecond)], []) := by
  have hwidths : ∀ width, fractionMatch width (stamp.fraction ++ ['Z']) =
      if width = stamp.fraction.length then some ([(.microsecond, stamp.microsecond)], [])
      else none := by
    intro width
    rw [fractionMatch_fraction stamp.isDigit]
    split_ifs with h
    · rw [h, microsecond]
    · rfl
  have hlength : stamp.fraction.length ≠ 0 := by simpa using hfraction
  rw [fractionText, if_neg hfraction, matchFormat_literal, matchFormat_microsecond]
  simp only [List.findSome?_cons, hwidths]
  rcases eq_or_ne stamp.fraction.length 9 with h | h
  · simp [h]
  · rcases stamp.length_cases h with h | h | h
    · exact absurd h hlength
    · simp [h]
    · simp [h]

theorem strptime_fraction (hfraction : stamp.fraction ≠ []) :
    strptime stamp.toText "%Y-%m-%dT%H:%M:%S.%fZ" =
      if h : stamp.fraction.length ≤ 6 then .ok (datetime h) else .error (.valueError none) := by
  rw [strptime, formatItems_fraction, Option.bind_some, matchFormat_date stamp (by decide),
    matchFormat_fraction stamp hfraction]
  by_cases h : stamp.fraction.length = 9
  · rw [if_pos h, dif_neg (by omega)]
    rfl
  · have hle : stamp.fraction.length ≤ 6 := by
      have := stamp.length_cases h
      omega
    rw [if_neg h, dif_pos hle]
    exact dif_pos (datetime hle).valid

theorem parseEndTime_toText :
    parseEndTime stamp.toText =
      if h : stamp.fraction.length ≤ 6 then .ok (datetime h) else .error (.valueError none) := by
  rw [parseEndTime, strptime_seconds]
  by_cases hfraction : stamp.fraction = []
  · have hlength : stamp.fraction.length ≤ 6 := by
      rw [hfraction]
      exact Nat.zero_le 6
    have hstart : stamp.start = datetime hlength := by
      simp [start, datetime, microsecond, hfraction]
    rw [if_pos hfraction, dif_pos hlength, hstart]
  · rw [if_neg hfraction]
    exact strptime_fraction stamp hfraction

theorem endTimeMillis_toText :
    endTimeMillis (some stamp.toText) =
      if stamp.fraction.length ≤ 6 then .ok (floatMillis stamp.sinceEpoch)
      else .error (.valueError none) := by
  have hbind : endTimeMillis (some stamp.toText) = (parseEndTime stamp.toText >>= fun t =>
      pure (truncate (binary64 (t.timestamp * 1000)))) := rfl
  rw [hbind, parseEndTime_toText]
  by_cases h : stamp.fraction.length ≤ 6
  · rw [dif_pos h, if_pos h, ← sinceEpoch_datetime h]
    rfl
  · rw [dif_neg h, if_neg h]
    rfl

theorem endTimeMillis_eq_floor_iff :
    endTimeMillis (some stamp.toText) = .ok ⌊1000 * stamp.instant⌋ ↔
      stamp.fraction.length ≤ 6 ∧ KeepsMillisecond stamp.sinceEpoch := by
  rw [endTimeMillis_toText]
  by_cases h : stamp.fraction.length ≤ 6
  · have hbound : stamp.sinceEpoch.natAbs < 2 ^ 41 * 1000000 := by
      rw [← sinceEpoch_datetime h]
      exact (datetime h).natAbs_sinceEpoch_lt
    rw [if_pos h, floor_instant h, Except.ok.injEq, floatMillis_eq_iff hbound, and_iff_right h]
  · rw [if_neg h]
    exact iff_of_false (by simp) (fun hand => h hand.1)

end UtcTimestamp

section

variable {Point : Type} (R : Runtime Point) (endTime : Point → Option Text)

def Runtime.readingEndTime : Runtime Point :=
  { R with timestamp := fun point => endTimeMillis (endTime point) }

def runFetchMetric (service : MonitoredService) (metric : Metric)
    (excludedMetricsAndDimensions : List (Option ExcludedMetric))
    (responses : List (Response Point)) : List (IngestLine PyValue) :=
  match fetchMetric R service metric excludedMetricsAndDimensions responses with
  | .ok lines => lines
  | .error _ => []

/-- The answers go on until one has no time series or no token for a next one. -/
def Complete : List (Response Point) → Prop
  | .page _ nextPageToken :: rest => nextPageToken ≠ [] → Complete rest
  | .noTimeSeries :: _ => True
  | _ => False

def readPoints (responses : List (Response Point)) : List (TimeSeries Point × Point) :=
  (readTimeSeries responses).flatMap (fun series =>
    series.points.map (fun point => (series, point)))

structure HasValues (plan : FetchPlan) (series : TimeSeries Point) : Prop where
  valueOf : ∃ key entityId, typedValueKey series.valueType = .ok key ∧
    createEntityId R plan.source.serviceName plan.source.serviceDimensions series = .ok entityId ∧
    ∀ point ∈ series.points, ∃ value, R.extractValue point key plan.metric = .ok (some value)

/-- One line for each point, with the millisecond in which the point ends. -/
def ExactLines (plan : FetchPlan) (stamp : Point → UtcTimestamp) (responses : List (Response Point))
    (lines : List (IngestLine PyValue)) : Prop :=
  List.Forall₂ (fun point line => LineOf R plan point line ∧
    line.timestamp = ⌊1000 * (stamp point.2).instant⌋) (readPoints responses) lines

end

section

variable {Point : Type} {R : Runtime Point} {plan : FetchPlan}

theorem convertPointToIngestLine_eq_ok {dimensions : List DimensionValue} {metric : Metric}
    {point : Point} {key entityId : Text} {line : IngestLine PyValue}
    (h : convertPointToIngestLine R dimensions metric point key entityId = .ok (some line)) :
    R.timestamp point = .ok line.timestamp := by
  obtain ⟨timestamp, htimestamp, h⟩ := bind_eq_ok_iff.mp h
  rw [htimestamp]
  split at h
  · cases h
    rfl
  · cases h

theorem convertPointToIngestLine_of_value {dimensions : List DimensionValue} {metric : Metric}
    {point : Point} {key entityId : Text} {timestamp : ℤ} {value : PyValue}
    (htimestamp : R.timestamp point = .ok timestamp)
    (hvalue : R.extractValue point key metric = .ok (some value)) :
    ∃ line, convertPointToIngestLine R dimensions metric point key entityId = .ok (some line) := by
  rw [convertPointToIngestLine, htimestamp]
  simp only [bind, Except.bind, hvalue]
  exact ⟨_, rfl⟩

theorem addPages_of_extractable {responses : List (Response Point)} (hends : Complete responses)
    (hextract : ∀ series ∈ readTimeSeries responses, Extractable R plan series)
    (listed : List (IngestLine PyValue)) :
    addPages R plan (.listed listed) responses =
      .ok (.listed (listed ++ (readTimeSeries responses).flatMap (timeSeriesLines R plan))) := by
  induction responses generalizing listed with
  | nil => exact absurd hends id
  | cons response rest ih =>
    cases response with
    | error text => exact absurd hends id
    | noTimeSeries =>
      have hnil : readTimeSeries (.noTimeSeries :: rest) = ([] : List (TimeSeries Point)) := rfl
      rw [addPages, hnil, List.flatMap_nil, List.append_nil]
      rfl
    | page timeSeries nextPageToken =>
      rw [readTimeSeries] at hextract
      obtain ⟨hpage, hrest⟩ := List.forall_mem_append.mp hextract
      rw [addPages, foldlM_addTimeSeries_of_extractable hpage, addAll_listed, readTimeSeries]
      by_cases htoken : nextPageToken ≠ []
      · rw [if_pos htoken] at hrest
        simp only [bind, Except.bind, if_pos htoken]
        rw [ih (hends htoken) hrest, List.flatMap_append, List.append_assoc]
      · simp only [bind, Except.bind, if_neg htoken, List.append_nil]
        rfl

theorem fetchMetric_of_extractable {service : MonitoredService} {metric : Metric}
    {source : MetricSource} {entries : List (Option ExcludedMetric)}
    {responses : List (Response Point)} (hsource : service.metricSource metric = .ok source)
    (hexcluded : (fetchPlan metric source entries).excludedSourceDimensions = [])
    (hends : Complete responses)
    (hextract : ∀ series ∈ readTimeSeries responses,
      Extractable R (fetchPlan metric source entries) series) :
    fetchMetric R service metric entries responses =
      .ok ((readTimeSeries responses).flatMap
        (timeSeriesLines R (fetchPlan metric source entries))) := by
  have haggregate : (fetchPlan metric source entries).aggregateLocally = false := by
    rw [FetchPlan.aggregateLocally, hexcluded]
    rfl
  have hpages := addPages_of_extractable hends hextract []
  rw [fetchMetric, hsource]
  simp only [bind, Except.bind, haggregate, Bool.false_eq_true, if_false]
  rw [hpages, List.nil_append]
  rfl

theorem forall₂_readPoints {responses : List (Response Point)}
    (hextract : ∀ series ∈ readTimeSeries responses, Extractable R plan series) :
    List.Forall₂ (LineOf R plan) (readPoints responses)
      ((readTimeSeries responses).flatMap (timeSeriesLines R plan)) := by
  rw [readPoints]
  generalize readTimeSeries responses = timeSeries at hextract ⊢
  induction timeSeries with
  | nil => exact .nil
  | cons series rest ih =>
    obtain ⟨hseries, hrest⟩ := List.forall_mem_cons.mp hextract
    rw [List.flatMap_cons, List.flatMap_cons]
    exact List.rel_append (forall₂_lineOf hseries) (ih hrest)

theorem mem_readPoints {responses : List (Response Point)} {series : TimeSeries Point}
    {point : Point} :
    (series, point) ∈ readPoints responses ↔
      series ∈ readTimeSeries responses ∧ point ∈ series.points := by
  simp only [readPoints, List.mem_flatMap, List.mem_map, Prod.mk.injEq]
  constructor
  · rintro ⟨other, hother, point', hpoint, rfl, rfl⟩
    exact ⟨hother, hpoint⟩
  · rintro ⟨hseries, hpoint⟩
    exact ⟨series, hseries, point, hpoint, rfl, rfl⟩

theorem timestamp_of_lineOf {point : TimeSeries Point × Point} {line : IngestLine PyValue}
    (h : LineOf R plan point line) : R.timestamp point.2 = .ok line.timestamp := by
  obtain ⟨key, entityId, -, -, hline⟩ := h
  exact convertPointToIngestLine_eq_ok hline

theorem exactLines_iff {stamp : Point → UtcTimestamp} {responses : List (Response Point)}
    {lines : List (IngestLine PyValue)} :
    ExactLines R plan stamp responses lines ↔
      (∀ point ∈ readPoints responses,
        R.timestamp point.2 = .ok ⌊1000 * (stamp point.2).instant⌋) ∧
        List.Forall₂ (LineOf R plan) (readPoints responses) lines := by
  rw [← List.forall₂_and_left, ExactLines]
  constructor
  · intro h
    refine h.imp fun point line hline => ⟨?_, hline.1⟩
    rw [timestamp_of_lineOf hline.1, hline.2]
  · intro h
    refine h.imp fun point line hline => ⟨hline.2, ?_⟩
    exact Except.ok.inj ((timestamp_of_lineOf hline.2).symm.trans hline.1)

theorem timestamps_exact_iff {service : MonitoredService} {metric : Metric} {source : MetricSource}
    {entries : List (Option ExcludedMetric)} {responses : List (Response Point)}
    {endTime : Point → Option Text} {stamp : Point → UtcTimestamp}
    (hsource : service.metricSource metric = .ok source)
    (hexcluded : (fetchPlan metric source entries).excludedSourceDimensions = [])
    (hends : Complete responses)
    (hvalues : ∀ series ∈ readTimeSeries responses,
      HasValues R (fetchPlan metric source entries) series)
    (hstamp : ∀ point ∈ readPoints responses, endTime point.2 = some (stamp point.2).toText) :
    (∃ lines,
      fetchMetric (R.readingEndTime endTime) service metric entries responses = .ok lines ∧
      runFetchMetric (R.readingEndTime endTime) service metric entries responses = lines ∧
      ExactLines (R.readingEndTime endTime) (fetchPlan metric source entries) stamp responses
        lines) ↔
      ∀ point ∈ readPoints responses, (stamp point.2).fraction.length ≤ 6 ∧
        KeepsMillisecond (stamp point.2).sinceEpoch := by
  have htimestamp : ∀ point ∈ readPoints responses,
      (R.readingEndTime endTime).timestamp point.2 = endTimeMillis (some (stamp point.2).toText) :=
    fun point hpoint => congrArg endTimeMillis (hstamp point hpoint)
  have hexact : (∀ point ∈ readPoints responses, (R.readingEndTime endTime).timestamp point.2 =
        .ok ⌊1000 * (stamp point.2).instant⌋) ↔
      ∀ point ∈ readPoints responses, (stamp point.2).fraction.length ≤ 6 ∧
        KeepsMillisecond (stamp point.2).sinceEpoch := by
    apply forall₂_congr
    intro point hpoint
    rw [htimestamp point hpoint, UtcTimestamp.endTimeMillis_eq_floor_iff]
  rw [← hexact]
  constructor
  · rintro ⟨lines, -, -, hlines⟩
    exact (exactLines_iff.mp hlines).1
  · intro hok
    have hextract : ∀ series ∈ readTimeSeries responses,
        Extractable (R.readingEndTime endTime) (fetchPlan metric source entries) series := by
      intro series hseries
      obtain ⟨key, entityId, hkey, hentity, hpoints⟩ := (hvalues series hseries).valueOf
      refine ⟨key, entityId, hkey, hentity, fun point hpoint => ?_⟩
      obtain ⟨value, hvalue⟩ := hpoints point hpoint
      exact convertPointToIngestLine_of_value
        (hok (series, point) (mem_readPoints.mpr ⟨hseries, hpoint⟩)) hvalue
    have hfetch := fetchMetric_of_extractable hsource hexcluded hends hextract
    refine ⟨_, hfetch, ?_, exactLines_iff.mpr ⟨hok, forall₂_readPoints hextract⟩⟩
    rw [runFetchMetric, hfetch]

end

def stampRuntime : Runtime UtcTimestamp where
  floatText := .wholeOrFraction
  limits := ⟨100, 250, 250, 100, 250⟩
  dtSecurityContextValue := "project".toList
  createMmh3Hash := List.flatten
  timestamp := fun _ => .error .keyError
  extractValue := fun _ _ _ => .ok (some (.text "5".toList))

def noonStamp (fraction : String) (isDigit : fraction.toList.all Char.isDigit = true)
    (length : fraction.toList.length ∈ [0, 3, 6, 9]) : UtcTimestamp where
  year := 2024
  month := 5
  day := 1
  hour := 12
  minute := 0
  second := 0
  fraction := fraction.toList
  valid := by decide
  isDigit := List.all_eq_true.mp isDigit
  length := length

def stampSeries (points : List UtcTimestamp) : TimeSeries UtcTimestamp where
  metricLabels := .empty
  resourceLabels := some .empty
  systemLabels := .empty
  userLabels := .empty
  valueType := "INT64".toList
  points := points

def noon : UtcTimestamp := noonStamp "" (by decide) (by decide)

def noonAndMillis : UtcTimestamp := noonStamp "250" (by decide) (by decide)

def noonAndNanos : UtcTimestamp := noonStamp "123456789" (by decide) (by decide)

def stampPages (points : List UtcTimestamp) : List (Response UtcTimestamp) :=
  [.page [stampSeries points] []]

theorem hasValues_stampSeries (plan : FetchPlan) (points : List UtcTimestamp) :
    HasValues stampRuntime plan (stampSeries points) :=
  ⟨_, _, rfl, rfl, fun _ _ => ⟨_, rfl⟩⟩

theorem timestamps_exact_noon :
    (∃ lines,
      fetchMetric (stampRuntime.readingEndTime (fun stamp => some stamp.toText))
        (.extension exampleService) (perqueryMetric []) [] (stampPages [noon, noonAndMillis]) =
          .ok lines ∧
      runFetchMetric (stampRuntime.readingEndTime (fun stamp => some stamp.toText))
        (.extension exampleService) (perqueryMetric []) [] (stampPages [noon, noonAndMillis]) =
          lines ∧
      ExactLines (stampRuntime.readingEndTime (fun stamp => some stamp.toText))
        (fetchPlan (perqueryMetric []) exampleSource []) id (stampPages [noon, noonAndMillis])
        lines) ↔
      ∀ point ∈ readPoints (stampPages [noon, noonAndMillis]),
        (id point.2).fraction.length ≤ 6 ∧ KeepsMillisecond (id point.2).sinceEpoch := by
  refine timestamps_exact_iff rfl rfl (fun h => absurd rfl h) ?_ (fun _ _ => rfl)
  intro series hseries
  obtain rfl := List.mem_singleton.mp hseries
  exact hasValues_stampSeries _ _

theorem nanoseconds_drop_metric :
    HasValues stampRuntime (fetchPlan (perqueryMetric []) exampleSource [])
        (stampSeries [noon, noonAndNanos]) ∧
      noonAndNanos.toText = "2024-05-01T12:00:00.123456789Z".toList ∧
      fetchMetric (stampRuntime.readingEndTime (fun stamp => some stamp.toText))
        (.extension exampleService) (perqueryMetric []) [] (stampPages [noon, noonAndNanos]) =
          .error (.valueError none) ∧
      runFetchMetric (stampRuntime.readingEndTime (fun stamp => some stamp.toText))
        (.extension exampleService) (perqueryMetric []) [] (stampPages [noon, noonAndNanos]) =
          [] := by
  refine ⟨hasValues_stampSeries _ _, by decide +kernel, rfl, rfl⟩

end GcpMonitor.Metrics
