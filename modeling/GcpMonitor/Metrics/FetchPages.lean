import GcpMonitor.Library.ListBlocks
import GcpMonitor.Metrics.FetchRequests

namespace GcpMonitor.Metrics

open Python ExceptList ListBlocks

variable {Point : Type} (R : Runtime Point)

def fetchPages (plan : FetchPlan) :
    QueryParams → Lines → List (Response Point) → List QueryParams × Except PyError Lines
  | params, _, [] => ([params], .error (.exception "Connection closed"))
  | params, _, .error text :: _ => ([params], .error (.exception text))
  | params, lines, .noTimeSeries :: _ => ([params], .ok lines)
  | params, lines, .page timeSeries nextPageToken :: rest =>
    match timeSeries.foldlM (addTimeSeries R plan) lines with
    | .error e => ([params], .error e)
    | .ok lines =>
      if nextPageToken ≠ [] then
        let (requests, result) := fetchPages plan (updateParams nextPageToken params) lines rest
        (params :: requests, result)
      else ([params], .ok lines)

def startLines (plan : FetchPlan) : Lines :=
  if plan.aggregateLocally then .aggregated .empty else .listed []

def fetchRequests (service : MonitoredService) (metric : Metric) (source : MetricSource)
    (excludedMetricsAndDimensions : List (Option ExcludedMetric)) (grouping : Text)
    (interval : FetchInterval) (responses : List (Response Point)) : List QueryParams :=
  let plan := fetchPlan metric source excludedMetricsAndDimensions
  let params := fetchParams service metric source excludedMetricsAndDimensions grouping interval
  (fetchPages R plan params (startLines plan) responses).1

structure TimeSeriesPage (Point : Type) where
  timeSeries : Option (List (TimeSeries Point))
  nextPageToken : Option Text

def TimeSeriesPage.response (page : TimeSeriesPage Point) : Response Point :=
  match page.timeSeries with
  | none => .noTimeSeries
  | some timeSeries => .page timeSeries (page.nextPageToken.getD [])

structure PageChain (pages : List (TimeSeriesPage Point)) : Prop where
  nonempty : pages ≠ []
  continues : ∀ page ∈ pages.dropLast, ∃ token, page.nextPageToken = some token ∧ token ≠ []
  ends : ∀ page, pages.getLast? = some page → page.nextPageToken.getD [] = []

/-- The parameters of the first request and the token of the page, once. -/
def AsksAfter (params : QueryParams) (page : TimeSeriesPage Point) (request : QueryParams) : Prop :=
  request.filter (fun param => ¬ IsPageToken param) = params ∧
    request.filter (fun param => IsPageToken param) =
      [(pageTokenKey, page.nextPageToken.getD [])]

def RequestsEachPage (params : QueryParams) (pages : List (TimeSeriesPage Point))
    (requests : List QueryParams) : Prop :=
  ∃ following, requests = params :: following ∧
    List.Forall₂ (AsksAfter params) pages.dropLast following

def LineOf (plan : FetchPlan) (point : TimeSeries Point × Point) (line : IngestLine PyValue) :
    Prop :=
  ∃ key entityId, typedValueKey point.1.valueType = .ok key ∧
    createEntityId R plan.source.serviceName plan.source.serviceDimensions point.1 =
      .ok entityId ∧
    convertPointToIngestLine R (plan.dimensions R point.1) plan.metric point.2 key entityId =
      .ok (some line)

def TimeSeriesPage.points (page : TimeSeriesPage Point) : List (TimeSeries Point × Point) :=
  (page.timeSeries.getD []).flatMap (fun series => series.points.map (fun point => (series, point)))

def TimeSeriesPage.lines (plan : FetchPlan) (page : TimeSeriesPage Point) :
    List (IngestLine PyValue) :=
  (page.timeSeries.getD []).flatMap (timeSeriesLines R plan)

structure Extractable (plan : FetchPlan) (series : TimeSeries Point) : Prop where
  lineOf : ∃ key entityId, typedValueKey series.valueType = .ok key ∧
    createEntityId R plan.source.serviceName plan.source.serviceDimensions series =
      .ok entityId ∧
    ∀ point ∈ series.points, ∃ line,
      convertPointToIngestLine R (plan.dimensions R series) plan.metric point key entityId =
        .ok (some line)

theorem fetchPages_snd (plan : FetchPlan) (params : QueryParams) (lines : Lines)
    (responses : List (Response Point)) :
    (fetchPages R plan params lines responses).2 = addPages R plan lines responses := by
  induction responses generalizing params lines with
  | nil => rfl
  | cons response rest ih =>
    cases response with
    | error text => rfl
    | noTimeSeries => rfl
    | page timeSeries nextPageToken =>
      rw [fetchPages, addPages]
      cases timeSeries.foldlM (addTimeSeries R plan) lines with
      | error e => rfl
      | ok next =>
        by_cases htoken : nextPageToken ≠ []
        · simp only [if_pos htoken]
          exact ih _ _
        · simp only [if_neg htoken]
          rfl

def addAll (plan : FetchPlan) (lines : Lines) (added : List (IngestLine PyValue)) :
    Except PyError Lines :=
  added.foldlM (fun lines line => addLine R plan.metric.valueType line lines) lines

section

variable {R} {plan : FetchPlan}

theorem addAll_cons (lines : Lines) (line : IngestLine PyValue)
    (added : List (IngestLine PyValue)) :
    addAll R plan lines (line :: added) =
      addLine R plan.metric.valueType line lines >>= fun next => addAll R plan next added :=
  List.foldlM_cons

theorem addAll_append (lines : Lines) (added more : List (IngestLine PyValue)) :
    addAll R plan lines (added ++ more) =
      addAll R plan lines added >>= fun after => addAll R plan after more :=
  List.foldlM_append

theorem addAll_listed (listed added : List (IngestLine PyValue)) :
    addAll R plan (.listed listed) added = .ok (.listed (listed ++ added)) :=
  foldlM_addLine_listed _ _ _

theorem addTimeSeries_of_extractable {series : TimeSeries Point} (h : Extractable R plan series)
    (lines : Lines) :
    addTimeSeries R plan lines series =
      addAll R plan lines (timeSeriesLines R plan series) := by
  obtain ⟨key, entityId, hkey, hentity, hpoints⟩ := h.lineOf
  rw [addTimeSeries, hkey, timeSeriesLines, hkey, hentity]
  simp only [bind, Except.bind]
  generalize series.points = points at hpoints ⊢
  induction points generalizing lines with
  | nil => rfl
  | cons point points ih =>
    obtain ⟨line, hline⟩ := hpoints point List.mem_cons_self
    rw [List.foldlM_cons, List.filterMap_cons, addPoint, hline]
    simp only [addAll_cons, bind, Except.bind]
    cases addLine R plan.metric.valueType line lines with
    | error e => rfl
    | ok next =>
      exact ih next (fun other hother => hpoints other (List.mem_cons_of_mem _ hother))

theorem foldlM_addTimeSeries_of_extractable {series : List (TimeSeries Point)}
    (h : ∀ timeSeries ∈ series, Extractable R plan timeSeries) (lines : Lines) :
    series.foldlM (addTimeSeries R plan) lines =
      addAll R plan lines (series.flatMap (timeSeriesLines R plan)) := by
  induction series generalizing lines with
  | nil => rfl
  | cons first rest ih =>
    rw [List.foldlM_cons, List.flatMap_cons, addAll_append,
      addTimeSeries_of_extractable (h first List.mem_cons_self)]
    congr 1
    funext next
    exact ih (fun timeSeries hmem => h timeSeries (List.mem_cons_of_mem _ hmem)) next

theorem forall₂_lineOf {series : TimeSeries Point} (h : Extractable R plan series) :
    List.Forall₂ (LineOf R plan) (series.points.map (fun point => (series, point)))
      (timeSeriesLines R plan series) := by
  obtain ⟨key, entityId, hkey, hentity, hpoints⟩ := h.lineOf
  rw [timeSeriesLines, hkey, hentity, List.forall₂_map_left_iff]
  dsimp only
  generalize series.points = points at hpoints ⊢
  induction points with
  | nil => exact .nil
  | cons point points ih =>
    obtain ⟨line, hline⟩ := hpoints point List.mem_cons_self
    rw [List.filterMap_cons, hline]
    exact .cons ⟨key, entityId, hkey, hentity, hline⟩
      (ih (fun other hother => hpoints other (List.mem_cons_of_mem _ hother)))

/-- What the loop needs to come to the last page: no page before it ends the loop, and the lines
read so far can be added. -/
structure ComesToLast (R : Runtime Point) (plan : FetchPlan) (pages : List (TimeSeriesPage Point))
    (lines : Lines) : Prop where
  timeSeries : ∀ page ∈ pages.dropLast, page.timeSeries ≠ none
  added : ∃ after, addAll R plan lines
    (pages.dropLast.flatMap (TimeSeriesPage.lines R plan)) = .ok after

theorem ComesToLast.singleton (page : TimeSeriesPage Point) (lines : Lines) :
    ComesToLast R plan [page] lines :=
  ⟨nofun, lines, rfl⟩

theorem comesToLast_cons_iff {page next : TimeSeriesPage Point} {rest : List (TimeSeriesPage Point)}
    {lines : Lines} :
    ComesToLast R plan (page :: next :: rest) lines ↔
      page.timeSeries ≠ none ∧ ∃ after,
        addAll R plan lines (page.lines R plan) = .ok after ∧
          ComesToLast R plan (next :: rest) after := by
  constructor
  · rintro ⟨hseries, after, hadded⟩
    rw [List.dropLast_cons_cons] at hseries hadded
    rw [List.flatMap_cons, addAll_append] at hadded
    obtain ⟨middle, hmiddle, hrest⟩ := bind_eq_ok_iff.mp hadded
    exact ⟨hseries page List.mem_cons_self, middle, hmiddle,
      fun other hother => hseries other (List.mem_cons_of_mem _ hother), after, hrest⟩
  · rintro ⟨hpage, middle, hmiddle, hseries, after, hrest⟩
    refine ⟨?_, after, ?_⟩
    · rw [List.dropLast_cons_cons]
      exact List.forall_mem_cons.mpr ⟨hpage, hseries⟩
    · rw [List.dropLast_cons_cons, List.flatMap_cons, addAll_append]
      exact bind_eq_ok_iff.mpr ⟨middle, hmiddle, hrest⟩

theorem fetchPages_cons {page : TimeSeriesPage Point} {timeSeries : List (TimeSeries Point)}
    (hseries : page.timeSeries = some timeSeries)
    (hextract : ∀ series ∈ page.timeSeries.getD [], Extractable R plan series)
    (params : QueryParams) (lines : Lines) (responses : List (Response Point)) :
    fetchPages R plan params lines (page.response :: responses) =
      match addAll R plan lines (page.lines R plan) with
      | .error e => ([params], .error e)
      | .ok lines =>
        if page.nextPageToken.getD [] ≠ [] then
          (params :: (fetchPages R plan (updateParams (page.nextPageToken.getD []) params) lines
              responses).1,
            (fetchPages R plan (updateParams (page.nextPageToken.getD []) params) lines
              responses).2)
        else ([params], .ok lines) := by
  rw [TimeSeriesPage.lines, ← foldlM_addTimeSeries_of_extractable hextract, hseries]
  simp only [TimeSeriesPage.response, hseries, fetchPages, Option.getD_some]

theorem comesToLast_of_length {pages : List (TimeSeriesPage Point)} (hne : pages ≠ [])
    (hcontinues : ∀ page ∈ pages.dropLast, page.nextPageToken.getD [] ≠ [])
    (hextract : ∀ page ∈ pages, ∀ series ∈ page.timeSeries.getD [], Extractable R plan series)
    {params : QueryParams} {lines : Lines}
    (hlength : (fetchPages R plan params lines
      (pages.map TimeSeriesPage.response)).1.length = pages.length) :
    ComesToLast R plan pages lines := by
  induction pages generalizing params lines with
  | nil => exact absurd rfl hne
  | cons page rest ih =>
    cases rest with
    | nil => exact .singleton page lines
    | cons next rest =>
      rw [List.dropLast_cons_cons] at hcontinues
      obtain ⟨hpage, hcontinues⟩ := List.forall_mem_cons.mp hcontinues
      obtain ⟨hextractPage, hextract⟩ := List.forall_mem_cons.mp hextract
      rw [List.map_cons] at hlength
      rw [comesToLast_cons_iff]
      cases hseries : page.timeSeries with
      | none =>
        rw [TimeSeriesPage.response, hseries] at hlength
        simp [fetchPages] at hlength
      | some timeSeries =>
        rw [fetchPages_cons hseries hextractPage] at hlength
        cases hadded : addAll R plan lines (page.lines R plan) with
        | error e =>
          rw [hadded] at hlength
          simp at hlength
        | ok after =>
          rw [hadded] at hlength
          simp only [if_pos hpage, List.length_cons, Nat.add_right_cancel_iff] at hlength
          exact ⟨Option.some_ne_none _, after, rfl,
            ih (List.cons_ne_nil _ _) hcontinues hextract hlength⟩

theorem fetchPages_of_comesToLast {pages : List (TimeSeriesPage Point)}
    (hchain : PageChain pages)
    (hextract : ∀ page ∈ pages, ∀ series ∈ page.timeSeries.getD [], Extractable R plan series)
    {params : QueryParams} (hparams : ∀ param ∈ params, ¬ IsPageToken param)
    (previous : Option Text) {lines : Lines} (hlast : ComesToLast R plan pages lines) :
    fetchPages R plan (withToken params previous) lines (pages.map TimeSeriesPage.response) =
      (withToken params previous ::
          pages.dropLast.map (fun page => withToken params page.nextPageToken),
        addAll R plan lines (pages.flatMap (TimeSeriesPage.lines R plan))) := by
  induction pages generalizing previous lines with
  | nil => exact absurd rfl hchain.nonempty
  | cons page rest ih =>
    obtain ⟨hextractPage, hextractRest⟩ := List.forall_mem_cons.mp hextract
    cases rest with
    | nil =>
      have hends := hchain.ends page rfl
      rw [List.map_singleton, List.dropLast_singleton, List.map_nil, List.flatMap_singleton]
      cases hseries : page.timeSeries with
      | none =>
        rw [TimeSeriesPage.response, TimeSeriesPage.lines, hseries]
        rfl
      | some timeSeries =>
        rw [fetchPages_cons hseries hextractPage]
        cases addAll R plan lines (page.lines R plan) with
        | error e => rfl
        | ok after => exact if_neg (not_not.mpr hends)
    | cons next rest =>
      obtain ⟨hpage, after, hadded, hrest⟩ := comesToLast_cons_iff.mp hlast
      obtain ⟨timeSeries, hseries⟩ := Option.ne_none_iff_exists'.mp hpage
      have hcontinues := hchain.continues
      rw [List.dropLast_cons_cons] at hcontinues
      obtain ⟨⟨token, htoken, hne⟩, hcontinues⟩ := List.forall_mem_cons.mp hcontinues
      have hnext : PageChain (next :: rest) :=
        ⟨List.cons_ne_nil _ _, hcontinues, fun last h => hchain.ends last (by simpa using h)⟩
      rw [List.map_cons, fetchPages_cons hseries hextractPage, hadded, htoken, Option.getD_some,
        updateParams_withToken hparams]
      have hfold : addAll R plan lines
          ((page :: next :: rest).flatMap (TimeSeriesPage.lines R plan)) =
            addAll R plan after ((next :: rest).flatMap (TimeSeriesPage.lines R plan)) := by
        rw [List.flatMap_cons, addAll_append, hadded]
        rfl
      simp only [if_pos hne]
      rw [ih hnext hextractRest (some token) hrest, hfold, List.dropLast_cons_cons, List.map_cons,
        htoken]

theorem asksAfter_withToken {params : QueryParams} (hparams : ∀ param ∈ params, ¬ IsPageToken param)
    {page : TimeSeriesPage Point} {token : Text} (htoken : page.nextPageToken = some token) :
    AsksAfter params page (withToken params page.nextPageToken) := by
  have hkey : IsPageToken (pageTokenKey, token) := rfl
  have hothers : params.filter (fun param => IsPageToken param) = [] := by
    rw [List.filter_eq_nil_iff]
    intro param hparam
    simpa using hparams param hparam
  have hkept : params.filter (fun param => ¬ IsPageToken param) = params := by
    rw [List.filter_eq_self]
    intro param hparam
    simpa using hparams param hparam
  rw [AsksAfter, withToken, htoken]
  constructor
  · rw [List.filter_append, hkept]
    simp [hkey]
  · rw [List.filter_append, hothers]
    simp [hkey]

theorem foldlM_addLine_of_aggregated {valueType : Text} {lines : List (IngestLine PyValue)}
    {start aggregated : Aggregated}
    (h : lines.foldlM (addAggregatedLine R.floatText valueType) start = .ok aggregated) :
    lines.foldlM (fun lines line => addLine R valueType line lines) (.aggregated start) =
      .ok (.aggregated aggregated) := by
  induction lines generalizing start with
  | nil =>
    cases h
    rfl
  | cons line lines ih =>
    rw [List.foldlM_cons] at h
    obtain ⟨next, hnext, hrest⟩ := bind_eq_ok_iff.mp h
    exact bind_eq_ok_iff.mpr
      ⟨.aggregated next, bind_eq_ok_iff.mpr ⟨next, hnext, rfl⟩, ih hrest⟩

theorem startLines_of_not_aggregateLocally (h : plan.aggregateLocally ≠ true) :
    startLines plan = .listed [] := if_neg h

variable (R plan) in
theorem added_startLines_iff (lines : List (IngestLine PyValue)) :
    (∃ after, addAll R plan (startLines plan) lines = .ok after) ↔
      (plan.aggregateLocally = true →
        ∃ aggregated, aggregateLines R.floatText plan.metric.valueType lines = .ok aggregated) := by
  by_cases haggregate : plan.aggregateLocally = true
  · rw [startLines, if_pos haggregate, forall_prop_of_true haggregate]
    constructor
    · rintro ⟨after, hafter⟩
      obtain ⟨aggregated, -, hfold⟩ := foldlM_addLine_aggregated hafter
      exact ⟨aggregated.values, bind_eq_ok_iff.mpr ⟨aggregated, hfold, rfl⟩⟩
    · rintro ⟨values, hvalues⟩
      obtain ⟨aggregated, hfold, -⟩ := bind_eq_ok_iff.mp hvalues
      exact ⟨_, foldlM_addLine_of_aggregated hfold⟩
  · rw [startLines_of_not_aggregateLocally haggregate]
    exact iff_of_true ⟨_, addAll_listed _ _⟩ (fun h => absurd h haggregate)

theorem forall₂_points_lines {pages : List (TimeSeriesPage Point)}
    (hextract : ∀ page ∈ pages, ∀ series ∈ page.timeSeries.getD [], Extractable R plan series) :
    List.Forall₂ (LineOf R plan) (pages.flatMap TimeSeriesPage.points)
      (pages.flatMap (TimeSeriesPage.lines R plan)) :=
  forall₂_flatMap (fun page hpage => forall₂_flatMap (fun series hseries =>
    forall₂_lineOf (hextract page hpage series hseries)))

theorem fetchMetric_of_addPages {service : MonitoredService} {metric : Metric}
    {source : MetricSource} {entries : List (Option ExcludedMetric)}
    {responses : List (Response Point)} {lines : Lines}
    (hsource : service.metricSource metric = .ok source)
    (h : addPages R (fetchPlan metric source entries) (startLines (fetchPlan metric source entries))
      responses = .ok lines) :
    fetchMetric R service metric entries responses = .ok lines.values :=
  bind_eq_ok_iff.mpr ⟨source, hsource, bind_eq_ok_iff.mpr ⟨lines, h, rfl⟩⟩

end

theorem fetch_reads_every_page_iff (service : MonitoredService) (metric : Metric)
    (source : MetricSource) (entries : List (Option ExcludedMetric)) (grouping : Text)
    (interval : FetchInterval) (pages : List (TimeSeriesPage Point))
    (hsource : service.metricSource metric = .ok source) (hchain : PageChain pages)
    (hextract : ∀ page ∈ pages, ∀ series ∈ page.timeSeries.getD [],
      Extractable R (fetchPlan metric source entries) series) :
    (RequestsEachPage (fetchParams service metric source entries grouping interval) pages
        (fetchRequests R service metric source entries grouping interval
          (pages.map TimeSeriesPage.response)) ∧
      ((fetchPlan metric source entries).excludedSourceDimensions = [] →
        ∃ lines, fetchMetric R service metric entries (pages.map TimeSeriesPage.response) =
            .ok lines ∧
          List.Forall₂ (LineOf R (fetchPlan metric source entries))
            (pages.flatMap TimeSeriesPage.points) lines)) ↔
      (∀ page ∈ pages.dropLast, page.timeSeries ≠ none) ∧
        ((fetchPlan metric source entries).aggregateLocally = true →
          ∃ aggregated, aggregateLines R.floatText metric.valueType
            (pages.dropLast.flatMap
              (TimeSeriesPage.lines R (fetchPlan metric source entries))) = .ok aggregated) := by
  have hparams := not_isPageToken_fetchParams service metric source entries grouping interval
  refine Iff.trans ?_ (and_congr_right
    (fun _ => added_startLines_iff R (fetchPlan metric source entries) _))
  constructor
  · rintro ⟨⟨following, hrequests, hasks⟩, -⟩
    have hlength : (fetchRequests R service metric source entries grouping interval
        (pages.map TimeSeriesPage.response)).length = pages.length := by
      have hpos := List.length_pos_of_ne_nil hchain.nonempty
      rw [hrequests, List.length_cons, ← hasks.length_eq, List.length_dropLast]
      omega
    have hcontinues : ∀ page ∈ pages.dropLast, page.nextPageToken.getD [] ≠ [] := by
      intro page hpage
      obtain ⟨token, htoken, hne⟩ := hchain.continues page hpage
      rw [htoken]
      exact hne
    have hlast := comesToLast_of_length hchain.nonempty hcontinues hextract hlength
    exact ⟨hlast.timeSeries, hlast.added⟩
  · rintro ⟨hseries, hadded⟩
    have hrun := fetchPages_of_comesToLast hchain hextract hparams none ⟨hseries, hadded⟩
    have hnone : withToken (fetchParams service metric source entries grouping interval) none =
        fetchParams service metric source entries grouping interval := List.append_nil _
    rw [hnone] at hrun
    refine ⟨⟨_, congrArg Prod.fst hrun, ?_⟩, ?_⟩
    · rw [List.forall₂_map_right_iff, List.forall₂_same]
      intro page hpage
      obtain ⟨token, htoken, -⟩ := hchain.continues page hpage
      exact asksAfter_withToken hparams htoken
    · intro hexcluded
      have haggregate : (fetchPlan metric source entries).aggregateLocally ≠ true := by
        rw [FetchPlan.aggregateLocally, hexcluded]
        exact Bool.false_ne_true
      have hresult := congrArg Prod.snd hrun
      rw [fetchPages_snd, startLines_of_not_aggregateLocally haggregate, addAll_listed,
        ← startLines_of_not_aggregateLocally haggregate] at hresult
      exact ⟨_, fetchMetric_of_addPages hsource hresult, forall₂_points_lines hextract⟩

def exampleInterval : FetchInterval :=
  ⟨"2024-01-01T00:00:00Z".toList, "2024-01-01T00:01:00Z".toList, "60.0s".toList⟩

theorem extractable_querystringSeries (plan : FetchPlan) :
    Extractable exampleRuntime plan querystringSeries := by
  refine ⟨"int64Value".toList, _, rfl, rfl, ?_⟩
  intro point _
  exact ⟨_, rfl⟩

def emptyFirstPage : List (TimeSeriesPage Unit) :=
  [⟨none, some "second".toList⟩, ⟨some [querystringSeries], none⟩]

def twoFullPages : List (TimeSeriesPage Unit) :=
  [⟨some [querystringSeries], some "second".toList⟩, ⟨some [querystringSeries], some []⟩]

theorem pageChain_of_second {first last : Option (List (TimeSeries Unit))} {token : Option Text}
    (htoken : token.getD [] = []) : PageChain [⟨first, some "second".toList⟩, ⟨last, token⟩] where
  nonempty := List.cons_ne_nil _ _
  continues := by
    intro page hpage
    rw [List.mem_singleton.mp hpage]
    exact ⟨_, rfl, by decide⟩
  ends := by
    intro page hpage
    cases hpage
    exact htoken

theorem empty_page_ends_fetch :
    ¬ ∀ (R : Runtime Unit) (service : MonitoredService) (metric : Metric) (source : MetricSource)
      (entries : List (Option ExcludedMetric)) (grouping : Text) (interval : FetchInterval)
      (pages : List (TimeSeriesPage Unit)),
      service.metricSource metric = .ok source → PageChain pages →
        (∀ page ∈ pages, ∀ series ∈ page.timeSeries.getD [],
          Extractable R (fetchPlan metric source entries) series) →
          RequestsEachPage (fetchParams service metric source entries grouping interval) pages
              (fetchRequests R service metric source entries grouping interval
                (pages.map TimeSeriesPage.response)) ∧
            ((fetchPlan metric source entries).excludedSourceDimensions = [] →
              ∃ lines, fetchMetric R service metric entries
                  (pages.map TimeSeriesPage.response) = .ok lines ∧
                List.Forall₂ (LineOf R (fetchPlan metric source entries))
                  (pages.flatMap TimeSeriesPage.points) lines) := by
  intro hclaim
  have hextract : ∀ page ∈ emptyFirstPage, ∀ series ∈ page.timeSeries.getD [],
      Extractable exampleRuntime (fetchPlan (perqueryMetric []) exampleSource []) series := by
    intro page hpage series hseries
    obtain rfl : series = querystringSeries := by
      rcases List.mem_cons.mp hpage with rfl | hpage
      · exact absurd hseries List.not_mem_nil
      · rw [List.mem_singleton.mp hpage] at hseries
        exact List.mem_singleton.mp hseries
    exact extractable_querystringSeries _
  obtain ⟨⟨following, hrequests, hasks⟩, -⟩ := hclaim exampleRuntime (.extension exampleService)
    (perqueryMetric []) exampleSource [] noGroupingCategory exampleInterval emptyFirstPage rfl
    (pageChain_of_second rfl) hextract
  have honce : fetchRequests exampleRuntime (.extension exampleService) (perqueryMetric [])
      exampleSource [] noGroupingCategory exampleInterval
        (emptyFirstPage.map TimeSeriesPage.response) =
          [fetchParams (.extension exampleService) (perqueryMetric []) exampleSource []
            noGroupingCategory exampleInterval] := rfl
  rw [honce] at hrequests
  obtain rfl := (List.cons.inj hrequests).2
  exact absurd hasks.length_eq (by decide)

theorem fetch_reads_two_full_pages :
    RequestsEachPage
        (fetchParams (.extension exampleService) (perqueryMetric []) exampleSource []
          noGroupingCategory exampleInterval) twoFullPages
        (fetchRequests exampleRuntime (.extension exampleService) (perqueryMetric [])
          exampleSource [] noGroupingCategory exampleInterval
          (twoFullPages.map TimeSeriesPage.response)) ∧
      ((fetchPlan (perqueryMetric []) exampleSource []).excludedSourceDimensions = [] →
        ∃ lines, fetchMetric exampleRuntime (.extension exampleService) (perqueryMetric []) []
            (twoFullPages.map TimeSeriesPage.response) = .ok lines ∧
          List.Forall₂ (LineOf exampleRuntime (fetchPlan (perqueryMetric []) exampleSource []))
            (twoFullPages.flatMap TimeSeriesPage.points) lines) := by
  have hextract : ∀ page ∈ twoFullPages, ∀ series ∈ page.timeSeries.getD [],
      Extractable exampleRuntime (fetchPlan (perqueryMetric []) exampleSource []) series := by
    intro page hpage series hseries
    obtain rfl : series = querystringSeries := by
      rcases List.mem_cons.mp hpage with rfl | hpage
      · exact List.mem_singleton.mp hseries
      · rw [List.mem_singleton.mp hpage] at hseries
        exact List.mem_singleton.mp hseries
    exact extractable_querystringSeries _
  have hfull : ∀ page ∈ twoFullPages.dropLast, page.timeSeries ≠ none := by
    intro page hpage
    rw [List.mem_singleton.mp hpage]
    exact Option.some_ne_none _
  have hlisted : (fetchPlan (perqueryMetric []) exampleSource []).aggregateLocally ≠ true := by
    decide +kernel
  exact (fetch_reads_every_page_iff exampleRuntime (.extension exampleService) (perqueryMetric [])
    exampleSource [] noGroupingCategory exampleInterval twoFullPages rfl (pageChain_of_second rfl)
    hextract).mpr ⟨hfull, fun h => absurd h hlisted⟩

end GcpMonitor.Metrics
