import GcpMonitor.Paging.TokenLoops

namespace GcpMonitor.Paging

open Python Entities Autodiscovery ExceptList PageServer

def pageNextToken (page : Json) : Option Text :=
  match page.get "nextPageToken" .null with
  | .ok (.str token) => some token
  | _ => none

def jsonServer (reply : Option Text → Json) : PageServer Text Json := ⟨[], pageNextToken, reply⟩

/-- An object whose items can be read and whose token, if there is one, is a text. -/
structure SuccessfulPage {Item : Type} (read : Json → Except PyError (List Item)) (page : Json) :
    Prop where
  token : ∃ entries, page = .map entries ∧
    ∀ token, entries.lookup "nextPageToken".toList = some token → ∃ t, token = .str t
  items : ∃ items, read page = .ok items

def itemsOf {Item : Type} (read : Json → Except PyError (List Item)) (page : Json) : List Item :=
  match read page with
  | .ok items => items
  | .error _ => []

def disabledNames (page : Json) : Except PyError (List Json) := do
  (← services page).mapM serviceName

structure DescriptorsPage where
  metricDescriptors : Option (List MetricDescriptorItem)
  nextPageToken : Option Text

def DescriptorsPage.response (page : DescriptorsPage) : ListingResponse :=
  .page (page.metricDescriptors.getD []) (page.nextPageToken.getD [])

def descriptorServer (reply : Option Text → DescriptorsPage) : PageServer Text DescriptorsPage :=
  ⟨[], DescriptorsPage.nextPageToken, reply⟩

theorem pageToken_setPageToken (params : QueryDict) (token : Text) :
    pageToken (setPageToken params (.str token)) = some token := by
  rw [pageToken, setPageToken, OrderedDict.get_set_self]

section Page

variable {Item : Type} {read : Json → Except PyError (List Item)} {page : Json}

theorem SuccessfulPage.read_eq (h : SuccessfulPage read page) :
    read page = .ok (itemsOf read page) := by
  obtain ⟨items, hitems⟩ := h.items
  rw [itemsOf, hitems]

theorem SuccessfulPage.get_eq (h : SuccessfulPage read page) (default : Json) :
    page.get "nextPageToken" default = .ok ((pageNextToken page).elim default .str) ∧
      page.contains "nextPageToken" = .ok (pageNextToken page).isSome := by
  obtain ⟨entries, rfl, htoken⟩ := h.token
  cases hlookup : entries.lookup "nextPageToken".toList with
  | none =>
    have hnone : pageNextToken (.map entries) = none := by
      rw [pageNextToken, Json.get, hlookup]
      rfl
    rw [hnone, Json.get, Json.contains, hlookup]
    exact ⟨rfl, rfl⟩
  | some token =>
    obtain ⟨t, rfl⟩ := htoken token hlookup
    have hsome : pageNextToken (.map entries) = some t := by
      rw [pageNextToken, Json.get, hlookup]
      rfl
    rw [hsome, Json.get, Json.contains, hlookup]
    exact ⟨rfl, rfl⟩

end Page

section GenericPaging

variable {mapper : Mapper} {page : Json}

theorem genericPaging_step_next (h : SuccessfulPage mapper page) {token : Text}
    (htoken : pageNextToken page = some token) (state : EntityPaging) :
    (genericPagingLoop mapper).step state (.page 200 page) =
      .inl ⟨setPageToken state.params (.str token), state.entities ++ itemsOf mapper page⟩ := by
  obtain ⟨hget, hcontains⟩ := h.get_eq .null
  rw [htoken] at hget hcontains
  have hread : readPage mapper (.page 200 page) = .next (itemsOf mapper page) := by
    rw [readPage, if_neg (by decide), h.read_eq]
    simp only [hcontains]
    rfl
  simp only [genericPagingLoop, hread, nextPageToken, hget]
  rfl

theorem genericPaging_step_last (h : SuccessfulPage mapper page)
    (htoken : pageNextToken page = none) (state : EntityPaging) :
    (genericPagingLoop mapper).step state (.page 200 page) =
      .inr (.ok (state.entities ++ itemsOf mapper page)) := by
  have hcontains := (h.get_eq .null).2
  rw [htoken] at hcontains
  have hread : readPage mapper (.page 200 page) = .last (itemsOf mapper page) := by
    rw [readPage, if_neg (by decide), h.read_eq]
    simp only [hcontains]
    rfl
  simp only [genericPagingLoop, hread]

theorem genericPaging_readInFull_iff {reply : Option Text → Json} {pages : List Json}
    (hserver : (jsonServer reply).Serves pages)
    (hpages : ∀ page ∈ pages, SuccessfulPage mapper page) :
    ReadInFull (jsonServer reply) (genericPagingLoop mapper) pageToken (.page 200)
        EntityPaging.start pages (.ok (pages.flatMap (itemsOf mapper))) ↔
      ∀ last, pages.getLast? = some last → pageNextToken last = none := by
  constructor
  · intro h last hlast
    by_contra htoken
    refine hserver.not_readInFull hlast htoken rfl ?_ _ h
    intro state page next hpage hnext
    refine ⟨_, genericPaging_step_next (hpages page hpage) hnext state, .inl ?_⟩
    exact pageToken_setPageToken _ _
  · intro habsent
    refine hserver.readInFull
      (fun before (state : EntityPaging) => state.entities = before.flatMap (itemsOf mapper))
      (fun before => Except.ok (before.flatMap (itemsOf mapper))) rfl rfl ?_ ?_
    · intro before page state next hreads hpage hnext _
      refine ⟨_, genericPaging_step_next (hpages page hpage) hnext state, ?_,
        pageToken_setPageToken _ _⟩
      simp only [hreads, List.flatMap_append, List.flatMap_singleton]
    · intro before page state hreads hlast
      have hpage := List.mem_of_getLast? hlast
      rw [genericPaging_step_last (hpages page hpage) (habsent page hlast), hreads,
        List.flatMap_append, List.flatMap_singleton]

end GenericPaging

section DisabledApis

variable {page : Json}

theorem namesBeforeFailure_eq {services names : List Json}
    (h : services.mapM serviceName = .ok names) : namesBeforeFailure services = names := by
  rw [mapM_eq_ok_iff] at h
  induction h with
  | nil => rfl
  | cons hname _ ih => rw [namesBeforeFailure, hname, ih]

theorem disabledApis_step (h : SuccessfulPage disabledNames page) (state : DisabledApisPaging) :
    getAllDisabledApisLoop.step state (.page 200 page) =
      match pageNextToken page with
      | none => .inr (state.disabledApis ++ itemsOf disabledNames page)
      | some token => .inl ⟨state.nextParams, .str token,
          state.disabledApis ++ itemsOf disabledNames page⟩ := by
  obtain ⟨services, hservices, hnames⟩ := bind_eq_ok_iff.mp h.read_eq
  have hget := (h.get_eq .null).1
  simp only [getAllDisabledApisLoop, if_neg (not_not.mpr rfl), hservices, hnames,
    namesBeforeFailure_eq hnames, nextPageToken, hget]
  cases pageNextToken page with
  | none => rfl
  | some token => rfl

theorem disabledApis_request (state : DisabledApisPaging) (token : Text) (names : List Json) :
    pageToken (getAllDisabledApisLoop.request ⟨state.nextParams, .str token, names⟩) =
      if token = [] then pageToken (getAllDisabledApisLoop.request state) else some token := by
  by_cases htoken : token = []
  · rw [if_pos htoken, htoken]
    rfl
  · have htruthy : (Json.str token).truthy = true := decide_eq_true htoken
    rw [if_neg htoken]
    simp only [getAllDisabledApisLoop, DisabledApisPaging.nextParams, if_pos htruthy]
    exact pageToken_setPageToken _ _

theorem disabledApis_readInFull_iff {reply : Option Text → Json} {pages : List Json}
    (hserver : (jsonServer reply).Serves pages)
    (hpages : ∀ page ∈ pages, SuccessfulPage disabledNames page) :
    ReadInFull (jsonServer reply) getAllDisabledApisLoop pageToken (.page 200)
        DisabledApisPaging.start pages (pages.flatMap (itemsOf disabledNames)) ↔
      ∀ last, pages.getLast? = some last → pageNextToken last = none := by
  constructor
  · intro h last hlast
    by_contra htoken
    refine hserver.not_readInFull hlast htoken (by decide +kernel) ?_ _ h
    intro state page next hpage hnext
    have hstep := disabledApis_step (hpages page hpage) state
    have htext : pageNextToken page = some next := hnext
    rw [htext] at hstep
    refine ⟨_, hstep, ?_⟩
    rw [disabledApis_request]
    -- An empty token leaves the parameters as they are, so the same page is asked for again.
    by_cases hempty : next = []
    · exact .inr (if_pos hempty)
    · exact .inl (if_neg hempty)
  · intro habsent
    refine hserver.readInFull
      (fun before (state : DisabledApisPaging) =>
        state.disabledApis = before.flatMap (itemsOf disabledNames))
      (fun before => before.flatMap (itemsOf disabledNames)) rfl (by decide +kernel) ?_ ?_
    · intro before page state next hreads hpage hnext hne
      have hstep := disabledApis_step (hpages page hpage) state
      have htext : pageNextToken page = some next := hnext
      rw [htext] at hstep
      refine ⟨_, hstep, ?_, ?_⟩
      · simp only [hreads, List.flatMap_append, List.flatMap_singleton]
      · rw [disabledApis_request]
        exact if_neg hne
    · intro before page state hreads hlast
      have hstep := disabledApis_step (hpages page (List.mem_of_getLast? hlast)) state
      rw [habsent page hlast] at hstep
      rw [hstep, hreads, List.flatMap_append, List.flatMap_singleton]

end DisabledApis

section Projects

variable {page : Json}

def IsTextItem (item : Json) : Prop := ∃ s, item = .str s

theorem loggedProjects_eq {projects : List Json} (h : ∀ project ∈ projects, IsTextItem project) :
    loggedProjects projects = .ok projects := by
  apply if_pos
  rw [List.all_eq_true]
  intro project hproject
  obtain ⟨s, rfl⟩ := h project hproject
  rfl

theorem readProjects_eq (h : SuccessfulPage projectIds page) :
    readProjects (.page 200 page) =
      .ok (itemsOf projectIds page, .str ((pageNextToken page).getD [])) := by
  have hget := (h.get_eq (text "")).1
  rw [readProjects]
  simp only [h.read_eq, nextPageToken, hget, bind, Except.bind]
  cases pageNextToken page with
  | none => rfl
  | some token => rfl

theorem projects_readInFull {reply : Option Text → Json} {pages : List Json}
    (hserver : (jsonServer reply).Serves pages)
    (hpages : ∀ page ∈ pages, SuccessfulPage projectIds page)
    (htexts : ∀ page ∈ pages, ∀ id ∈ itemsOf projectIds page, IsTextItem id) :
    ReadInFull (jsonServer reply) getAllAccessibleProjectsLoop pageToken (.page 200)
      ProjectPaging.start pages (.ok (pages.flatMap (itemsOf projectIds))) := by
  refine hserver.readInFull
    (fun before (state : ProjectPaging) => (∀ page ∈ before, page ∈ pages) ∧
      state.allProjects = before.flatMap (itemsOf projectIds))
    (fun before => Except.ok (before.flatMap (itemsOf projectIds))) ⟨nofun, rfl⟩
      (by decide +kernel) ?_ ?_
  · rintro before page state next ⟨hbefore, hreads⟩ hpage hnext hne
    have hread := readProjects_eq (hpages page hpage)
    have htext : pageNextToken page = some next := hnext
    rw [htext, Option.getD_some] at hread
    refine ⟨⟨setPageToken state.params (.str next), state.allProjects ++ itemsOf projectIds page⟩,
      ?_, ⟨?_, ?_⟩, pageToken_setPageToken _ _⟩
    · simp only [getAllAccessibleProjectsLoop, hread]
      split
      · contradiction
      · next heq =>
        cases heq
        exact absurd rfl hne
      · next heq =>
        cases heq
        rfl
    · intro other hother
      rcases List.mem_append.mp hother with hother | hother
      · exact hbefore other hother
      · rw [List.mem_singleton.mp hother]
        exact hpage
    · simp only [hreads, List.flatMap_append, List.flatMap_singleton]
  · rintro before page state ⟨hbefore, hreads⟩ hlast
    have hpage := List.mem_of_getLast? hlast
    have hread := readProjects_eq (hpages page hpage)
    have hnone : (pageNextToken page).getD [] = [] := by
      cases htoken : pageNextToken page with
      | none => rfl
      | some token => exact hserver.last page hlast token htoken
    rw [hnone] at hread
    have hlogged : loggedProjects (state.allProjects ++ itemsOf projectIds page) =
        .ok (state.allProjects ++ itemsOf projectIds page) := by
      apply loggedProjects_eq
      intro project hproject
      rw [hreads] at hproject
      rcases List.mem_append.mp hproject with hproject | hproject
      · obtain ⟨other, hother, hid⟩ := List.mem_flatMap.mp hproject
        exact htexts other (hbefore other hother) project hid
      · exact htexts page hpage project hproject
    simp only [getAllAccessibleProjectsLoop, hread, hlogged]
    rw [hreads, List.flatMap_append, List.flatMap_singleton]

end Projects

section Descriptors

variable (selection : MetricSelection) (resourcesToAutodiscover : List Text) (projectId : Text)

def DescriptorsPage.metrics (page : DescriptorsPage) : List GCPMetricDescriptor :=
  (page.metricDescriptors.getD []).filterMap (included selection resourcesToAutodiscover)

theorem pageToken_descriptorStart :
    ∀ activeOnly, pageToken (DescriptorPaging.start activeOnly).params = none := by
  decide +kernel

theorem descriptors_readInFull (activeOnly : Bool) {reply : Option Text → DescriptorsPage}
    {pages : List DescriptorsPage} (hserver : (descriptorServer reply).Serves pages) :
    ReadInFull (descriptorServer reply)
      (runFetchMetricDescriptorsLoop selection resourcesToAutodiscover projectId) pageToken
      DescriptorsPage.response (DescriptorPaging.start activeOnly) pages
      (descriptorResults projectId
        (pages.flatMap (DescriptorsPage.metrics selection resourcesToAutodiscover))) := by
  refine hserver.readInFull
    (fun before (state : DescriptorPaging) => state.projectDiscoveredMetrics =
      before.flatMap (DescriptorsPage.metrics selection resourcesToAutodiscover))
    (fun before => descriptorResults projectId
      (before.flatMap (DescriptorsPage.metrics selection resourcesToAutodiscover))) rfl
    (pageToken_descriptorStart activeOnly) ?_ ?_
  · intro before page state next hreads _ hnext hne
    have htext : page.nextPageToken.getD [] = next := by
      have hsome : page.nextPageToken = some next := hnext
      rw [hsome, Option.getD_some]
    refine ⟨⟨setPageToken state.params (.str next), state.projectDiscoveredMetrics ++
      page.metrics selection resourcesToAutodiscover⟩, ?_, ?_, pageToken_setPageToken _ _⟩
    · simp only [runFetchMetricDescriptorsLoop, DescriptorsPage.response, htext]
      exact if_neg hne
    · simp only [hreads, List.flatMap_append, List.flatMap_singleton]
  · intro before page state hreads hlast
    have hnone : page.nextPageToken.getD [] = [] := by
      cases htoken : page.nextPageToken with
      | none => rfl
      | some token => exact hserver.last page hlast token htoken
    simp only [runFetchMetricDescriptorsLoop, DescriptorsPage.response, hnone, if_pos]
    rw [hreads, List.flatMap_append, List.flatMap_singleton]
    rfl

end Descriptors

/-- A server whose pages are all successful, with the pages it serves. -/
structure ServedPages {Item : Type} (read : Json → Except PyError (List Item)) where
  reply : Option Text → Json
  pages : List Json
  serves : (jsonServer reply).Serves pages
  successful : ∀ page ∈ pages, SuccessfulPage read page

namespace ServedPages

variable {Item : Type} {read : Json → Except PyError (List Item)} (served : ServedPages read)

def items : List Item := served.pages.flatMap (itemsOf read)

def LastHasNoToken : Prop := ∀ last, served.pages.getLast? = some last → pageNextToken last = none

def ReadBy {State Result : Type} (loop : RequestLoop State QueryDict ApiAnswer Result)
    (start : State) (result : Result) : Prop :=
  ReadInFull (jsonServer served.reply) loop pageToken (.page 200) start served.pages result

end ServedPages

structure ServedProjects extends ServedPages projectIds where
  texts : ∀ page ∈ pages, ∀ id ∈ itemsOf projectIds page, IsTextItem id

structure ServedDescriptors where
  reply : Option Text → DescriptorsPage
  pages : List DescriptorsPage
  serves : (descriptorServer reply).Serves pages

/-- Each of the four loops, against a server of its own. -/
structure EveryLoopReads (mapper : Mapper) (selection : MetricSelection)
    (resourcesToAutodiscover : List Text) (projectId : Text) (activeOnly : Bool)
    (entities : ServedPages mapper) (disabledApis : ServedPages disabledNames)
    (projects : ServedProjects) (descriptors : ServedDescriptors) : Prop where
  genericPaging : entities.ReadBy (genericPagingLoop mapper) .start (.ok entities.items)
  getAllDisabledApis : disabledApis.ReadBy getAllDisabledApisLoop .start disabledApis.items
  getAllAccessibleProjects :
    projects.ReadBy getAllAccessibleProjectsLoop .start (.ok projects.items)
  runFetchMetricDescriptors :
    ReadInFull (descriptorServer descriptors.reply)
      (runFetchMetricDescriptorsLoop selection resourcesToAutodiscover projectId) pageToken
      DescriptorsPage.response (DescriptorPaging.start activeOnly) descriptors.pages
      (descriptorResults projectId (descriptors.pages.flatMap
        (DescriptorsPage.metrics selection resourcesToAutodiscover)))

theorem every_loop_reads_iff (mapper : Mapper) (selection : MetricSelection)
    (resourcesToAutodiscover : List Text) (projectId : Text) (activeOnly : Bool)
    (entities : ServedPages mapper) (disabledApis : ServedPages disabledNames)
    (projects : ServedProjects) (descriptors : ServedDescriptors) :
    EveryLoopReads mapper selection resourcesToAutodiscover projectId activeOnly entities
        disabledApis projects descriptors ↔
      entities.LastHasNoToken ∧ disabledApis.LastHasNoToken := by
  have hentities := genericPaging_readInFull_iff entities.serves entities.successful
  have hdisabled := disabledApis_readInFull_iff disabledApis.serves disabledApis.successful
  constructor
  · intro h
    exact ⟨hentities.mp h.genericPaging, hdisabled.mp h.getAllDisabledApis⟩
  · rintro ⟨hlastEntities, hlastDisabled⟩
    exact {
      genericPaging := hentities.mpr hlastEntities
      getAllDisabledApis := hdisabled.mpr hlastDisabled
      getAllAccessibleProjects :=
        projects_readInFull projects.serves projects.successful projects.texts
      runFetchMetricDescriptors :=
        descriptors_readInFull selection resourcesToAutodiscover projectId activeOnly
          descriptors.serves }

def servicePage (nextPageToken : List (Text × Json)) (name : String) : Json :=
  .map (nextPageToken ++
    [("services".toList, .list [.map [("config".toList, .map [("name".toList, text name)])]]),
      ("projects".toList, .list [.map [("projectId".toList, text name)]])])

def firstPage : Json := servicePage [("nextPageToken".toList, text "second")] "first"

theorem pageNextToken_firstPage : pageNextToken firstPage = some "second".toList := by
  decide +kernel

def secondPage : Json := servicePage [] "last"

theorem pageNextToken_secondPage : pageNextToken secondPage = none := by
  decide +kernel

def servedTwoPages {Item : Type} (read : Json → Except PyError (List Item)) (first last : List Item)
    (hfirst : read firstPage = .ok first) (hlast : read secondPage = .ok last) :
    ServedPages read where
  reply token := if token = some "second".toList then secondPage else firstPage
  pages := [firstPage, secondPage]
  serves := {
    first := rfl
    again := rfl
    follows := by
      rw [List.isChain_pair]
      exact ⟨_, by decide, pageNextToken_firstPage, rfl⟩
    last := by
      intro page hpage token htoken
      have hsame : secondPage = page := Option.some.inj hpage
      have hnext : pageNextToken page = some token := htoken
      rw [← hsame, pageNextToken_secondPage] at hnext
      contradiction }
  successful := by
    intro page hpage
    rcases List.mem_cons.mp hpage with rfl | hpage
    · refine ⟨⟨_, rfl, ?_⟩, first, hfirst⟩
      intro token htoken
      rw [List.singleton_append, List.lookup_cons_self, Option.some.injEq] at htoken
      exact ⟨_, htoken.symm⟩
    · rw [List.mem_singleton.mp hpage]
      refine ⟨⟨_, rfl, ?_⟩, last, hlast⟩
      intro token htoken
      cases htoken

def servedProjectsTwoPages : ServedProjects where
  toServedPages := servedTwoPages projectIds [text "first"] [text "last"] rfl rfl
  texts := by
    intro page hpage id hid
    rcases List.mem_cons.mp hpage with rfl | hpage
    · exact ⟨_, List.mem_singleton.mp hid⟩
    · rw [List.mem_singleton.mp hpage] at hid
      exact ⟨_, List.mem_singleton.mp hid⟩

def gaugePage (type : String) (nextPageToken : Option Text) : DescriptorsPage :=
  ⟨some [gaugeItem type], nextPageToken⟩

def servedDescriptorsTwoPages : ServedDescriptors where
  reply token := if token = some "second".toList then gaugePage "last" none
    else gaugePage "first" (some "second".toList)
  pages := [gaugePage "first" (some "second".toList), gaugePage "last" none]
  serves := {
    first := rfl
    again := rfl
    follows := by
      rw [List.isChain_pair]
      exact ⟨_, by decide, rfl, rfl⟩
    last := by
      intro page hpage token htoken
      rw [← Option.some.inj hpage] at htoken
      cases htoken }

def serviceMapper : Mapper := fun page => do
  return (← disabledNames page).map (fun name => ⟨[], name, [], [], [], []⟩)

theorem every_loop_reads_two_pages :
    EveryLoopReads serviceMapper ⟨[], false⟩ ["prometheus_target".toList] "project".toList true
      (servedTwoPages serviceMapper [⟨[], text "first", [], [], [], []⟩]
        [⟨[], text "last", [], [], [], []⟩] rfl rfl)
      (servedTwoPages disabledNames [text "first"] [text "last"] rfl rfl) servedProjectsTwoPages
      servedDescriptorsTwoPages := by
  have hlast : ∀ last, [firstPage, secondPage].getLast? = some last →
      pageNextToken last = none := by
    intro last h
    have hsame : secondPage = last := Option.some.inj h
    rw [← hsame, pageNextToken_secondPage]
  exact (every_loop_reads_iff _ _ _ _ _ _ _ _ _).mpr ⟨hlast, hlast⟩

example : (servedDescriptorsTwoPages.pages.flatMap
    (DescriptorsPage.metrics ⟨[], false⟩ ["prometheus_target".toList])).map
      GCPMetricDescriptor.value = ["first".toList, "last".toList] := by
  decide +kernel

def emptyTokenPage : Json := .map [("nextPageToken".toList, text "")]

theorem pageNextToken_emptyTokenPage : pageNextToken emptyTokenPage = some [] := by
  decide +kernel

def servedEmptyToken {Item : Type} (read : Json → Except PyError (List Item))
    (h : read emptyTokenPage = .ok []) : ServedPages read where
  reply _ := emptyTokenPage
  pages := [emptyTokenPage]
  serves := {
    first := rfl
    again := rfl
    follows := List.isChain_singleton _
    last := by
      intro page hpage token htoken
      have hsame : emptyTokenPage = page := Option.some.inj hpage
      have hnext : pageNextToken page = some token := htoken
      rw [← hsame, pageNextToken_emptyTokenPage, Option.some.injEq] at hnext
      exact hnext.symm }
  successful := by
    intro page hpage
    rw [List.mem_singleton.mp hpage]
    refine ⟨⟨_, rfl, ?_⟩, [], h⟩
    intro token htoken
    have hlookup : [("nextPageToken".toList, text "")].lookup "nextPageToken".toList =
        some (text "") := List.lookup_cons_self
    rw [hlookup, Option.some.injEq] at htoken
    exact ⟨[], htoken.symm⟩

def servedProjectsEmptyToken : ServedProjects where
  toServedPages := servedEmptyToken projectIds rfl
  texts := by
    intro page hpage id hid
    rw [List.mem_singleton.mp hpage] at hid
    exact absurd hid List.not_mem_nil

def servedDescriptorsEmptyToken : ServedDescriptors where
  reply _ := ⟨some [], some []⟩
  pages := [⟨some [], some []⟩]
  serves := {
    first := rfl
    again := rfl
    follows := List.isChain_singleton _
    last := by
      intro page hpage token htoken
      rw [← Option.some.inj hpage] at htoken
      exact (Option.some.inj htoken).symm }

theorem empty_last_token_loops :
    ¬ ∀ (mapper : Mapper) (selection : MetricSelection) (resourcesToAutodiscover : List Text)
      (projectId : Text) (activeOnly : Bool) (entities : ServedPages mapper)
      (disabledApis : ServedPages disabledNames) (projects : ServedProjects)
      (descriptors : ServedDescriptors),
      EveryLoopReads mapper selection resourcesToAutodiscover projectId activeOnly entities
        disabledApis projects descriptors := by
  intro hclaim
  have hreads := (hclaim (fun _ => .ok []) ⟨[], false⟩ [] "project".toList false
    (servedEmptyToken _ rfl) (servedEmptyToken _ rfl) servedProjectsEmptyToken
    servedDescriptorsEmptyToken).genericPaging
  have hlast := (genericPaging_readInFull_iff (servedEmptyToken _ rfl).serves
    (servedEmptyToken _ rfl).successful).mp hreads emptyTokenPage rfl
  rw [pageNextToken_emptyTokenPage] at hlast
  contradiction

end GcpMonitor.Paging
