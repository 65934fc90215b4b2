import Mathlib.Data.Finset.Lattice.Lemmas
import Mathlib.Data.Finset.Insert
import Mathlib.Data.List.Infix
import GcpMonitor.Library.OrderedDict
import GcpMonitor.Library.SetIteration
import GcpMonitor.Python.Text

namespace GcpMonitor.Metrics

structure Environment where
  excludedProjectsVariable : Option Text
  excludedProjectsByPrefixVariable : Option Text
  includedProjectsVariable : Option Text
  includedProjectsByPrefixVariable : Option Text

def parseConfigList (configString : Text) : List Text :=
  ((configString.splitOn ',').map Text.strip).filter (fun s => s ≠ [])

namespace Environment

def excludedProjects (E : Environment) : Finset Text :=
  (parseConfigList (E.excludedProjectsVariable.getD [])).toFinset

def excludedProjectsByPrefix (E : Environment) : Finset Text :=
  (parseConfigList (E.excludedProjectsByPrefixVariable.getD [])).toFinset

def includedProjects (E : Environment) : Finset Text :=
  (parseConfigList (E.includedProjectsVariable.getD [])).toFinset

def includedProjectsByPrefix (E : Environment) : Finset Text :=
  (parseConfigList (E.includedProjectsByPrefixVariable.getD [])).toFinset

end Environment

def requiredServices : List Text :=
  ["monitoring.googleapis.com".toList, "cloudresourcemanager.googleapis.com".toList]

def isProjectDisabled (disabledApis : Text → List Text) (projectId : Text) : Bool :=
  requiredServices.any (fun requiredService => (disabledApis projectId).contains requiredService)

def addProject (disabledApis : Text → List Text)
    (result : Finset Text × OrderedDict Text (List Text)) (projectId : Text) :
    Finset Text × OrderedDict Text (List Text) :=
  if isProjectDisabled disabledApis projectId then (insert projectId result.1, result.2)
  else (result.1, result.2.set projectId (disabledApis projectId))

def getDisabledProjectsAndDisabledApisByProjectId (disabledApis : Text → List Text)
    (projectsIds : List Text) : Finset Text × OrderedDict Text (List Text) :=
  projectsIds.foldl (addProject disabledApis) (∅, .empty)

/-- The part of `query_metrics` that narrows the list of the accessible projects. -/
def selectProjects (E : Environment) (disabledProjects : Finset Text)
    (excludedOrder : SetIteration E.excludedProjectsByPrefix)
    (includedOrder : SetIteration E.includedProjectsByPrefix) (projectsIds : List Text) :
    List Text :=
  let disabledProjects := disabledProjects ∪ E.excludedProjects
  let projectsIds :=
    if E.excludedProjectsByPrefix.Nonempty then
      excludedOrder.items.foldl (fun ids p => ids.filter (fun s => ¬ p <:+: s)) projectsIds
    else projectsIds
  let projectsIds :=
    if disabledProjects.Nonempty then projectsIds.filter (fun x => x ∉ disabledProjects)
    else projectsIds
  let projectsIds :=
    if E.includedProjects.Nonempty then projectsIds.filter (fun x => x ∈ E.includedProjects)
    else projectsIds
  if E.includedProjectsByPrefix.Nonempty then
    includedOrder.items.foldl (fun ids p => ids.filter (fun s => p <:+: s)) projectsIds
  else projectsIds

def queryMetrics (E : Environment) (scopingProjectSupportEnabled : Bool)
    (disabledApis : Text → List Text)
    (excludedOrder : SetIteration E.excludedProjectsByPrefix)
    (includedOrder : SetIteration E.includedProjectsByPrefix) (projectsIds : List Text) :
    List (Text × List Text) :=
  let disabled :=
    if scopingProjectSupportEnabled then (∅, .empty)
    else getDisabledProjectsAndDisabledApisByProjectId disabledApis projectsIds
  (selectProjects E disabled.1 excludedOrder includedOrder projectsIds).map
    (fun projectId => (projectId, (disabled.2.get projectId).getD []))

def PassesOtherLists (E : Environment) (disabledProjects : Finset Text) (project : Text) : Prop :=
  project ∉ disabledProjects ∧ project ∉ E.excludedProjects ∧
    (∀ p ∈ E.excludedProjectsByPrefix, ¬ p <:+: project) ∧
      (E.includedProjects.Nonempty → project ∈ E.includedProjects)

/-- What `values.yaml` says of the four lists. -/
def Documented (E : Environment) (disabledProjects : Finset Text) (project : Text) : Prop :=
  PassesOtherLists E disabledProjects project ∧
    (E.includedProjectsByPrefix.Nonempty → ∃ p ∈ E.includedProjectsByPrefix, p <:+: project)

instance (E : Environment) (disabledProjects : Finset Text) (project : Text) :
    Decidable (PassesOtherLists E disabledProjects project) :=
  inferInstanceAs (Decidable (_ ∧ _ ∧ _ ∧ _))

instance (E : Environment) (disabledProjects : Finset Text) (project : Text) :
    Decidable (Documented E disabledProjects project) :=
  inferInstanceAs (Decidable (_ ∧ _))

section

variable {E : Environment} {disabledProjects : Finset Text}

theorem selectProjects_eq_filter (excludedOrder : SetIteration E.excludedProjectsByPrefix)
    (includedOrder : SetIteration E.includedProjectsByPrefix) (projectsIds : List Text) :
    selectProjects E disabledProjects excludedOrder includedOrder projectsIds =
      projectsIds.filter (fun project => PassesOtherLists E disabledProjects project ∧
        ∀ p ∈ E.includedProjectsByPrefix, p <:+: project) := by
  rw [selectProjects]
  simp only [SetIteration.foldl_filter, SetIteration.ite_nonempty_filter]
  simp only [List.filter_filter]
  apply List.filter_congr
  intro project _
  have hexcluded : (E.excludedProjectsByPrefix.Nonempty →
      ∀ p ∈ E.excludedProjectsByPrefix, ¬ p <:+: project) ↔
        ∀ p ∈ E.excludedProjectsByPrefix, ¬ p <:+: project :=
    ⟨fun h p hp => h ⟨p, hp⟩ p hp, fun h _ => h⟩
  have hincluded : (E.includedProjectsByPrefix.Nonempty →
      ∀ p ∈ E.includedProjectsByPrefix, p <:+: project) ↔
        ∀ p ∈ E.includedProjectsByPrefix, p <:+: project :=
    ⟨fun h p hp => h ⟨p, hp⟩ p hp, fun h _ => h⟩
  have hdisabled : ((disabledProjects ∪ E.excludedProjects).Nonempty →
      project ∉ disabledProjects ∪ E.excludedProjects) ↔
        project ∉ disabledProjects ∧ project ∉ E.excludedProjects := by
    rw [Finset.mem_union, not_or]
    constructor
    · intro h
      by_cases hempty : (disabledProjects ∪ E.excludedProjects).Nonempty
      · exact h hempty
      · rw [Finset.not_nonempty_iff_eq_empty, Finset.union_eq_empty] at hempty
        rw [hempty.1, hempty.2]
        exact ⟨Finset.notMem_empty _, Finset.notMem_empty _⟩
    · exact fun h _ => h
  rw [Bool.eq_iff_iff]
  simp only [Bool.and_eq_true, decide_eq_true_eq, hexcluded, hincluded, hdisabled]
  constructor
  · rintro ⟨hcontains, hincluded, hdisabled, hexcluded⟩
    exact ⟨⟨hdisabled.1, hdisabled.2, hexcluded, hincluded⟩, hcontains⟩
  · rintro ⟨⟨hdisabled, hlisted, hexcluded, hincluded⟩, hcontains⟩
    exact ⟨hcontains, hincluded, ⟨hdisabled, hlisted⟩, hexcluded⟩

theorem selectProjects_order_irrelevant
    (excludedOrder excludedOrder' : SetIteration E.excludedProjectsByPrefix)
    (includedOrder includedOrder' : SetIteration E.includedProjectsByPrefix)
    (projectsIds : List Text) :
    selectProjects E disabledProjects excludedOrder includedOrder projectsIds =
      selectProjects E disabledProjects excludedOrder' includedOrder' projectsIds := by
  rw [selectProjects_eq_filter, selectProjects_eq_filter]

theorem filter_eq_filter_iff {α : Type} {p q : α → Prop} [DecidablePred p] [DecidablePred q]
    {l : List α} :
    l.filter (fun x => p x) = l.filter (fun x => q x) ↔ ∀ x ∈ l, (p x ↔ q x) := by
  constructor
  · intro h x hx
    have hmem : x ∈ l.filter (fun x => p x) ↔ x ∈ l.filter (fun x => q x) := by
      rw [h]
    simpa [hx] using hmem
  · intro h
    apply List.filter_congr
    intro x hx
    exact decide_eq_decide.mpr (h x hx)

theorem selectProjects_documented_iff (E : Environment) (disabledProjects : Finset Text)
    (projectsIds : List Text) :
    ((∀ (excludedOrder : SetIteration E.excludedProjectsByPrefix)
        (includedOrder : SetIteration E.includedProjectsByPrefix),
        selectProjects E disabledProjects excludedOrder includedOrder projectsIds =
          projectsIds.filter (fun project => Documented E disabledProjects project)) ∧
      ∀ (excludedOrder excludedOrder' : SetIteration E.excludedProjectsByPrefix)
        (includedOrder includedOrder' : SetIteration E.includedProjectsByPrefix),
        selectProjects E disabledProjects excludedOrder includedOrder projectsIds =
          selectProjects E disabledProjects excludedOrder' includedOrder' projectsIds) ↔
      ∀ project ∈ projectsIds, PassesOtherLists E disabledProjects project →
        (∃ p ∈ E.includedProjectsByPrefix, p <:+: project) →
          ∀ p ∈ E.includedProjectsByPrefix, p <:+: project := by
  constructor
  · rintro ⟨h, -⟩ project hmem hpasses ⟨q, hq, hcontains⟩
    have excludedOrder : SetIteration E.excludedProjectsByPrefix := SetIteration.ofList _
    have includedOrder : SetIteration E.includedProjectsByPrefix := SetIteration.ofList _
    have hselected := h excludedOrder includedOrder
    rw [selectProjects_eq_filter, filter_eq_filter_iff] at hselected
    have hdocumented : Documented E disabledProjects project :=
      ⟨hpasses, fun _ => ⟨q, hq, hcontains⟩⟩
    exact ((hselected project hmem).mpr hdocumented).2
  · intro h
    constructor
    · intro excludedOrder includedOrder
      rw [selectProjects_eq_filter, filter_eq_filter_iff]
      intro project hmem
      constructor
      · rintro ⟨hpasses, hall⟩
        refine ⟨hpasses, ?_⟩
        rintro ⟨q, hq⟩
        exact ⟨q, hq, hall q hq⟩
      · rintro ⟨hpasses, hany⟩
        refine ⟨hpasses, ?_⟩
        intro p hp
        exact h project hmem hpasses (hany ⟨p, hp⟩) p hp
    · intro _ _ _ _
      exact selectProjects_order_irrelevant _ _ _ _ _

theorem getDisabledProjects_spec (disabledApis : Text → List Text) (projectsIds : List Text) :
    ∀ project ∈ projectsIds,
      if isProjectDisabled disabledApis project then
        project ∈ (getDisabledProjectsAndDisabledApisByProjectId disabledApis projectsIds).1
      else
        (getDisabledProjectsAndDisabledApisByProjectId disabledApis projectsIds).2.get project =
          some (disabledApis project) := by
  induction projectsIds using List.reverseRecOn with
  | nil => simp
  | append_singleton projectsIds last ih =>
    intro project hmem
    rw [getDisabledProjectsAndDisabledApisByProjectId, List.foldl_append, List.foldl_cons,
      List.foldl_nil, addProject, ← getDisabledProjectsAndDisabledApisByProjectId]
    by_cases hsame : project = last
    · subst hsame
      split_ifs with hdisabled
      · exact Finset.mem_insert_self _ _
      · exact OrderedDict.get_set_self _ _ _
    · have hbefore := ih project (by simpa [hsame] using hmem)
      split_ifs at hbefore ⊢
      · exact Finset.mem_insert_of_mem hbefore
      · exact hbefore
      · exact hbefore
      · rw [OrderedDict.get_set_of_ne _ _ hsame]
        exact hbefore

theorem queryMetrics_required_services (disabledApis : Text → List Text)
    (excludedOrder : SetIteration E.excludedProjectsByPrefix)
    (includedOrder : SetIteration E.includedProjectsByPrefix) (projectsIds : List Text) :
    ∀ task ∈ queryMetrics E false disabledApis excludedOrder includedOrder projectsIds,
      task.2 = disabledApis task.1 ∧ ∀ service ∈ requiredServices, service ∉ task.2 := by
  intro task htask
  obtain ⟨project, hproject, rfl⟩ := List.mem_map.mp htask
  rw [selectProjects_eq_filter] at hproject
  obtain ⟨hmem, hkept⟩ := List.mem_filter.mp hproject
  obtain ⟨⟨henabled, -⟩, -⟩ := of_decide_eq_true hkept
  have hspec := getDisabledProjects_spec disabledApis projectsIds project hmem
  split_ifs at hspec with hdisabled
  · exact absurd hspec henabled
  · have hanswer : (((getDisabledProjectsAndDisabledApisByProjectId disabledApis
        projectsIds).2.get project).getD []) = disabledApis project := by
      rw [hspec]
      rfl
    refine ⟨hanswer, ?_⟩
    intro service hservice hmember
    apply hdisabled
    apply List.any_eq_true.mpr
    exact ⟨service, hservice, List.contains_iff_mem.mpr (hanswer ▸ hmember)⟩

end

def twoStages : Environment := ⟨none, none, none, some "-prod, -test".toList⟩

theorem project_of_one_stage_is_left_out :
    ¬ ∀ (E : Environment) (disabledProjects : Finset Text)
      (excludedOrder : SetIteration E.excludedProjectsByPrefix)
      (includedOrder : SetIteration E.includedProjectsByPrefix) (projectsIds : List Text),
      selectProjects E disabledProjects excludedOrder includedOrder projectsIds =
        projectsIds.filter (fun project => Documented E disabledProjects project) := by
  intro hclaim
  have hselected := hclaim twoStages ∅ (SetIteration.ofList _) (SetIteration.ofList _)
    ["shop-prod".toList, "shop-test".toList, "sandbox".toList]
  revert hselected
  decide +kernel

end GcpMonitor.Metrics
