import GcpMonitor.Metrics.ProjectSelection

namespace GcpMonitor.Autodiscovery

open Metrics

/-- `projects_ids.remove` for each of the disabled projects; none where it raises `ValueError`. -/
def removeAll (disabledProjects projectsIds : List Text) : Option (List Text) :=
  disabledProjects.foldlM (fun ids project =>
    if ids.contains project then some (ids.erase project) else none) projectsIds

/-- The set of the disabled projects is bound to `disabled_project`, and the loop over
`disabled_projects` binds that name again: the list it goes through stays empty. -/
def getProjectIds (scopingProjectSupportEnabled : Bool) (disabledApis : Text → List Text)
    (projectsIds : List Text) : Option (List Text) :=
  let disabledProjects : List Text := []
  let _disabledProject :=
    if scopingProjectSupportEnabled then ∅
    else (getDisabledProjectsAndDisabledApisByProjectId disabledApis projectsIds).1
  if disabledProjects ≠ [] then removeAll disabledProjects projectsIds else some projectsIds

structure Unrestricted (E : Environment) : Prop where
  excludedProjects : E.excludedProjects = ∅
  excludedProjectsByPrefix : E.excludedProjectsByPrefix = ∅
  includedProjects : E.includedProjects = ∅
  includedProjectsByPrefix : E.includedProjectsByPrefix = ∅

/-- The projects that `query_metrics` polls are the accessible ones without the disabled ones, and
autodiscovery looks at the same. -/
def LooksAtPolled (E : Environment) (scopingProjectSupportEnabled : Bool)
    (disabledApis : Text → List Text)
    (excludedOrder : SetIteration E.excludedProjectsByPrefix)
    (includedOrder : SetIteration E.includedProjectsByPrefix) (projectsIds : List Text) : Prop :=
  let polled := (queryMetrics E scopingProjectSupportEnabled disabledApis excludedOrder
    includedOrder projectsIds).map Prod.fst
  polled = projectsIds.filter (fun project =>
      !(!scopingProjectSupportEnabled && isProjectDisabled disabledApis project)) ∧
    getProjectIds scopingProjectSupportEnabled disabledApis projectsIds = some polled

section

variable {E : Environment} {disabledApis : Text → List Text}

theorem mem_disabledProjects_iff {projectsIds : List Text} {project : Text} :
    project ∈ (getDisabledProjectsAndDisabledApisByProjectId disabledApis projectsIds).1 ↔
      project ∈ projectsIds ∧ isProjectDisabled disabledApis project = true := by
  induction projectsIds using List.reverseRecOn with
  | nil => simp [getDisabledProjectsAndDisabledApisByProjectId]
  | append_singleton projectsIds last ih =>
    rw [getDisabledProjectsAndDisabledApisByProjectId, List.foldl_append, List.foldl_cons,
      List.foldl_nil, addProject, ← getDisabledProjectsAndDisabledApisByProjectId,
      List.mem_append, List.mem_singleton]
    by_cases hlast : isProjectDisabled disabledApis last = true
    · rw [if_pos hlast, Finset.mem_insert, ih]
      constructor
      · rintro (rfl | ⟨hmem, hdisabled⟩)
        · exact ⟨.inr rfl, hlast⟩
        · exact ⟨.inl hmem, hdisabled⟩
      · rintro ⟨hmem | rfl, hdisabled⟩
        · exact .inr ⟨hmem, hdisabled⟩
        · exact .inl rfl
    · rw [if_neg hlast, ih]
      constructor
      · rintro ⟨hmem, hdisabled⟩
        exact ⟨.inl hmem, hdisabled⟩
      · rintro ⟨hmem | rfl, hdisabled⟩
        · exact ⟨hmem, hdisabled⟩
        · exact absurd hdisabled hlast

theorem queryMetrics_unrestricted (hE : Unrestricted E) (scopingProjectSupportEnabled : Bool)
    (excludedOrder : SetIteration E.excludedProjectsByPrefix)
    (includedOrder : SetIteration E.includedProjectsByPrefix) (projectsIds : List Text) :
    (queryMetrics E scopingProjectSupportEnabled disabledApis excludedOrder includedOrder
        projectsIds).map Prod.fst =
      projectsIds.filter (fun project =>
        !(!scopingProjectSupportEnabled && isProjectDisabled disabledApis project)) := by
  have hpasses (disabledProjects : Finset Text) (project : Text) :
      (PassesOtherLists E disabledProjects project ∧
        ∀ p ∈ E.includedProjectsByPrefix, p <:+: project) ↔ project ∉ disabledProjects := by
    simp [PassesOtherLists, hE.excludedProjects, hE.excludedProjectsByPrefix,
      hE.includedProjects, hE.includedProjectsByPrefix]
  rw [queryMetrics, List.map_map, selectProjects_eq_filter]
  have hfst : (Prod.fst ∘ fun projectId => (projectId, ((if scopingProjectSupportEnabled then
      (∅, OrderedDict.empty) else getDisabledProjectsAndDisabledApisByProjectId disabledApis
        projectsIds).2.get projectId).getD [])) = (id : Text → Text) := rfl
  rw [hfst, List.map_id]
  apply List.filter_congr
  intro project hproject
  rw [Bool.eq_iff_iff, decide_eq_true_iff, hpasses]
  cases scopingProjectSupportEnabled with
  | true => simp
  | false =>
    have hmem : project ∈ (getDisabledProjectsAndDisabledApisByProjectId disabledApis
        projectsIds).1 ↔ _ := mem_disabledProjects_iff
    simp [hmem, hproject]

theorem looksAtPolled_iff (hE : Unrestricted E) (scopingProjectSupportEnabled : Bool)
    (disabledApis : Text → List Text)
    (excludedOrder : SetIteration E.excludedProjectsByPrefix)
    (includedOrder : SetIteration E.includedProjectsByPrefix) (projectsIds : List Text) :
    LooksAtPolled E scopingProjectSupportEnabled disabledApis excludedOrder includedOrder
        projectsIds ↔
      scopingProjectSupportEnabled = true ∨
        ∀ project ∈ projectsIds, isProjectDisabled disabledApis project = false := by
  have hall : getProjectIds scopingProjectSupportEnabled disabledApis projectsIds =
      some projectsIds := rfl
  rw [LooksAtPolled, queryMetrics_unrestricted hE, hall, Option.some.injEq, eq_self_iff_true,
    true_and, eq_comm, List.filter_eq_self]
  cases scopingProjectSupportEnabled with
  | true => simp
  | false => simp

end

def noLists : Environment := ⟨none, none, none, none⟩

theorem unrestricted_noLists : Unrestricted noLists := ⟨rfl, rfl, rfl, rfl⟩

def monitoringDisabled (projectId : Text) : List Text :=
  if projectId = "shop".toList then ["monitoring.googleapis.com".toList] else []

theorem looksAtPolled_of_enabled :
    LooksAtPolled noLists false monitoringDisabled (SetIteration.ofList _) (SetIteration.ofList _)
      ["sandbox".toList, "stage".toList] :=
  (looksAtPolled_iff unrestricted_noLists false monitoringDisabled _ _ _).mpr
    (.inr (by decide))

theorem disabled_project_is_looked_at :
    ¬ ∀ (E : Environment) (scopingProjectSupportEnabled : Bool) (disabledApis : Text → List Text)
      (excludedOrder : SetIteration E.excludedProjectsByPrefix)
      (includedOrder : SetIteration E.includedProjectsByPrefix) (projectsIds : List Text),
      Unrestricted E → LooksAtPolled E scopingProjectSupportEnabled disabledApis excludedOrder
        includedOrder projectsIds := by
  intro hclaim
  have excludedOrder : SetIteration noLists.excludedProjectsByPrefix := SetIteration.ofList _
  have includedOrder : SetIteration noLists.includedProjectsByPrefix := SetIteration.ofList _
  obtain ⟨-, hpolled⟩ := hclaim noLists false monitoringDisabled excludedOrder includedOrder
    ["shop".toList, "sandbox".toList] unrestricted_noLists
  rw [queryMetrics_unrestricted unrestricted_noLists] at hpolled
  revert hpolled
  decide

end GcpMonitor.Autodiscovery
