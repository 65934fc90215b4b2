import GcpMonitor.Library.ExceptList
import GcpMonitor.Library.OrderedDict
import GcpMonitor.Library.SetIteration
import GcpMonitor.Metrics.Service

namespace GcpMonitor.Autodiscovery

open Python Metrics ExceptList

structure MonitoredResourceDescriptor where
  type : Option Text
  labels : Option (List (Option Text))

structure DescriptorAnswer where
  status : ℕ
  descriptor : MonitoredResourceDescriptor

def labelMapping (labelKey : Text) : Option Text :=
  if labelKey = "project_id".toList then some "gcp.project.id".toList
  else if labelKey = "region".toList then some "gcp.region".toList
  else if labelKey = "location".toList then some "gcp.region".toList
  else if labelKey = "zone".toList then some "gcp.region".toList
  else none

def labelDimensions (label : Option Text) : List Dimension :=
  let labelKey := label.getD []
  let labelValue := "label:resource.labels.".toList ++ labelKey
  Dimension.init ⟨some labelKey, some labelValue⟩ ::
    (labelMapping labelKey).toList.map (fun mapped => Dimension.init ⟨some mapped, some labelValue⟩)

def descriptorDimensions (descriptor : MonitoredResourceDescriptor) : List Dimension :=
  (descriptor.labels.getD []).flatMap labelDimensions

def addDescriptor (answers : Text → Text → DescriptorAnswer) (projectId : Text)
    (resourceDimensions : OrderedDict Text (List Dimension)) (resource : Text) :
    Except PyError (OrderedDict Text (List Dimension)) :=
  let response := answers projectId resource
  if response.status ≠ 200 then return resourceDimensions
  else
    match response.descriptor.type with
    | none => throw .keyError
    | some typeKey =>
      return resourceDimensions.set typeKey (descriptorDimensions response.descriptor)

/-- The loop over the projects returns at the end of its first turn. -/
def fetchResourceDescriptors (answers : Text → Text → DescriptorAnswer) {resources : Finset Text}
    (order : SetIteration resources) :
    List Text → Except PyError (OrderedDict Text (List Dimension))
  | [] => throw (.exception ("Unable to get any resource descriptors check if role have proper " ++
      "permission: monitoring.monitoredResourceDescriptors.list"))
  | projectId :: _ => order.items.foldlM (addDescriptor answers projectId) .empty

/-- A descriptor that is served is that of the resource it was asked for. -/
def ServesByType (answers : Text → Text → DescriptorAnswer) : Prop :=
  ∀ projectId resource, (answers projectId resource).status = 200 →
    (answers projectId resource).descriptor.type = some resource

def Serves (answers : Text → Text → DescriptorAnswer) (resource projectId : Text) : Prop :=
  (answers projectId resource).status = 200

instance (answers : Text → Text → DescriptorAnswer) (resource projectId : Text) :
    Decidable (Serves answers resource projectId) :=
  inferInstanceAs (Decidable (_ = _))

def mappedLabels : List (Text × Text) :=
  [("project_id".toList, "gcp.project.id".toList), ("region".toList, "gcp.region".toList),
    ("location".toList, "gcp.region".toList), ("zone".toList, "gcp.region".toList)]

def labelSource (label : Text) : Text :=
  "resource.labels.".toList ++ label.replaceAll "label:".toList []

def dimensionSentAs (label sentAs : Text) : Dimension where
  keyForGetFuncCreateEntityId := labelSource label
  keyForCreateEntityId :=
    orText ((label.replaceAll "label:".toList []).replaceAll "resource.labels.".toList []) sentAs
  keyForFetchMetric := labelSource label
  keyForSendToDynatrace := sentAs

/-- In the order of the labels, a dimension for each of them and after it one more for each that is
mapped. -/
inductive OnePerLabel : List Text → List Dimension → Prop
  | nil : OnePerLabel [] []
  | unmapped {label : Text} {labels : List Text} {dimensions : List Dimension}
      (hlabel : ∀ sentAs, (label, sentAs) ∉ mappedLabels) (hrest : OnePerLabel labels dimensions) :
      OnePerLabel (label :: labels) (dimensionSentAs label label :: dimensions)
  | mapped {label sentAs : Text} {labels : List Text} {dimensions : List Dimension}
      (hlabel : (label, sentAs) ∈ mappedLabels) (hrest : OnePerLabel labels dimensions) :
      OnePerLabel (label :: labels)
        (dimensionSentAs label label :: dimensionSentAs label sentAs :: dimensions)

def MonitoredResourceDescriptor.labelKeys (descriptor : MonitoredResourceDescriptor) : List Text :=
  (descriptor.labels.getD []).map (fun label => label.getD [])

def FindsServed (answers : Text → Text → DescriptorAnswer) {resources : Finset Text}
    (order : SetIteration resources) (projectsId : List Text) : Prop :=
  ∃ found, fetchResourceDescriptors answers order projectsId = .ok found ∧
    ∀ resource ∈ resources, (∃ projectId ∈ projectsId, Serves answers resource projectId) →
      ∃ projectId ∈ projectsId, Serves answers resource projectId ∧
        ∃ dimensions, found.get resource = some dimensions ∧
          OnePerLabel (answers projectId resource).descriptor.labelKeys dimensions

theorem init_eq_dimensionSentAs (label sentAs : Text) :
    Dimension.init ⟨some sentAs, some ("label:resource.labels.".toList ++ label)⟩ =
      dimensionSentAs label sentAs := by
  have hsource : Text.replaceAll ("label:resource.labels.".toList ++ label) "label:".toList [] =
      labelSource label := rfl
  have hname : (labelSource label).replaceAll "resource.labels.".toList [] =
      (label.replaceAll "label:".toList []).replaceAll "resource.labels.".toList [] := rfl
  have hne : labelSource label ≠ [] := List.cons_ne_nil _ _
  simp only [Dimension.init, Option.getD_some, hsource, hname]
  rw [dimensionSentAs, orText.eq_def (labelSource label), if_neg hne]

theorem labelMapping_eq_some {label sentAs : Text} (h : labelMapping label = some sentAs) :
    (label, sentAs) ∈ mappedLabels := by
  rw [labelMapping] at h
  split_ifs at h with h₁ h₂ h₃ h₄ <;> subst_vars <;> cases h <;> decide

theorem labelMapping_eq_none {label : Text} (h : labelMapping label = none) (sentAs : Text) :
    (label, sentAs) ∉ mappedLabels := by
  intro hmem
  simp only [mappedLabels, List.mem_cons, Prod.mk.injEq, List.not_mem_nil, or_false] at hmem
  rcases hmem with ⟨rfl, -⟩ | ⟨rfl, -⟩ | ⟨rfl, -⟩ | ⟨rfl, -⟩ <;> exact absurd h (by decide)

theorem onePerLabel_descriptorDimensions (descriptor : MonitoredResourceDescriptor) :
    OnePerLabel descriptor.labelKeys (descriptorDimensions descriptor) := by
  rw [MonitoredResourceDescriptor.labelKeys, descriptorDimensions]
  induction descriptor.labels.getD [] with
  | nil => exact .nil
  | cons label labels ih =>
    rw [List.map_cons, List.flatMap_cons, labelDimensions]
    cases hmapped : labelMapping (label.getD []) with
    | none =>
      simp only [Option.toList_none, List.map_nil, init_eq_dimensionSentAs]
      exact .unmapped (labelMapping_eq_none hmapped) ih
    | some sentAs =>
      simp only [Option.toList_some, List.map_cons, List.map_nil, init_eq_dimensionSentAs]
      exact .mapped (labelMapping_eq_some hmapped) ih

section

variable {answers : Text → Text → DescriptorAnswer}

theorem foldlM_addDescriptor (hserves : ServesByType answers) (projectId : Text)
    (items : List Text) (start : OrderedDict Text (List Dimension)) :
    ∃ found, items.foldlM (addDescriptor answers projectId) start = .ok found ∧
      ∀ resource, found.get resource =
        if resource ∈ items ∧ Serves answers resource projectId then
          some (descriptorDimensions (answers projectId resource).descriptor)
        else start.get resource := by
  induction items generalizing start with
  | nil => exact ⟨start, rfl, by simp⟩
  | cons first rest ih =>
    rw [List.foldlM_cons, addDescriptor]
    by_cases hfirst : (answers projectId first).status = 200
    · obtain ⟨found, hfound, hget⟩ := ih (start.set first
        (descriptorDimensions (answers projectId first).descriptor))
      refine ⟨found, ?_, ?_⟩
      · rw [if_neg (not_not.mpr hfirst), hserves projectId first hfirst]
        exact hfound
      · intro resource
        rw [hget]
        by_cases hsame : resource = first
        · subst hsame
          have hserved : Serves answers resource projectId := hfirst
          rw [OrderedDict.get_set_self]
          simp [hserved]
        · rw [OrderedDict.get_set_of_ne _ _ hsame]
          simp [hsame]
    · obtain ⟨found, hfound, hget⟩ := ih start
      refine ⟨found, ?_, ?_⟩
      · rw [if_pos hfirst]
        exact hfound
      · intro resource
        rw [hget]
        by_cases hsame : resource = first
        · subst hsame
          have hrefused : ¬ Serves answers resource projectId := hfirst
          simp [hrefused]
        · simp [hsame]

theorem findsServed_iff (hserves : ServesByType answers) {resources : Finset Text}
    (order : SetIteration resources) (first : Text) (rest : List Text) :
    FindsServed answers order (first :: rest) ↔
      ∀ resource ∈ resources, (∃ projectId ∈ first :: rest, Serves answers resource projectId) →
        Serves answers resource first := by
  obtain ⟨found, hfound, hget⟩ := foldlM_addDescriptor hserves first order.items .empty
  have hresult : fetchResourceDescriptors answers order (first :: rest) = .ok found := hfound
  constructor
  · rintro ⟨found', hfound', hall⟩ resource hresource hserved
    rw [hresult] at hfound'
    cases hfound'
    obtain ⟨projectId, -, -, dimensions, hdimensions, -⟩ := hall resource hresource hserved
    by_contra hrefused
    rw [hget, if_neg (fun h => hrefused h.2), OrderedDict.get_empty] at hdimensions
    cases hdimensions
  · intro hfirst
    refine ⟨found, hresult, ?_⟩
    intro resource hresource hserved
    have hserves := hfirst resource hresource hserved
    refine ⟨first, List.mem_cons_self, hserves, _, ?_, onePerLabel_descriptorDimensions _⟩
    rw [hget, if_pos ⟨(order.mem_items resource).mpr hresource, hserves⟩]

end

def gceDescriptor (resource : Text) : MonitoredResourceDescriptor where
  type := some resource
  labels := some [some "project_id".toList, some "instance_id".toList, some "zone".toList]

def refusedIn (refused : Text) (projectId resource : Text) : DescriptorAnswer where
  status := if projectId = refused then 403 else 200
  descriptor := gceDescriptor resource

theorem servesByType_refusedIn (refused : Text) : ServesByType (refusedIn refused) :=
  fun _ _ _ => rfl

def gceOnly : SetIteration ["gce_instance".toList].toFinset := SetIteration.ofList _

theorem findsServed_refused_second :
    FindsServed (refusedIn "sandbox".toList) gceOnly ["shop".toList, "sandbox".toList] := by
  refine (findsServed_iff (servesByType_refusedIn _) gceOnly _ _).mpr ?_
  intro resource _ _
  have hother : "shop".toList ≠ "sandbox".toList := by decide
  change (if "shop".toList = "sandbox".toList then 403 else 200) = 200
  exact if_neg hother

theorem refused_first_project_hides_descriptors :
    ¬ ∀ (answers : Text → Text → DescriptorAnswer) (resources : Finset Text)
      (order : SetIteration resources) (projectsId : List Text), ServesByType answers →
      projectsId ≠ [] → FindsServed answers order projectsId := by
  intro hclaim
  obtain ⟨found, hfound, hall⟩ := hclaim (refusedIn "shop".toList) _ gceOnly
    ["shop".toList, "sandbox".toList] (servesByType_refusedIn _) (List.cons_ne_nil _ _)
  obtain ⟨projectId, -, -, dimensions, hdimensions, -⟩ := hall "gce_instance".toList (by decide)
    ⟨"sandbox".toList, by decide, by decide⟩
  have hnone : found = .empty := by
    have hempty : fetchResourceDescriptors (refusedIn "shop".toList) gceOnly
        ["shop".toList, "sandbox".toList] = .ok .empty := by
      rfl
    rw [hempty] at hfound
    cases hfound
    rfl
  rw [hnone] at hdimensions
  cases hdimensions

end GcpMonitor.Autodiscovery
