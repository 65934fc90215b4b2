import GcpMonitor.Metrics.FilterTemplates
import GcpMonitor.Metrics.RemovedVariables

namespace GcpMonitor.Metrics

open Python ExceptList

section

variable {Y : YamlLibrary} {definition : ServiceDefinition} {activation : Yaml}
  {value : Text → Text} {names : List Text} {pieces : List Piece}

def filterTemplate (definition : ServiceDefinition) : Text :=
  definition.gcpMonitoringFilter.getD "var:filter_conditions".toList

def HasVars (activation : Yaml) (value : Text → Text) (names : List Text) : Prop :=
  activation.get "vars" (.map []) = .ok (.map (names.map (activationVar value))) ∧ names.Nodup

theorem GCPService.init_monitoringFilter {isEnabled autodiscoveryEnabled : Bool}
    {extensionName : Text} {service : GCPService}
    (h : GCPService.init Y definition activation isEnabled extensionName autodiscoveryEnabled =
      .ok service) :
    ∃ s, applyVariables Y activation (filterTemplate definition) = .ok s ∧
      service.monitoringFilter = removeVars 0 (removeBrackets 0 s) := by
  obtain ⟨override, -, h⟩ := bind_eq_ok_iff.mp h
  obtain ⟨s, hs, h⟩ := bind_eq_ok_iff.mp h
  cases h
  exact ⟨s, hs, rfl⟩

theorem applyVariables_eq (h : HasVars activation value names) (s : Text) :
    applyVariables Y activation s =
      (names.map (activationVar value)).foldlM (applyVariable Y) s := by
  rw [applyVariables, h.1]
  split_ifs with htruthy
  · cases names with
    | nil => rfl
    | cons name names => rfl
  · cases activation with
    | map entries =>
      cases entries with
      | nil =>
        have hnil := h.1
        simp only [Yaml.get, Yaml.lookup, List.find?_nil, Option.map_none, Option.getD_none,
          Except.ok.injEq, Yaml.map.injEq] at hnil
        rw [← hnil]
        rfl
      | cons entry entries => exact absurd rfl htruthy
    | _ => cases h.1

theorem monitoringFilter_eq {isEnabled autodiscoveryEnabled : Bool} {extensionName : Text}
    {service : GCPService} (hstr : ∀ s, Y.str (.str s) = s)
    (hservice : GCPService.init Y definition activation isEnabled extensionName
      autodiscoveryEnabled = .ok service)
    (hvars : HasVars activation value names)
    (h : ReplacesOnlyTokens value names (filterTemplate definition) pieces) :
    service.monitoringFilter =
      removeVars 0 (removeBrackets 0 (render value (tokensOf names) pieces)) := by
  obtain ⟨s, hs, hfilter⟩ := GCPService.init_monitoringFilter hservice
  rw [applyVariables_eq hvars, ← h.1] at hs
  have hfold := foldlM_applyVariable_render hstr h names [] (by simp)
    (fun name hname => ⟨hname, List.not_mem_nil⟩) hvars.2
  rw [List.append_nil] at hfold
  have hs' : s = render value (tokensOf names.reverse) pieces := by
    rw [← Except.ok.injEq (ε := PyError), ← hs, ← hfold]
    rfl
  rw [hfilter, hs', render_tokensOf_congr (fun _ => List.mem_reverse)]

theorem render_var_alone (done : List Token) (k : Text) :
    render value done [.placeholder (.var k)] =
      if .var k ∈ done then value k else "var:".toList ++ k :=
  List.flatMap_singleton _ _

theorem replacesOnlyTokens_var {k : Text}
    (h : ∀ name ∈ names, name ≠ k → ∀ s ∈ ["var:".toList ++ k, value k],
      ¬ (Token.brackets name).toText <:+: s ∧ ¬ (Token.var name).toText <:+: s) :
    ReplacesOnlyTokens value names ("var:".toList ++ k) [.placeholder (.var k)] := by
  refine ⟨List.append_nil _, ?_⟩
  intro replaced name _ hname hnew
  by_cases heq : name = k
  · subst heq
    have hdone : Token.var name ∉ tokensOf replaced := fun h => hnew (mem_tokensOf.mp h)
    constructor
    · intro u w hu
      rw [render_var_alone, if_neg hdone] at hu
      exact absurd hu.symm (brackets_not_infix_var u w)
    · intro u w hu
      rw [render_var_alone, if_neg (by simpa using hdone)] at hu
      have hlength := congrArg List.length hu
      simp only [Token.toText, List.length_append] at hlength
      refine ⟨[], [], rfl, ?_⟩
      exact (List.eq_nil_of_length_eq_zero (by omega)).symm
  · have hs : ∀ done, render value done [.placeholder (.var k)] ∈
        ["var:".toList ++ k, value k] := by
      intro done
      rw [render_var_alone]
      split_ifs <;> simp
    exact ⟨fun u w hu => absurd ⟨u, w, hu.symm⟩ (h name hname heq _ (hs _)).1,
      fun u w hu => absurd ⟨u, w, hu.symm⟩ (h name hname heq _ (hs _)).2⟩

theorem monitoringFilter_var_iff {isEnabled autodiscoveryEnabled : Bool} {extensionName : Text}
    {service : GCPService} (hstr : ∀ s, Y.str (.str s) = s)
    (hservice : GCPService.init Y definition activation isEnabled extensionName
      autodiscoveryEnabled = .ok service)
    (hvars : HasVars activation value names)
    (h : names.length ≤ 1 ∨
      ∃ pieces, ReplacesOnlyTokens value names (filterTemplate definition) pieces)
    {k : Text} (hk : k ∈ names) (htemplate : filterTemplate definition = "var:".toList ++ k) :
    service.monitoringFilter = value k ↔ BracketsFree (value k) ∧ VarFree (value k) := by
  have hpieces : ∃ pieces, ReplacesOnlyTokens value names (filterTemplate definition) pieces := by
    rcases h with hlength | h
    · obtain ⟨name, rfl⟩ := List.length_eq_one_iff.mp
        (Nat.le_antisymm hlength (List.length_pos_of_mem hk))
      obtain rfl := List.mem_singleton.mp hk
      rw [htemplate]
      refine ⟨_, replacesOnlyTokens_var fun other hother hne => ?_⟩
      exact absurd (List.mem_singleton.mp hother) hne
    · exact h
  obtain ⟨pieces, h⟩ := hpieces
  rw [monitoringFilter_eq hstr hservice hvars h, render_var hk (htemplate ▸ h),
    remove_eq_self_iff]

theorem monitoringFilter_perm {activation' : Yaml} {names' : List Text}
    {isEnabled autodiscoveryEnabled : Bool} {extensionName : Text} {service service' : GCPService}
    (hstr : ∀ s, Y.str (.str s) = s)
    (hservice : GCPService.init Y definition activation isEnabled extensionName
      autodiscoveryEnabled = .ok service)
    (hservice' : GCPService.init Y definition activation' isEnabled extensionName
      autodiscoveryEnabled = .ok service')
    (hvars : HasVars activation value names) (hvars' : HasVars activation' value names')
    (hperm : names.Perm names')
    (h : names.length ≤ 1 ∨
      ∃ pieces, ReplacesOnlyTokens value names (filterTemplate definition) pieces) :
    service.monitoringFilter = service'.monitoringFilter := by
  rcases h with hlength | ⟨pieces, h⟩
  · have hnames : names = names' := by
      match names, hlength with
      | [], _ => exact hperm.nil_eq
      | [name], _ => exact hperm.singleton_eq
    obtain ⟨s, hs, hfilter⟩ := GCPService.init_monitoringFilter hservice
    obtain ⟨s', hs', hfilter'⟩ := GCPService.init_monitoringFilter hservice'
    rw [applyVariables_eq hvars] at hs
    rw [applyVariables_eq hvars', ← hnames, hs, Except.ok.injEq] at hs'
    rw [hfilter, hfilter', hs']
  · have h' : ReplacesOnlyTokens value names' (filterTemplate definition) pieces := by
      refine ⟨h.1, fun replaced name hreplaced hname => ?_⟩
      exact h.2 replaced name (fun other hother => hperm.mem_iff.mpr (hreplaced other hother))
        (hperm.mem_iff.mpr hname)
    rw [monitoringFilter_eq hstr hservice hvars h, monitoringFilter_eq hstr hservice' hvars' h',
      render_tokensOf_congr (fun _ => hperm.mem_iff)]

theorem monitoring_filter_faithful_iff {activation' : Yaml} {names' : List Text}
    {isEnabled autodiscoveryEnabled : Bool} {extensionName : Text} {service service' : GCPService}
    (hstr : ∀ s, Y.str (.str s) = s)
    (hservice : GCPService.init Y definition activation isEnabled extensionName
      autodiscoveryEnabled = .ok service)
    (hservice' : GCPService.init Y definition activation' isEnabled extensionName
      autodiscoveryEnabled = .ok service')
    (hvars : HasVars activation value names) (hvars' : HasVars activation' value names')
    (hperm : names.Perm names')
    (h : names.length ≤ 1 ∨
      ∃ pieces, ReplacesOnlyTokens value names (filterTemplate definition) pieces) :
    (service.monitoringFilter = service'.monitoringFilter ∧
        ∀ k ∈ names, filterTemplate definition = "var:".toList ++ k →
          service.monitoringFilter = value k) ↔
      ∀ k ∈ names, filterTemplate definition = "var:".toList ++ k →
        BracketsFree (value k) ∧ VarFree (value k) := by
  rw [and_iff_right (monitoringFilter_perm hstr hservice hservice' hvars hvars' hperm h)]
  apply forall₃_congr
  intro k hk htemplate
  exact monitoringFilter_var_iff hstr hservice hvars h hk htemplate

end

def filterYaml : YamlLibrary where
  safeLoad := fun _ => some .null
  safeLoad_empty := rfl
  str
    | .str s => s
    | _ => []

def filterDefinition : ServiceDefinition where
  service := some "gce_instance".toList
  featureSet := none
  techName := none
  dimensions := none
  metrics := none
  gcpMonitoringFilter := none

def filterActivation (value : Text → Text) (names : List Text) : Yaml :=
  .map [(.str "vars".toList, .map (names.map (activationVar value)))]

def zoneFilter (name : Text) : Text :=
  if name = "filter_conditions".toList then "resource.labels.zone = us".toList
  else "europe-west3".toList

theorem hasVars_filterActivation {value : Text → Text} {names : List Text} (h : names.Nodup) :
    HasVars (filterActivation value names) value names :=
  ⟨rfl, h⟩

theorem monitoring_filter_faithful_zone :
    ∃ service service',
      GCPService.init filterYaml filterDefinition (filterActivation zoneFilter
        ["filter_conditions".toList, "zone".toList]) true [] false = .ok service ∧
      GCPService.init filterYaml filterDefinition (filterActivation zoneFilter
        ["zone".toList, "filter_conditions".toList]) true [] false = .ok service' ∧
      service.monitoringFilter = service'.monitoringFilter ∧
      ∀ k ∈ ["filter_conditions".toList, "zone".toList],
        filterTemplate filterDefinition = "var:".toList ++ k →
          service.monitoringFilter = zoneFilter k := by
  refine ⟨_, _, rfl, rfl, (monitoring_filter_faithful_iff (fun _ => rfl) rfl rfl
    (hasVars_filterActivation (by decide +kernel)) (hasVars_filterActivation (by decide +kernel))
    (List.Perm.swap _ _ _)
    (.inr ⟨[.placeholder (.var "filter_conditions".toList)], replacesOnlyTokens_var ?_⟩)).mpr ?_⟩
  · decide +kernel
  · intro k hk _
    have hclean : removeVars 0 (removeBrackets 0 (zoneFilter k)) = zoneFilter k := by
      revert hk k
      decide +kernel
    exact (remove_eq_self_iff _).mp hclean

theorem shorter_name_is_replaced_first :
    HasVars (filterActivation zoneFilter ["filter".toList, "filter_conditions".toList]) zoneFilter
      ["filter".toList, "filter_conditions".toList] ∧
    ∃ service service',
      GCPService.init filterYaml filterDefinition (filterActivation zoneFilter
        ["filter".toList, "filter_conditions".toList]) true [] false = .ok service ∧
      GCPService.init filterYaml filterDefinition (filterActivation zoneFilter
        ["filter_conditions".toList, "filter".toList]) true [] false = .ok service' ∧
      filterTemplate filterDefinition = "var:filter_conditions".toList ∧
      zoneFilter "filter_conditions".toList = "resource.labels.zone = us".toList ∧
      service.monitoringFilter = "europe-west3_conditions".toList ∧
      service'.monitoringFilter = "resource.labels.zone = us".toList := by
  refine ⟨hasVars_filterActivation (by decide +kernel), _, _, rfl, rfl, ?_⟩
  decide +kernel

end GcpMonitor.Metrics
