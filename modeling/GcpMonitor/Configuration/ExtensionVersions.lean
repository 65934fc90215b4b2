import GcpMonitor.Library.FirstMaximum
import GcpMonitor.Library.OrderedDict
import GcpMonitor.Python.Error
import GcpMonitor.Python.Text
import Mathlib.Data.List.Lex

namespace GcpMonitor.Configuration

open Python FirstMaximum

structure ExtensionEntry where
  extensionName : Option Text
  version : Option Text
  deriving DecidableEq

abbrev ExtensionVersions := OrderedDict (Option Text) (Option Text)

def versionNumber (version : Option Text) : Except PyError ℤ :=
  match version with
  | none => .error .attributeError
  | some version => (Text.int (Text.replace version '.' [])).elim (.error (.valueError none)) .ok

def addExtension (dynatraceExtensionsDict : ExtensionVersions) (extension : ExtensionEntry) :
    Except PyError ExtensionVersions :=
  match dynatraceExtensionsDict.get extension.extensionName with
  | none => return dynatraceExtensionsDict.set extension.extensionName extension.version
  | some known => do
    let number ← versionNumber extension.version
    let knownNumber ← versionNumber known
    if number > knownNumber then
      return dynatraceExtensionsDict.set extension.extensionName extension.version
    else return dynatraceExtensionsDict

def deduplicateExtensions (dynatraceExtensions : List ExtensionEntry) :
    Except PyError ExtensionVersions :=
  dynatraceExtensions.foldlM addExtension .empty

structure NumericVersion (count : ℕ) (version : Text) : Prop where
  length : (version.splitOn '.').length = count
  digits : ∀ part ∈ version.splitOn '.', part ≠ [] ∧ ∀ c ∈ part, c.isDigit = true

def versionComponents (version : Text) : List ℕ :=
  (version.splitOn '.').map (fun part => Nat.ofDigitChars 10 part 0)

/-- The number that the digits of a version spell when the dots are left out. -/
def spelledNumber (version : Text) : ℕ := Nat.ofDigitChars 10 (Text.replace version '.' []) 0

namespace ExtensionEntry

def components (entry : ExtensionEntry) : List ℕ := versionComponents (entry.version.getD [])

def spelled (entry : ExtensionEntry) : ℕ := spelledNumber (entry.version.getD [])

def Numeric (count : ℕ) (entry : ExtensionEntry) : Prop :=
  ∃ version, entry.version = some version ∧ NumericVersion count version

end ExtensionEntry

def IsNewest (entries : List ExtensionEntry) (entry : ExtensionEntry) : Prop :=
  ∀ other ∈ entries, other.components ≤ entry.components

def entriesOf (dynatraceExtensions : List ExtensionEntry) (extensionName : Option Text) :
    List ExtensionEntry :=
  dynatraceExtensions.filter (fun entry => entry.extensionName = extensionName)

structure NewestWins (dynatraceExtensions : List ExtensionEntry) (versions : ExtensionVersions) :
    Prop where
  names : ∀ extensionName, (versions.get extensionName).isSome = true ↔
    ∃ entry ∈ dynatraceExtensions, entry.extensionName = extensionName
  newest : ∀ extensionName version, versions.get extensionName = some version →
    ⟨extensionName, version⟩ ∈ dynatraceExtensions ∧
      IsNewest (entriesOf dynatraceExtensions extensionName) ⟨extensionName, version⟩

theorem NumericVersion.versionNumber_eq {count : ℕ} {version : Text}
    (h : NumericVersion count version) :
    versionNumber (some version) = .ok (spelledNumber version : ℤ) := by
  have hdot : ∀ part ∈ version.splitOn '.', '.' ∉ part := by
    intro part hpart hmem
    exact absurd ((h.digits part hpart).2 '.' hmem) (by decide)
  have hreplace : Text.replace version '.' [] = (version.splitOn '.').flatten := by
    have hflatten := Text.replace_intercalate hdot
    rw [List.intercalate_splitOn] at hflatten
    exact hflatten
  have hne : Text.replace version '.' [] ≠ [] := by
    rw [hreplace, ne_eq, List.flatten_eq_nil_iff]
    intro hall
    obtain ⟨part, rest, hparts⟩ := List.exists_cons_of_ne_nil (List.splitOn_ne_nil '.' version)
    have hmem : part ∈ version.splitOn '.' := by
      rw [hparts]
      exact List.mem_cons_self
    exact (h.digits part hmem).1 (hall part hmem)
  have hdigit : ∀ c ∈ Text.replace version '.' [], c.isDigit = true := by
    intro c hc
    rw [hreplace] at hc
    obtain ⟨part, hpart, hc⟩ := List.mem_flatten.mp hc
    exact (h.digits part hpart).2 c hc
  rw [versionNumber, Text.int_of_digits hne hdigit]
  rfl

theorem ExtensionEntry.Numeric.versionNumber_eq {count : ℕ} {entry : ExtensionEntry}
    (h : entry.Numeric count) : versionNumber entry.version = .ok (entry.spelled : ℤ) := by
  obtain ⟨version, hversion, hnumeric⟩ := h
  rw [ExtensionEntry.spelled, hversion]
  exact hnumeric.versionNumber_eq

theorem deduplicateExtensions_eq_ok {count : ℕ} {dynatraceExtensions : List ExtensionEntry}
    (hnumeric : ∀ entry ∈ dynatraceExtensions, entry.Numeric count) :
    ∃ versions, deduplicateExtensions dynatraceExtensions = .ok versions ∧
      OrderedDict.Grouped ExtensionEntry.extensionName
        (fun entries version => ∃ extensionName,
          IsFirstMax ExtensionEntry.spelled entries ⟨extensionName, version⟩)
        dynatraceExtensions versions := by
  apply OrderedDict.foldlM_grouped (P := ExtensionEntry.Numeric count) _ _ _ hnumeric
  · intro versions entry hentry hget
    refine ⟨entry.version, ⟨entry.extensionName, isFirstMax_singleton _ _⟩, ?_⟩
    rw [addExtension, hget]
    rfl
  · intro versions entry entries known hentry hentries hget hmax
    obtain ⟨extensionName, hmax⟩ := hmax
    have hknown := (hentries _ hmax.mem).1.versionNumber_eq
    have hadd : addExtension versions entry =
        if (entry.spelled : ℤ) > (ExtensionEntry.spelled ⟨extensionName, known⟩ : ℤ) then
          .ok (versions.set entry.extensionName entry.version)
        else .ok versions := by
      rw [addExtension, hget]
      simp only [hentry.versionNumber_eq, hknown]
      rfl
    rw [hadd]
    by_cases hlt : ExtensionEntry.spelled ⟨extensionName, known⟩ < entry.spelled
    · rw [if_pos (by omega)]
      exact ⟨entry.version, ⟨entry.extensionName, hmax.snoc_of_lt hlt⟩, rfl⟩
    · rw [if_neg (by omega)]
      refine ⟨known, ⟨extensionName, hmax.snoc_of_le (not_lt.mp hlt)⟩, ?_⟩
      rw [OrderedDict.set_of_get hget]

theorem mem_entriesOf {dynatraceExtensions : List ExtensionEntry} {extensionName : Option Text}
    {entry : ExtensionEntry} :
    entry ∈ entriesOf dynatraceExtensions extensionName ↔
      entry ∈ dynatraceExtensions ∧ entry.extensionName = extensionName := by
  rw [entriesOf, List.mem_filter, decide_eq_true_eq]

/-- The newest version of an extension wins just when each of its other entries is beaten by an
entry with the newest version, on the number that the digits spell or, where the numbers are the
same, by standing before it. -/
theorem newest_version_wins_iff {count : ℕ} (dynatraceExtensions : List ExtensionEntry)
    (hnumeric : ∀ entry ∈ dynatraceExtensions, entry.Numeric count) :
    (∃ versions, deduplicateExtensions dynatraceExtensions = .ok versions ∧
        NewestWins dynatraceExtensions versions) ↔
      ∀ extensionName before entry after,
        entriesOf dynatraceExtensions extensionName = before ++ entry :: after →
          ¬ IsNewest (entriesOf dynatraceExtensions extensionName) entry →
            ∃ newest ∈ entriesOf dynatraceExtensions extensionName,
              IsNewest (entriesOf dynatraceExtensions extensionName) newest ∧
                (entry.spelled < newest.spelled ∨
                  newest ∈ before ∧ entry.spelled ≤ newest.spelled) := by
  obtain ⟨versions, hversions, hgrouped⟩ := deduplicateExtensions_eq_ok hnumeric
  have hmax : ∀ extensionName version, versions.get extensionName = some version →
      IsFirstMax ExtensionEntry.spelled (entriesOf dynatraceExtensions extensionName)
        ⟨extensionName, version⟩ := by
    intro extensionName version hget
    obtain ⟨extensionName', hmax⟩ := hgrouped.stands extensionName version hget
    have hname := (mem_entriesOf.mp hmax.mem).2
    exact hname ▸ hmax
  have hnames : ∀ extensionName, (versions.get extensionName).isSome = true ↔
      ∃ entry ∈ dynatraceExtensions, entry.extensionName = extensionName := by
    intro extensionName
    rw [OrderedDict.get_isSome_iff]
    exact hgrouped.mem_keys extensionName
  constructor
  · rintro ⟨versions', hversions', hwins⟩ extensionName before entry after hsplit
    rw [hversions] at hversions'
    cases hversions'
    have hentry : entry ∈ entriesOf dynatraceExtensions extensionName := by
      rw [hsplit]
      exact List.mem_append_right _ List.mem_cons_self
    obtain ⟨hmem, hname⟩ := mem_entriesOf.mp hentry
    obtain ⟨version, hget⟩ := Option.isSome_iff_exists.mp
      ((hnames extensionName).mpr ⟨entry, hmem, hname⟩)
    exact ((hmax extensionName version hget).iff_beaten _).mp
      (hwins.newest extensionName version hget).2 before entry after hsplit
  · intro hbeaten
    refine ⟨versions, hversions, hnames, ?_⟩
    intro extensionName version hget
    have hfirst := hmax extensionName version hget
    exact ⟨(mem_entriesOf.mp hfirst.mem).1,
      (hfirst.iff_beaten _).mpr (hbeaten extensionName)⟩

def extensionEntry (version : String) : ExtensionEntry :=
  ⟨some "com.dynatrace.extension.google-sql".toList, some version.toList⟩

theorem numeric_extensionEntry {version : String}
    (hlength : (version.toList.splitOn '.').length = 3)
    (hdigits : (version.toList.splitOn '.').all
      (fun part => !part.isEmpty && part.all Char.isDigit) = true) :
    (extensionEntry version).Numeric 3 := by
  refine ⟨version.toList, rfl, hlength, ?_⟩
  intro part hpart
  have hpartDigits := List.all_eq_true.mp hdigits part hpart
  rw [Bool.and_eq_true, Bool.not_eq_true', List.isEmpty_eq_false_iff] at hpartDigits
  exact ⟨hpartDigits.1, List.all_eq_true.mp hpartDigits.2⟩

theorem newest_version_wins_of_patches :
    ∃ versions, deduplicateExtensions [extensionEntry "0.0.4", extensionEntry "0.0.3"] =
        .ok versions ∧
      NewestWins [extensionEntry "0.0.4", extensionEntry "0.0.3"] versions := by
  have hnumeric : ∀ entry ∈ [extensionEntry "0.0.4", extensionEntry "0.0.3"],
      entry.Numeric 3 := by
    intro entry hentry
    simp only [List.mem_cons, List.not_mem_nil, or_false] at hentry
    rcases hentry with rfl | rfl
    · exact numeric_extensionEntry (by decide +kernel) (by decide +kernel)
    · exact numeric_extensionEntry (by decide +kernel) (by decide +kernel)
  apply (newest_version_wins_iff [extensionEntry "0.0.4", extensionEntry "0.0.3"] hnumeric).mpr
  intro extensionName before entry after hsplit hold
  have hentry : entry ∈ entriesOf [extensionEntry "0.0.4", extensionEntry "0.0.3"]
      extensionName := by
    rw [hsplit]
    exact List.mem_append_right _ List.mem_cons_self
  obtain ⟨hmem, rfl⟩ := mem_entriesOf.mp hentry
  clear hentry hsplit
  simp only [List.mem_cons, List.not_mem_nil, or_false] at hmem
  rcases hmem with rfl | rfl
  · refine absurd ?_ hold
    unfold IsNewest
    decide +kernel
  · refine ⟨extensionEntry "0.0.4", by decide +kernel, ?_, .inl (by decide +kernel)⟩
    unfold IsNewest
    decide +kernel

theorem longer_component_beats_newer_version :
    ¬ ∀ (count : ℕ) (dynatraceExtensions : List ExtensionEntry),
      (∀ entry ∈ dynatraceExtensions, entry.Numeric count) →
        ∃ versions, deduplicateExtensions dynatraceExtensions = .ok versions ∧
          NewestWins dynatraceExtensions versions := by
  intro hclaim
  obtain ⟨versions, hversions, hwins⟩ :=
    hclaim 3 [extensionEntry "1.10.0", extensionEntry "2.0.0"] (by
      intro entry hentry
      simp only [List.mem_cons, List.not_mem_nil, or_false] at hentry
      rcases hentry with rfl | rfl
      · exact numeric_extensionEntry (by decide +kernel) (by decide +kernel)
      · exact numeric_extensionEntry (by decide +kernel) (by decide +kernel))
  have hkept : (deduplicateExtensions [extensionEntry "1.10.0", extensionEntry "2.0.0"]).map
      (fun versions => versions.get (extensionEntry "1.10.0").extensionName) =
        .ok (some (some "1.10.0".toList)) := by
    decide +kernel
  rw [hversions] at hkept
  have hget : versions.get (extensionEntry "1.10.0").extensionName =
      some (some "1.10.0".toList) := Except.ok.inj hkept
  have hnewest := (hwins.newest _ _ hget).2 (extensionEntry "2.0.0") (by decide +kernel)
  revert hnewest
  decide +kernel

end GcpMonitor.Configuration
