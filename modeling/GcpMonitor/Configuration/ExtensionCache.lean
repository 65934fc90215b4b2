import GcpMonitor.Library.OrderedDict
import GcpMonitor.Python.Yaml

namespace GcpMonitor.Configuration

open Python

structure ZipResponse where
  status : ℕ
  content : List UInt8

structure ExtensionCacheEntry where
  version : Text
  definition : Yaml

abbrev ExtensionCache := OrderedDict Text ExtensionCacheEntry

structure ConfigurationCall where
  extensionName : Text
  extensionVersion : Text
  response : ZipResponse

-- opens the two archives and reads `extension.yaml`; none where that raises
variable (loadZip : List UInt8 → Option Yaml)

def getExtensionZip (response : ZipResponse) : Option (List UInt8) :=
  if response.status ≠ 200 then none else some response.content

def loadExtensionConfigFromZip (extensionZip : List UInt8) : Yaml :=
  (loadZip extensionZip).getD (.map [])

def fetchExtensionConfiguration (response : ZipResponse) : Yaml :=
  match getExtensionZip response with
  | none => .map []
  | some extensionZip =>
    if extensionZip ≠ [] then loadExtensionConfigFromZip loadZip extensionZip else .map []

def isCached (cache : ExtensionCache) (call : ConfigurationCall) : Bool :=
  match cache.get call.extensionName with
  | none => false
  | some entry => entry.version = call.extensionVersion

def getExtensionConfiguration (cache : ExtensionCache) (call : ConfigurationCall) :
    ExtensionCache × Yaml :=
  match cache.get call.extensionName with
  | some entry =>
    if entry.version = call.extensionVersion then (cache, entry.definition)
    else
      let definition := fetchExtensionConfiguration loadZip call.response
      (cache.set call.extensionName ⟨call.extensionVersion, definition⟩, definition)
  | none =>
    let definition := fetchExtensionConfiguration loadZip call.response
    (cache.set call.extensionName ⟨call.extensionVersion, definition⟩, definition)

def cacheAfter (calls : List ConfigurationCall) : ExtensionCache :=
  calls.foldl (fun cache call => (getExtensionConfiguration loadZip cache call).1) .empty

/-- The call is answered by a download when it comes after the others. -/
def Downloads (before : List ConfigurationCall) (call : ConfigurationCall) : Prop :=
  isCached (cacheAfter loadZip before) call = false

def returned (before : List ConfigurationCall) (call : ConfigurationCall) : Yaml :=
  (getExtensionConfiguration loadZip (cacheAfter loadZip before) call).2

def downloaded (response : ZipResponse) : Option Yaml :=
  if response.status = 200 ∧ response.content ≠ [] then loadZip response.content else none

def SameExtension (call other : ConfigurationCall) : Prop :=
  call.extensionName = other.extensionName ∧ call.extensionVersion = other.extensionVersion

/-- None of the calls in `between`, which come after `before`, is answered by a download with the
name and version of `call` that `kind` picks. -/
def NoDownload (kind : ZipResponse → Prop) (before between : List ConfigurationCall)
    (call : ConfigurationCall) : Prop :=
  ∀ first other rest, between = first ++ other :: rest → SameExtension other call →
    kind other.response → ¬ Downloads loadZip (before ++ first) other

structure Unpoisoned (calls : List ConfigurationCall) : Prop where
  returns : ∀ before call after, calls = before ++ call :: after → ¬ Downloads loadZip before call →
    ∃ earlier download later definition, before = earlier ++ download :: later ∧
      Downloads loadZip earlier download ∧ SameExtension download call ∧
      downloaded loadZip download.response = some definition ∧
      NoDownload loadZip (fun response => (downloaded loadZip response).isSome)
        (earlier ++ [download]) later call ∧
      returned loadZip before call = definition
  retries : ∀ before failed between call after,
    calls = before ++ failed :: (between ++ call :: after) → Downloads loadZip before failed →
      downloaded loadZip failed.response = none → SameExtension failed call →
        NoDownload loadZip (fun _ => True) (before ++ [failed]) between call →
          Downloads loadZip (before ++ failed :: between) call

def lastVersion (calls : List ConfigurationCall) (extensionName : Text) : Option Text :=
  (calls.filter (fun call => call.extensionName = extensionName)).getLast?.map
    ConfigurationCall.extensionVersion

/-- No download that fails is followed, as the next call for the extension, by a call for the same
version. -/
def FailuresNotRepeated (calls : List ConfigurationCall) : Prop :=
  ∀ before download between call after,
    calls = before ++ download :: (between ++ call :: after) →
      lastVersion before download.extensionName ≠ some download.extensionVersion →
        SameExtension download call →
          (∀ other ∈ between, other.extensionName ≠ download.extensionName) →
            downloaded loadZip download.response ≠ none

section

variable {loadZip}

theorem fetchExtensionConfiguration_eq (response : ZipResponse) :
    fetchExtensionConfiguration loadZip response =
      (downloaded loadZip response).getD (.map []) := by
  rw [fetchExtensionConfiguration, getExtensionZip, downloaded]
  by_cases hstatus : response.status = 200
  · by_cases hcontent : response.content = []
    · simp [hstatus, hcontent]
    · simp [hstatus, hcontent, loadExtensionConfigFromZip]
  · simp [hstatus]

theorem cacheAfter_snoc (calls : List ConfigurationCall) (call : ConfigurationCall) :
    cacheAfter loadZip (calls ++ [call]) =
      (getExtensionConfiguration loadZip (cacheAfter loadZip calls) call).1 := by
  rw [cacheAfter, List.foldl_append]
  rfl

theorem lastVersion_snoc (calls : List ConfigurationCall) (call : ConfigurationCall)
    (extensionName : Text) :
    lastVersion (calls ++ [call]) extensionName =
      if call.extensionName = extensionName then some call.extensionVersion
      else lastVersion calls extensionName := by
  rw [lastVersion, List.filter_append]
  by_cases h : call.extensionName = extensionName
  · rw [if_pos h, List.filter_singleton, decide_eq_true h]
    simp
  · rw [if_neg h, List.filter_singleton, decide_eq_false h]
    simp [lastVersion]

theorem isCached_iff {cache : ExtensionCache} {call : ConfigurationCall} :
    isCached cache call = true ↔
      (cache.get call.extensionName).map ExtensionCacheEntry.version =
        some call.extensionVersion := by
  rw [isCached]
  cases cache.get call.extensionName with
  | none => simp
  | some entry => simp

variable (loadZip) in
theorem getExtensionConfiguration_of_cached {cache : ExtensionCache} {call : ConfigurationCall}
    (h : isCached cache call = true) :
    (getExtensionConfiguration loadZip cache call).1 = cache ∧
      ∃ entry, cache.get call.extensionName = some entry ∧
        (getExtensionConfiguration loadZip cache call).2 = entry.definition := by
  rw [isCached] at h
  cases hget : cache.get call.extensionName with
  | none =>
    rw [hget] at h
    cases h
  | some entry =>
    rw [hget] at h
    have hversion : entry.version = call.extensionVersion := of_decide_eq_true h
    rw [getExtensionConfiguration, hget]
    simp only [if_pos hversion]
    exact ⟨trivial, entry, rfl, rfl⟩

theorem getExtensionConfiguration_of_not_cached {cache : ExtensionCache}
    {call : ConfigurationCall} (h : isCached cache call = false) :
    (getExtensionConfiguration loadZip cache call).1 = cache.set call.extensionName
      ⟨call.extensionVersion, fetchExtensionConfiguration loadZip call.response⟩ := by
  rw [isCached] at h
  cases hget : cache.get call.extensionName with
  | none => rw [getExtensionConfiguration, hget]
  | some entry =>
    rw [hget] at h
    have hversion : entry.version ≠ call.extensionVersion := of_decide_eq_false h
    rw [getExtensionConfiguration, hget]
    simp only [if_neg hversion]

structure CameFrom (loadZip : List UInt8 → Option Yaml) (calls : List ConfigurationCall)
    (extensionName : Text) (entry : ExtensionCacheEntry) (earlier : List ConfigurationCall)
    (download : ConfigurationCall) (later : List ConfigurationCall) : Prop where
  split : calls = earlier ++ download :: later
  name : download.extensionName = extensionName
  version : download.extensionVersion = entry.version
  downloads : Downloads loadZip earlier download
  definition : entry.definition = fetchExtensionConfiguration loadZip download.response
  kept : ∀ call ∈ later, call.extensionName = extensionName →
    call.extensionVersion = entry.version

theorem CameFrom.snoc {calls : List ConfigurationCall} {extensionName : Text}
    {entry : ExtensionCacheEntry} {earlier later : List ConfigurationCall}
    {download : ConfigurationCall}
    (h : CameFrom loadZip calls extensionName entry earlier download later)
    {call : ConfigurationCall}
    (hcall : call.extensionName = extensionName → call.extensionVersion = entry.version) :
    CameFrom loadZip (calls ++ [call]) extensionName entry earlier download (later ++ [call]) where
  split := by rw [h.split, List.append_assoc, List.cons_append]
  name := h.name
  version := h.version
  downloads := h.downloads
  definition := h.definition
  kept := by
    intro other hother
    rcases List.mem_append.mp hother with hother | hother
    · exact h.kept other hother
    · rw [List.mem_singleton.mp hother]
      exact hcall

variable (loadZip) in
theorem cacheAfter_get (calls : List ConfigurationCall) (extensionName : Text) :
    ((cacheAfter loadZip calls).get extensionName).map ExtensionCacheEntry.version =
        lastVersion calls extensionName ∧
      ∀ entry, (cacheAfter loadZip calls).get extensionName = some entry →
        ∃ earlier download later,
          CameFrom loadZip calls extensionName entry earlier download later := by
  induction calls using List.reverseRecOn with
  | nil =>
    refine ⟨rfl, ?_⟩
    intro entry hentry
    cases hentry
  | append_singleton calls call ih =>
    obtain ⟨hversion, hcame⟩ := ih
    rw [cacheAfter_snoc, lastVersion_snoc]
    cases hcached : isCached (cacheAfter loadZip calls) call with
    | true =>
      rw [(getExtensionConfiguration_of_cached loadZip hcached).1]
      have hhit := isCached_iff.mp hcached
      constructor
      · split_ifs with hname
        · rw [← hname]
          exact hhit
        · exact hversion
      · intro entry hentry
        obtain ⟨earlier, download, later, h⟩ := hcame entry hentry
        refine ⟨earlier, download, later ++ [call], h.snoc ?_⟩
        intro hname
        rw [hname, hentry] at hhit
        exact (Option.some.inj hhit).symm
    | false =>
      rw [getExtensionConfiguration_of_not_cached hcached]
      by_cases hname : call.extensionName = extensionName
      · subst hname
        rw [OrderedDict.get_set_self, if_pos rfl]
        refine ⟨rfl, ?_⟩
        intro entry hentry
        cases hentry
        exact ⟨calls, call, [], rfl, rfl, rfl, hcached, rfl, by simp⟩
      · rw [OrderedDict.get_set_of_ne _ _ (Ne.symm hname), if_neg hname]
        refine ⟨hversion, ?_⟩
        intro entry hentry
        obtain ⟨earlier, download, later, h⟩ := hcame entry hentry
        exact ⟨earlier, download, later ++ [call], h.snoc (fun h => absurd h hname)⟩

theorem downloads_iff (before : List ConfigurationCall) (call : ConfigurationCall) :
    Downloads loadZip before call ↔
      lastVersion before call.extensionName ≠ some call.extensionVersion := by
  rw [Downloads, ← (cacheAfter_get loadZip before call.extensionName).1,
    ← Bool.not_eq_true, isCached_iff]

theorem lastVersion_of_kept {earlier later : List ConfigurationCall} {call : ConfigurationCall}
    (h : ∀ other ∈ later, other.extensionName = call.extensionName →
      other.extensionVersion = call.extensionVersion) :
    lastVersion (earlier ++ call :: later) call.extensionName = some call.extensionVersion := by
  induction later using List.reverseRecOn with
  | nil => rw [lastVersion_snoc, if_pos rfl]
  | append_singleton later other ih =>
    rw [← List.cons_append, ← List.append_assoc, lastVersion_snoc]
    split_ifs with hname
    · rw [h other (by simp) hname]
    · exact ih (fun other hother => h other (List.mem_append_left _ hother))

theorem exists_next (calls : List ConfigurationCall) (call : ConfigurationCall)
    (after : List ConfigurationCall) :
    ∃ between next rest, calls ++ [call] = between ++ next :: rest ∧
      calls ++ call :: after = between ++ next :: (rest ++ after) ∧
      next.extensionName = call.extensionName ∧
      ∀ other ∈ between, other.extensionName ≠ call.extensionName := by
  have hfound : ((calls ++ [call]).find?
      (fun other => other.extensionName = call.extensionName)).isSome = true :=
    List.find?_isSome.mpr ⟨call, by simp, by simp⟩
  obtain ⟨next, hnext⟩ := Option.isSome_iff_exists.mp hfound
  obtain ⟨hname, between, rest, hsplit, hbetween⟩ := List.find?_eq_some_iff_append.mp hnext
  refine ⟨between, next, rest, hsplit, ?_, of_decide_eq_true hname, ?_⟩
  · rw [List.append_cons, hsplit, List.append_assoc, List.cons_append]
  · intro other hother
    simpa using hbetween other hother

theorem lastVersion_ne_of_noDownload {start later : List ConfigurationCall}
    {call : ConfigurationCall}
    (hstart : lastVersion start call.extensionName ≠ some call.extensionVersion)
    (hno : NoDownload loadZip (fun _ => True) start later call) :
    lastVersion (start ++ later) call.extensionName ≠ some call.extensionVersion := by
  induction later using List.reverseRecOn with
  | nil =>
    rw [List.append_nil]
    exact hstart
  | append_singleton later other ih =>
    have hlater : lastVersion (start ++ later) call.extensionName ≠
        some call.extensionVersion := by
      apply ih
      rintro first next rest rfl
      exact hno first next (rest ++ [other]) (by simp)
    rw [← List.append_assoc, lastVersion_snoc]
    split_ifs with hname
    · intro hversion
      have hsame : SameExtension other call := ⟨hname, Option.some.inj hversion⟩
      have hhit := hno later other [] rfl hsame trivial
      rw [downloads_iff, hsame.1, hsame.2] at hhit
      exact hhit hlater
    · exact hlater

theorem returns_of_failuresNotRepeated {calls before after : List ConfigurationCall}
    {call : ConfigurationCall} (h : FailuresNotRepeated loadZip calls)
    (hsplit : calls = before ++ call :: after) (hhit : ¬ Downloads loadZip before call) :
    ∃ earlier download later definition, before = earlier ++ download :: later ∧
      Downloads loadZip earlier download ∧ SameExtension download call ∧
      downloaded loadZip download.response = some definition ∧
      NoDownload loadZip (fun response => (downloaded loadZip response).isSome)
        (earlier ++ [download]) later call ∧
      returned loadZip before call = definition := by
  rw [downloads_iff, not_not] at hhit
  obtain ⟨hversion, hcame⟩ := cacheAfter_get loadZip before call.extensionName
  rw [hhit] at hversion
  obtain ⟨entry, hget, hentry⟩ := Option.map_eq_some_iff.mp hversion
  obtain ⟨earlier, download, later, hfrom⟩ := hcame entry hget
  have hsame : SameExtension download call := ⟨hfrom.name, hfrom.version.trans hentry⟩
  have hkept : ∀ other ∈ later ++ [call], other.extensionName = call.extensionName →
      other.extensionVersion = call.extensionVersion := by
    intro other hother hname
    rcases List.mem_append.mp hother with hother | hother
    · exact (hfrom.kept other hother hname).trans hentry
    · rw [List.mem_singleton.mp hother]
  obtain ⟨between, next, rest, hnext, htail, hname, hbetween⟩ := exists_next later call after
  have hnextVersion := hkept next (by rw [hnext]; simp) hname
  have hcalls : calls = earlier ++ download :: (between ++ next :: (rest ++ after)) := by
    rw [hsplit, hfrom.split, List.append_assoc, List.cons_append, htail]
  have hloaded : downloaded loadZip download.response ≠ none := by
    apply h earlier download between next (rest ++ after) hcalls
      ((downloads_iff _ _).mp hfrom.downloads)
    · exact ⟨hsame.1.trans hname.symm, hsame.2.trans hnextVersion.symm⟩
    · rw [hsame.1]
      exact hbetween
  obtain ⟨definition, hdefinition⟩ := Option.ne_none_iff_exists'.mp hloaded
  refine ⟨earlier, download, later, definition, hfrom.split, hfrom.downloads, hsame,
    hdefinition, ?_, ?_⟩
  · rintro first other rest' hlater hother -
    rw [downloads_iff, not_not, hother.1, hother.2, ← hsame.1, ← hsame.2, List.append_assoc,
      List.singleton_append]
    apply lastVersion_of_kept
    intro earlierCall hmem hsameName
    rw [hsame.2]
    exact hkept earlierCall (by rw [hlater]; simp [hmem]) (hsameName.trans hsame.1)
  · have hcached : isCached (cacheAfter loadZip before) call = true := by
      rw [isCached_iff, hget, Option.map_some, hentry]
    obtain ⟨-, entry', hget', hreturned⟩ := getExtensionConfiguration_of_cached loadZip hcached
    rw [hget] at hget'
    cases hget'
    rw [returned, hreturned, hfrom.definition, fetchExtensionConfiguration_eq, hdefinition]
    rfl

theorem retries_of_failuresNotRepeated {calls before between after : List ConfigurationCall}
    {failed call : ConfigurationCall} (h : FailuresNotRepeated loadZip calls)
    (hsplit : calls = before ++ failed :: (between ++ call :: after))
    (hdownloads : Downloads loadZip before failed)
    (hfailed : downloaded loadZip failed.response = none) (hsame : SameExtension failed call)
    (hno : NoDownload loadZip (fun _ => True) (before ++ [failed]) between call) :
    Downloads loadZip (before ++ failed :: between) call := by
  obtain ⟨skipped, next, rest, hnext, htail, hname, hskipped⟩ := exists_next between call after
  have hother : next.extensionVersion ≠ call.extensionVersion := by
    intro hversion
    refine h before failed skipped next (rest ++ after) ?_ ((downloads_iff _ _).mp hdownloads)
      ⟨hsame.1.trans hname.symm, hsame.2.trans hversion.symm⟩ ?_ hfailed
    · rw [hsplit, htail]
    · rw [hsame.1]
      exact hskipped
  obtain rfl | ⟨rest', last, rfl⟩ := List.eq_nil_or_concat rest
  · obtain ⟨-, hlast⟩ := List.append_inj' hnext rfl
    cases hlast
    exact absurd rfl hother
  · rw [List.concat_eq_append, ← List.cons_append, ← List.append_assoc] at hnext
    obtain ⟨rfl, -⟩ := List.append_inj' hnext rfl
    rw [downloads_iff]
    have hstart : lastVersion (before ++ failed :: skipped ++ [next]) call.extensionName ≠
        some call.extensionVersion := by
      rw [lastVersion_snoc, if_pos hname]
      intro hversion
      exact hother (Option.some.inj hversion)
    have hrest : NoDownload loadZip (fun _ => True) (before ++ failed :: skipped ++ [next]) rest'
        call := by
      rintro first other rest'' rfl hotherSame -
      have hhit := hno (skipped ++ next :: first) other rest'' (by simp) hotherSame trivial
      simpa using hhit
    have hlater := lastVersion_ne_of_noDownload hstart hrest
    simpa using hlater

end

theorem cache_unpoisoned_iff (loadZip : List UInt8 → Option Yaml)
    (calls : List ConfigurationCall) :
    Unpoisoned loadZip calls ↔ FailuresNotRepeated loadZip calls := by
  constructor
  · intro h before download between call after hsplit hfirst hsame hbetween hfailed
    have hdownloads : Downloads loadZip (before ++ download :: between) call := by
      apply h.retries before download between call after hsplit ((downloads_iff _ _).mpr hfirst)
        hfailed hsame
      rintro first other rest rfl hother -
      exact absurd (hother.1.trans hsame.1.symm) (hbetween other (by simp))
    rw [downloads_iff, ← hsame.1, ← hsame.2] at hdownloads
    apply hdownloads
    apply lastVersion_of_kept
    intro other hother hname
    exact absurd hname (hbetween other hother)
  · intro h
    constructor
    · intro before call after hsplit hhit
      exact returns_of_failuresNotRepeated h hsplit hhit
    · intro before failed between call after hsplit hdownloads hfailed hsame hno
      exact retries_of_failuresNotRepeated h hsplit hdownloads hfailed hsame hno

def retriedCalls : List ConfigurationCall :=
  [⟨"com.dynatrace.extension.google-sql".toList, "0.0.3".toList, ⟨503, []⟩⟩,
    ⟨"com.dynatrace.extension.google-sql".toList, "0.0.3".toList, ⟨200, [80, 75]⟩⟩]

theorem failed_download_is_cached :
    ¬ ∀ (loadZip : List UInt8 → Option Yaml) (calls : List ConfigurationCall),
      Unpoisoned loadZip calls := by
  intro hclaim
  have hunpoisoned := hclaim (fun _ => some (.map [(.str "gcp".toList, .list [])])) retriedCalls
  have hdownloads := hunpoisoned.retries [] _ [] _ [] rfl rfl rfl ⟨rfl, rfl⟩ (by
    intro first other rest hnil
    simp at hnil)
  revert hdownloads
  unfold Downloads
  decide +kernel

end GcpMonitor.Configuration
