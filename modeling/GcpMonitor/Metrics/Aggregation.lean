import GcpMonitor.Metrics.Dimensions
import GcpMonitor.Metrics.DistributionLine
import GcpMonitor.Library.ExceptList
import Mathlib.Data.Char
import Mathlib.Data.List.Lex
import Mathlib.Data.Prod.Lex
import Mathlib.Algebra.BigOperators.Group.List.Basic
import Mathlib.Data.Multiset.Basic

namespace GcpMonitor.Metrics

open Python

variable (F : FloatText)

structure AggregationKey where
  entityId : Text
  metricName : Text
  metricType : Text
  timestamp : ℤ
  dimensionValues : List DimensionValue
  deriving DecidableEq

def dimensionLe (d e : DimensionValue) : Bool :=
  decide (toLex (d.name, d.value) ≤ toLex (e.name, e.value))

def aggregationKey (line : IngestLine PyValue) : AggregationKey where
  entityId := line.entityId
  metricName := line.metricName
  metricType := line.metricType
  timestamp := line.timestamp
  dimensionValues := line.dimensionValues.mergeSort dimensionLe

def mergeValues (valueType : Text) (existing value : PyValue) : Except PyError PyValue :=
  if valueType.map Char.toLower = "distribution".toList then
    mergeDistributionValues (.exact F) existing value
  else if valueType.map Char.toLower = "int64".toList then do
    return .number (.int ((← existing.int) + (← value.int)))
  else if valueType.map Char.toLower = "double".toList then do
    return .number (.float ((← existing.float F) + (← value.float F)))
  else .error (.valueError (some ("Cannot aggregate metric value type ".toList ++ valueType)))

abbrev Aggregated := OrderedDict AggregationKey (IngestLine PyValue)

def addAggregatedLine (valueType : Text) (aggregated : Aggregated) (line : IngestLine PyValue) :
    Except PyError Aggregated :=
  match aggregated.get (aggregationKey line) with
  | none => return aggregated.set (aggregationKey line) line
  | some existing => do
    let value ← mergeValues F valueType existing.value line.value
    return aggregated.set (aggregationKey line) { line with value }

def aggregateLines (valueType : Text) (lines : List (IngestLine PyValue)) :
    Except PyError (List (IngestLine PyValue)) := do
  let aggregated ← lines.foldlM (addAggregatedLine F valueType) OrderedDict.empty
  return aggregated.values

abbrev LineGroup := Text × Text × Text × ℤ × Multiset DimensionValue

def groupOf (line : IngestLine PyValue) : LineGroup :=
  (line.entityId, line.metricName, line.metricType, line.timestamp, ↑line.dimensionValues)

def groupValues {M : Type} (entries : List (IngestLine PyValue × M)) (group : LineGroup) :
    List M :=
  (entries.filter (fun entry => groupOf entry.1 = group)).map Prod.snd

structure AggregateOf {M : Type} (Reads : PyValue → M → Prop) (Totals : List M → M → Prop)
    (entries : List (IngestLine PyValue × M)) (lines : List (IngestLine PyValue)) : Prop where
  nodup : (lines.map groupOf).Nodup
  mem_groups : ∀ group, group ∈ lines.map groupOf ↔ ∃ entry ∈ entries, groupOf entry.1 = group
  total : ∀ line ∈ lines, ∃ m, Reads line.value m ∧ Totals (groupValues entries (groupOf line)) m

/-- The same lines with the same values in another order, and their dimensions in any order. -/
def Rearranged {M : Type} (entries entries' : List (IngestLine PyValue × M)) : Prop :=
  ∃ middle, entries.Perm middle ∧ List.Forall₂ (fun entry entry' =>
    entry'.2 = entry.2 ∧ ∃ dimensionValues, entry.1.dimensionValues.Perm dimensionValues ∧
      entry'.1 = { entry.1 with dimensionValues }) middle entries'

def ReadsInt (value : PyValue) (n : ℤ) : Prop := value.int = .ok n

def SumOf (ns : List ℤ) (n : ℤ) : Prop := n = ns.sum

structure TotalOf (ds : List Distribution) (d : Distribution) : Prop where
  min_mem : d.min ∈ ds.map Summary.min
  min_le : ∀ e ∈ ds, d.min ≤ e.min
  max_mem : d.max ∈ ds.map Summary.max
  le_max : ∀ e ∈ ds, e.max ≤ d.max
  count_eq : d.count = (ds.map Summary.count).sum
  sum_eq : d.sum = (ds.map Summary.sum).sum

theorem dimensionLe_trans (a b c : DimensionValue) (hab : dimensionLe a b = true)
    (hbc : dimensionLe b c = true) : dimensionLe a c = true := by
  simp only [dimensionLe, decide_eq_true_eq] at hab hbc ⊢
  exact hab.trans hbc

theorem dimensionLe_total (a b : DimensionValue) : (dimensionLe a b || dimensionLe b a) = true := by
  simp only [dimensionLe, Bool.or_eq_true, decide_eq_true_eq]
  exact le_total _ _

theorem dimensionLe_antisymm {a b : DimensionValue} (hab : dimensionLe a b = true)
    (hba : dimensionLe b a = true) : a = b := by
  simp only [dimensionLe, decide_eq_true_eq] at hab hba
  have h : (a.name, a.value) = (b.name, b.value) := toLex.injective (le_antisymm hab hba)
  obtain ⟨hname, hvalue⟩ := Prod.mk.inj h
  cases a
  cases b
  simp only [DimensionValue.mk.injEq]
  exact ⟨hname, hvalue⟩

theorem mergeSort_eq_iff {ds es : List DimensionValue} :
    ds.mergeSort dimensionLe = es.mergeSort dimensionLe ↔ ds.Perm es := by
  constructor
  · intro h
    exact (List.mergeSort_perm ds dimensionLe).symm.trans (h ▸ List.mergeSort_perm es dimensionLe)
  · intro h
    have hperm : (ds.mergeSort dimensionLe).Perm (es.mergeSort dimensionLe) :=
      (List.mergeSort_perm ds dimensionLe).trans (h.trans (List.mergeSort_perm es dimensionLe).symm)
    refine List.Perm.eq_of_pairwise ?_
      (List.pairwise_mergeSort dimensionLe_trans dimensionLe_total ds)
      (List.pairwise_mergeSort dimensionLe_trans dimensionLe_total es) hperm
    intro a b _ _ hab hba
    exact dimensionLe_antisymm hab hba

theorem aggregationKey_eq_iff {line line' : IngestLine PyValue} :
    aggregationKey line = aggregationKey line' ↔ groupOf line = groupOf line' := by
  simp only [aggregationKey, groupOf, AggregationKey.mk.injEq, Prod.mk.injEq, Multiset.coe_eq_coe,
    mergeSort_eq_iff]

theorem addAggregatedLine_eq_ok {valueType : Text} {aggregated next : Aggregated}
    {line : IngestLine PyValue} (h : addAggregatedLine F valueType aggregated line = .ok next) :
    ∃ stored, next = aggregated.set (aggregationKey line) stored ∧
      aggregationKey stored = aggregationKey line := by
  rw [addAggregatedLine] at h
  cases hget : aggregated.get (aggregationKey line) with
  | none =>
    rw [hget] at h
    cases h
    exact ⟨line, rfl, rfl⟩
  | some existing =>
    rw [hget] at h
    cases hmerge : mergeValues F valueType existing.value line.value with
    | error e =>
      simp only [hmerge] at h
      cases h
    | ok value =>
      simp only [hmerge] at h
      cases h
      exact ⟨{ line with value }, rfl, rfl⟩

theorem exists_group_of_foldlM {valueType : Text} {lines : List (IngestLine PyValue)}
    {aggregated : Aggregated}
    (h : lines.foldlM (addAggregatedLine F valueType) OrderedDict.empty = .ok aggregated) :
    ∀ line ∈ lines, ∃ stored ∈ aggregated.values, groupOf stored = groupOf line := by
  have hget : ∀ line ∈ lines, ∃ stored, aggregated.get (aggregationKey line) = some stored ∧
      aggregationKey stored = aggregationKey line := by
    induction lines using List.reverseRecOn generalizing aggregated with
    | nil => simp
    | append_singleton lines last ih =>
      rw [List.foldlM_append] at h
      obtain ⟨before, hbefore, hlast⟩ := ExceptList.bind_eq_ok_iff.mp h
      obtain ⟨next, hnext, hlast⟩ := ExceptList.bind_eq_ok_iff.mp hlast
      cases hlast
      obtain ⟨stored, rfl, hstored⟩ := addAggregatedLine_eq_ok F hnext
      intro line hline
      by_cases hkey : aggregationKey line = aggregationKey last
      · rw [hkey]
        exact ⟨stored, OrderedDict.get_set_self _ _ _, hstored⟩
      · rcases List.mem_append.mp hline with hline | hline
        · rw [OrderedDict.get_set_of_ne _ _ hkey]
          exact ih hbefore line hline
        · rw [List.mem_singleton.mp hline] at hkey
          contradiction
  intro line hline
  obtain ⟨stored, hstored, hkey⟩ := hget line hline
  exact ⟨stored, OrderedDict.mem_values_of_get hstored, aggregationKey_eq_iff.mp hkey⟩

section Aggregate

variable {M : Type}

/-- What merging two values has to do with adding up the values they stand for. -/
structure Merges (valueType : Text) (Reads : PyValue → M → Prop) (Totals : List M → M → Prop) :
    Prop where
  singleton : ∀ m, Totals [m] m
  snoc : ∀ v w ms m n, Reads v m → Reads w n → Totals ms m →
    ∃ u k, mergeValues F valueType v w = .ok u ∧ Reads u k ∧ Totals (ms ++ [n]) k
  perm : ∀ ms ns m, ms.Perm ns → Totals ms m → Totals ns m
  unique : ∀ ms m n, Totals ms m → Totals ms n → m = n

variable {F} {valueType : Text} {Reads : PyValue → M → Prop} {Totals : List M → M → Prop}

def StandsFor (Reads : PyValue → M → Prop) (Totals : List M → M → Prop)
    (entries : List (IngestLine PyValue × M)) (line : IngestLine PyValue) : Prop :=
  (∀ entry ∈ entries, aggregationKey line = aggregationKey entry.1) ∧
    ∃ m, Reads line.value m ∧ Totals (entries.map Prod.snd) m

theorem addAggregatedLine_grouped (hmerges : Merges F valueType Reads Totals)
    (entries : List (IngestLine PyValue × M))
    (hreads : ∀ entry ∈ entries, Reads entry.1.value entry.2) :
    ∃ aggregated, (entries.map Prod.fst).foldlM (addAggregatedLine F valueType) OrderedDict.empty =
        .ok aggregated ∧
      OrderedDict.Grouped (fun entry => aggregationKey entry.1) (StandsFor Reads Totals) entries
        aggregated := by
  rw [List.foldlM_map]
  refine OrderedDict.foldlM_grouped (P := fun entry => Reads entry.1.value entry.2) ?_ ?_ entries
    hreads
  · intro aggregated entry hentry hget
    refine ⟨entry.1, ⟨by simp, entry.2, hentry, hmerges.singleton entry.2⟩, ?_⟩
    rw [addAggregatedLine, hget]
    rfl
  · intro aggregated entry group existing hentry hgroup hget hexisting
    obtain ⟨hkeys, m, hm, htotal⟩ := hexisting
    obtain ⟨u, k, hmerge, hu, hk⟩ :=
      hmerges.snoc _ _ _ _ _ hm hentry htotal
    refine ⟨{ entry.1 with value := u }, ⟨?_, k, hu, by simpa using hk⟩, ?_⟩
    · intro other hother
      rcases List.mem_append.mp hother with hother | hother
      · exact (hgroup other hother).2.symm
      · rw [List.mem_singleton.mp hother]
        rfl
    · rw [addAggregatedLine, hget]
      simp only [hmerge, bind, Except.bind]
      rfl

theorem mem_groupValues_perm {entries entries' : List (IngestLine PyValue × M)}
    (h : Rearranged entries entries') (group : LineGroup) :
    (groupValues entries group).Perm (groupValues entries' group) := by
  obtain ⟨middle, hperm, hsame⟩ := h
  refine ((hperm.filter _).map _).trans (List.Perm.of_eq ?_)
  clear hperm
  induction hsame with
  | nil => rfl
  | @cons entry entry' middle entries' hentry _ ih =>
    obtain ⟨hvalue, dimensionValues, hdimensions, hline⟩ := hentry
    have hgroup : groupOf entry'.1 = groupOf entry.1 := by
      rw [hline]
      simp only [groupOf, Prod.mk.injEq, Multiset.coe_eq_coe, true_and]
      exact hdimensions.symm
    simp only [groupValues, List.filter_cons, hgroup] at ih ⊢
    split_ifs
    · rw [List.map_cons, List.map_cons, ih, hvalue]
    · exact ih

theorem exists_group_iff {entries entries' : List (IngestLine PyValue × M)}
    (h : Rearranged entries entries') (group : LineGroup) :
    (∃ entry ∈ entries, groupOf entry.1 = group) ↔
      ∃ entry ∈ entries', groupOf entry.1 = group := by
  have hiff : ∀ l : List (IngestLine PyValue × M),
      (∃ entry ∈ l, groupOf entry.1 = group) ↔ groupValues l group ≠ [] := by
    intro l
    simp [groupValues]
  rw [hiff, hiff, ne_eq, ne_eq, ← List.length_eq_zero_iff, ← List.length_eq_zero_iff,
    (mem_groupValues_perm h group).length_eq]

theorem grouped_values {entries : List (IngestLine PyValue × M)} {aggregated : Aggregated}
    (h : OrderedDict.Grouped (fun entry => aggregationKey entry.1) (StandsFor Reads Totals) entries
      aggregated) :
    AggregateOf Reads Totals entries aggregated.values := by
  have hkey : ∀ key line, (key, line) ∈ aggregated.entries → aggregationKey line = key ∧
      ∃ m, Reads line.value m ∧ Totals (groupValues entries (groupOf line)) m := by
    intro key line hmem
    have hstands := h.stands key line (OrderedDict.get_of_mem_entries hmem)
    obtain ⟨entry, hentry, rfl⟩ := (h.mem_keys key).mp (List.mem_map.mpr ⟨_, hmem, rfl⟩)
    have hline : aggregationKey line = aggregationKey entry.1 :=
      hstands.1 entry (List.mem_filter.mpr ⟨hentry, by simp⟩)
    obtain ⟨m, hm, htotal⟩ := hstands.2
    refine ⟨hline, m, hm, ?_⟩
    have hfilter : entries.filter (fun other => groupOf other.1 = groupOf line) =
        entries.filter (fun other => aggregationKey other.1 = aggregationKey entry.1) := by
      congr 1
      funext other
      rw [← hline]
      exact decide_eq_decide.mpr aggregationKey_eq_iff.symm
    rw [groupValues, hfilter]
    exact htotal
  have hvalues : aggregated.values.map aggregationKey = aggregated.keys := by
    rw [OrderedDict.values, List.map_map, OrderedDict.keys]
    apply List.map_congr_left
    rintro ⟨key, line⟩ hmem
    exact (hkey key line hmem).1
  have hnodup : (aggregated.values.map aggregationKey).Nodup := hvalues ▸ aggregated.nodup
  refine ⟨?_, ?_, ?_⟩
  · refine List.Nodup.map_on ?_ hnodup.of_map
    intro line hline line' hline' hgroup
    exact List.inj_on_of_nodup_map hnodup hline hline' (aggregationKey_eq_iff.mpr hgroup)
  · intro group
    constructor
    · intro hgroup
      obtain ⟨line, hline, rfl⟩ := List.mem_map.mp hgroup
      have hmem : aggregationKey line ∈ aggregated.keys :=
        hvalues ▸ List.mem_map.mpr ⟨line, hline, rfl⟩
      obtain ⟨entry, hentry, hkey⟩ := (h.mem_keys _).mp hmem
      exact ⟨entry, hentry, aggregationKey_eq_iff.mp hkey⟩
    · rintro ⟨entry, hentry, rfl⟩
      have hmem : aggregationKey entry.1 ∈ aggregated.values.map aggregationKey := by
        rw [hvalues]
        exact (h.mem_keys _).mpr ⟨entry, hentry, rfl⟩
      obtain ⟨line, hline, hkey⟩ := List.mem_map.mp hmem
      exact List.mem_map.mpr ⟨line, hline, aggregationKey_eq_iff.mp hkey⟩
  · intro line hline
    obtain ⟨⟨key, line⟩, hmem, rfl⟩ := List.mem_map.mp hline
    exact (hkey key line hmem).2

structure SameAggregate (Reads : PyValue → M → Prop) (lines lines' : List (IngestLine PyValue)) :
    Prop where
  groups : ∀ group, group ∈ lines.map groupOf ↔ group ∈ lines'.map groupOf
  values : ∀ line ∈ lines, ∀ line' ∈ lines', groupOf line = groupOf line' →
    ∃ m, Reads line.value m ∧ Reads line'.value m

theorem AggregateOf.sameAggregate (hmerges : Merges F valueType Reads Totals)
    {entries entries' : List (IngestLine PyValue × M)} {lines lines' : List (IngestLine PyValue)}
    (h : AggregateOf Reads Totals entries lines) (h' : AggregateOf Reads Totals entries' lines')
    (hrearranged : Rearranged entries entries') : SameAggregate Reads lines lines' where
  groups := by
    intro group
    rw [h.mem_groups, h'.mem_groups]
    exact exists_group_iff hrearranged group
  values := by
    intro line hline line' hline' hgroup
    obtain ⟨m, hm, htotal⟩ := h.total line hline
    obtain ⟨n, hn, htotal'⟩ := h'.total line' hline'
    have hperm := mem_groupValues_perm hrearranged (groupOf line)
    rw [← hgroup] at htotal'
    have hmn : m = n := hmerges.unique _ m n (hmerges.perm _ _ m hperm htotal) htotal'
    exact ⟨m, hm, hmn ▸ hn⟩

theorem aggregateLines_aggregateOf (hmerges : Merges F valueType Reads Totals)
    (entries : List (IngestLine PyValue × M))
    (hreads : ∀ entry ∈ entries, Reads entry.1.value entry.2) :
    ∃ lines, aggregateLines F valueType (entries.map Prod.fst) = .ok lines ∧
      AggregateOf Reads Totals entries lines := by
  obtain ⟨aggregated, hfold, hgrouped⟩ := addAggregatedLine_grouped hmerges entries hreads
  refine ⟨aggregated.values, ?_, grouped_values hgrouped⟩
  rw [aggregateLines, hfold]
  rfl

end Aggregate

theorem merges_int64 {valueType : Text} (h : valueType.map Char.toLower = "int64".toList) :
    Merges F valueType ReadsInt SumOf where
  singleton := by
    intro n
    simp [SumOf]
  snoc := by
    intro v w ns m n hv hw hm
    refine ⟨.number (.int (m + n)), m + n, ?_, rfl, ?_⟩
    · rw [mergeValues, h, if_neg (by decide), if_pos rfl]
      simp only [ReadsInt] at hv hw
      simp only [hv, hw, bind, Except.bind]
      rfl
    · rw [SumOf, List.sum_append, List.sum_singleton, hm]
  perm := by
    intro ms ns m hperm hm
    rw [SumOf, ← hperm.sum_eq]
    exact hm
  unique := by
    intro ms m n hm hn
    exact hm.trans hn.symm

theorem TotalOf.snoc {ds : List Distribution} {d : Distribution} (h : TotalOf ds d)
    (e : Distribution) :
    TotalOf (ds ++ [e]) ⟨min d.min e.min, max d.max e.max, d.count + e.count, d.sum + e.sum⟩ where
  min_mem := by
    rw [List.map_append, List.mem_append]
    rcases min_choice d.min e.min with hmin | hmin
    · exact .inl (hmin.symm ▸ h.min_mem)
    · exact .inr (by simp [hmin])
  min_le := by
    intro x hx
    rcases List.mem_append.mp hx with hx | hx
    · exact (min_le_left _ _).trans (h.min_le x hx)
    · rw [List.mem_singleton.mp hx]
      exact min_le_right _ _
  max_mem := by
    rw [List.map_append, List.mem_append]
    rcases max_choice d.max e.max with hmax | hmax
    · exact .inl (hmax.symm ▸ h.max_mem)
    · exact .inr (by simp [hmax])
  le_max := by
    intro x hx
    rcases List.mem_append.mp hx with hx | hx
    · exact (h.le_max x hx).trans (le_max_left _ _)
    · rw [List.mem_singleton.mp hx]
      exact le_max_right _ _
  count_eq := by simp [h.count_eq]
  sum_eq := by simp [h.sum_eq]

theorem TotalOf.unique {ds : List Distribution} {d e : Distribution} (hd : TotalOf ds d)
    (he : TotalOf ds e) : d = e := by
  obtain ⟨x, hx, hxmin⟩ := List.mem_map.mp hd.min_mem
  obtain ⟨y, hy, hymin⟩ := List.mem_map.mp he.min_mem
  obtain ⟨z, hz, hzmax⟩ := List.mem_map.mp hd.max_mem
  obtain ⟨t, ht, htmax⟩ := List.mem_map.mp he.max_mem
  have hmin : d.min = e.min :=
    le_antisymm (hymin ▸ hd.min_le y hy) (hxmin ▸ he.min_le x hx)
  have hmax : d.max = e.max :=
    le_antisymm (hzmax ▸ he.le_max z hz) (htmax ▸ hd.le_max t ht)
  cases d
  cases e
  simp only [Summary.mk.injEq]
  exact ⟨hmin, hmax, hd.count_eq.trans he.count_eq.symm, hd.sum_eq.trans he.sum_eq.symm⟩

theorem merges_distribution {valueType : Text}
    (h : valueType.map Char.toLower = "distribution".toList) :
    Merges F valueType (ReadsDistribution F) TotalOf where
  singleton := by
    intro d
    constructor <;> simp
  snoc := by
    intro v w ds d e hv hw hd
    obtain ⟨u, hmerge, hu⟩ := hv.merge hw
    refine ⟨u, _, ?_, hu, hd.snoc e⟩
    rw [mergeValues, h, if_pos rfl]
    exact hmerge
  perm := by
    intro ds es d hperm hd
    refine ⟨(hperm.map _).mem_iff.mp hd.min_mem, ?_, (hperm.map _).mem_iff.mp hd.max_mem, ?_,
      hd.count_eq.trans (hperm.map _).sum_eq, hd.sum_eq.trans (hperm.map _).sum_eq⟩
    · intro e he
      exact hd.min_le e (hperm.mem_iff.mpr he)
    · intro e he
      exact hd.le_max e (hperm.mem_iff.mpr he)
  unique := by
    intro ds d e
    exact TotalOf.unique

def AggregatesInAnyOrder {M : Type} (valueType : Text) (Reads : PyValue → M → Prop)
    (Totals : List M → M → Prop) : Prop :=
  ∀ entries : List (IngestLine PyValue × M), (∀ entry ∈ entries, Reads entry.1.value entry.2) →
    ∃ lines, aggregateLines F valueType (entries.map Prod.fst) = .ok lines ∧
      AggregateOf Reads Totals entries lines ∧
      ∀ entries', Rearranged entries entries' →
        ∃ lines', aggregateLines F valueType (entries'.map Prod.fst) = .ok lines' ∧
          AggregateOf Reads Totals entries' lines' ∧ SameAggregate Reads lines lines'

theorem Rearranged.reads {M : Type} {Reads : PyValue → M → Prop}
    {entries entries' : List (IngestLine PyValue × M)} (h : Rearranged entries entries')
    (hreads : ∀ entry ∈ entries, Reads entry.1.value entry.2) :
    ∀ entry ∈ entries', Reads entry.1.value entry.2 := by
  obtain ⟨middle, hperm, hsame⟩ := h
  have hmiddle : ∀ entry ∈ middle, Reads entry.1.value entry.2 := by
    intro entry hentry
    exact hreads entry (hperm.mem_iff.mpr hentry)
  clear hperm hreads
  induction hsame with
  | nil => simp
  | @cons entry entry' middle entries' hentry _ ih =>
    obtain ⟨hvalue, dimensionValues, -, hline⟩ := hentry
    intro other hother
    rcases List.mem_cons.mp hother with rfl | hother
    · rw [hvalue, hline]
      exact hmiddle entry List.mem_cons_self
    · have hrest : ∀ entry ∈ middle, Reads entry.1.value entry.2 := by
        intro entry hentry
        exact hmiddle entry (List.mem_cons_of_mem _ hentry)
      exact ih hrest other hother

theorem Merges.aggregatesInAnyOrder {M : Type} {valueType : Text} {Reads : PyValue → M → Prop}
    {Totals : List M → M → Prop} (hmerges : Merges F valueType Reads Totals) :
    AggregatesInAnyOrder F valueType Reads Totals := by
  intro entries hreads
  obtain ⟨lines, hlines, haggregate⟩ := aggregateLines_aggregateOf hmerges entries hreads
  refine ⟨lines, hlines, haggregate, ?_⟩
  intro entries' hrearranged
  obtain ⟨lines', hlines', haggregate'⟩ :=
    aggregateLines_aggregateOf hmerges entries' (hrearranged.reads hreads)
  exact ⟨lines', hlines', haggregate', haggregate.sameAggregate hmerges haggregate' hrearranged⟩

theorem local_aggregation_is_group_by :
    (∀ valueType : Text, valueType.map Char.toLower = "int64".toList →
      AggregatesInAnyOrder F valueType ReadsInt SumOf) ∧
    ∀ valueType : Text, valueType.map Char.toLower = "distribution".toList →
      AggregatesInAnyOrder F valueType (ReadsDistribution F) TotalOf := by
  constructor
  · intro valueType h
    exact (merges_int64 F h).aggregatesInAnyOrder
  · intro valueType h
    exact (merges_distribution F h).aggregatesInAnyOrder

theorem AggregateOf.total_of_one_group {M : Type} {Reads : PyValue → M → Prop}
    {Totals : List M → M → Prop} {entries : List (IngestLine PyValue × M)}
    {lines : List (IngestLine PyValue)} (h : AggregateOf Reads Totals entries lines)
    {group : LineGroup} (hgroup : ∀ entry ∈ entries, groupOf entry.1 = group) :
    ∀ line ∈ lines, ∃ m, Reads line.value m ∧ Totals (entries.map Prod.snd) m := by
  intro line hline
  obtain ⟨entry, hentry, heq⟩ := (h.mem_groups (groupOf line)).mp (List.mem_map_of_mem hline)
  obtain ⟨m, hm, htotal⟩ := h.total line hline
  have hall : entries.filter (fun entry => groupOf entry.1 = groupOf line) = entries := by
    rw [List.filter_eq_self]
    intro other hother
    rw [← heq, hgroup other hother, hgroup entry hentry]
    exact decide_eq_true rfl
  rw [groupValues, hall] at htotal
  exact ⟨m, hm, htotal⟩

theorem local_aggregation_is_group_by_two_lines :
    let first : DimensionValue := ⟨"first".toList, "1".toList⟩
    let second : DimensionValue := ⟨"second".toList, "2".toList⟩
    let line (dimensionValues : List DimensionValue) (value : PyValue) : IngestLine PyValue :=
      ⟨"entity".toList, "metric".toList, "count".toList, value, 1000, dimensionValues⟩
    (∃ lines, aggregateLines .wholeOrFraction "INT64".toList
        [line [first, second] (.text "20".toList), line [second, first] (.number (.int 22))] =
          .ok lines ∧
      ∀ line ∈ lines, line.value.int = .ok 42) ∧
    ∃ lines, aggregateLines .wholeOrFraction "DISTRIBUTION".toList
        [line [first] (.text "min=1,max=3.0,count=2,sum=4.0".toList),
          line [first] (.text "min=5.0,max=5.0,count=1,sum=5.0".toList)] = .ok lines ∧
      ∀ line ∈ lines, ∃ d, ReadsDistribution .wholeOrFraction line.value d ∧
        TotalOf [⟨1, 3, 2, 4⟩, ⟨5, 5, 1, 5⟩] d := by
  intro first second line
  obtain ⟨hint, hdistribution⟩ := local_aggregation_is_group_by .wholeOrFraction
  constructor
  · have htext : ReadsInt (.text "20".toList) 20 := by
      rw [ReadsInt]
      decide +kernel
    obtain ⟨lines, hlines, haggregate, -⟩ := hint "INT64".toList (by decide +kernel)
      [(line [first, second] (.text "20".toList), 20),
        (line [second, first] (.number (.int 22)), 22)]
      (by simp only [List.forall_mem_cons]; exact ⟨htext, rfl, by simp⟩)
    refine ⟨lines, hlines, ?_⟩
    intro result hresult
    have hgroup : groupOf (line [second, first] (.number (.int 22))) =
        groupOf (line [first, second] (.text "20".toList)) := by
      simp only [groupOf, Prod.mk.injEq, Multiset.coe_eq_coe, true_and, line]
      exact List.Perm.swap _ _ _
    obtain ⟨n, hn, htotal⟩ := haggregate.total_of_one_group
      (by simp only [List.forall_mem_cons]; exact ⟨rfl, hgroup, by simp⟩) result hresult
    cases htotal
    exact hn
  · obtain ⟨lines, hlines, haggregate, -⟩ := hdistribution "DISTRIBUTION".toList (by decide)
      [(line [first] (.text "min=1,max=3.0,count=2,sum=4.0".toList), ⟨1, 3, 2, 4⟩),
        (line [first] (.text "min=5.0,max=5.0,count=1,sum=5.0".toList), ⟨5, 5, 1, 5⟩)]
      (by
        simp only [List.forall_mem_cons]
        exact ⟨⟨.int 1, .float 3, .float 4, none, by decide +kernel, by decide +kernel⟩,
          ⟨.float 5, .float 5, .float 5, none, by decide +kernel, by decide +kernel⟩, by simp⟩)
    refine ⟨lines, hlines, ?_⟩
    have hgroup : ∀ value, groupOf (line [first] value) = groupOf (line [first] (.text [])) := by
      intro value
      rfl
    apply haggregate.total_of_one_group
    simp only [List.forall_mem_cons]
    exact ⟨hgroup _, hgroup _, by simp⟩

end GcpMonitor.Metrics
