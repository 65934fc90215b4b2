import Mathlib.Data.List.Nodup
import Mathlib.Data.List.Induction

namespace GcpMonitor

/-- A finite map that remembers in which order its keys came, as a Python `dict` does. -/
structure OrderedDict (κ ν : Type) where
  entries : List (κ × ν)
  nodup : (entries.map Prod.fst).Nodup

namespace OrderedDict

variable {κ ν : Type}

def empty : OrderedDict κ ν := ⟨[], List.nodup_nil⟩

def keys (d : OrderedDict κ ν) : List κ := d.entries.map Prod.fst

def values (d : OrderedDict κ ν) : List ν := d.entries.map Prod.snd

@[simp] theorem keys_empty : (empty : OrderedDict κ ν).keys = [] := rfl

def mapValues (d : OrderedDict κ ν) (f : κ → ν → ν) : OrderedDict κ ν where
  entries := d.entries.map (fun entry => (entry.1, f entry.1 entry.2))
  nodup := by simpa [Function.comp_def] using d.nodup

theorem keys_mapValues (d : OrderedDict κ ν) (f : κ → ν → ν) : (d.mapValues f).keys = d.keys := by
  simp [keys, mapValues]

def dropKeys (d : OrderedDict κ ν) (dropped : κ → Bool) : OrderedDict κ ν where
  entries := d.entries.filter (fun entry => !dropped entry.1)
  nodup := d.nodup.sublist (List.filter_sublist.map Prod.fst)

variable [DecidableEq κ]

def get (d : OrderedDict κ ν) (k : κ) : Option ν := d.entries.lookup k

def setEntries (k : κ) (v : ν) : List (κ × ν) → List (κ × ν)
  | [] => [(k, v)]
  | (k', v') :: rest => if k' = k then (k, v) :: rest else (k', v') :: setEntries k v rest

theorem keys_setEntries (k : κ) (v : ν) (entries : List (κ × ν)) :
    (setEntries k v entries).map Prod.fst =
      if k ∈ entries.map Prod.fst then entries.map Prod.fst else entries.map Prod.fst ++ [k] := by
  induction entries with
  | nil => rfl
  | cons entry rest ih =>
    obtain ⟨k', v'⟩ := entry
    by_cases h : k' = k
    · simp [setEntries, h]
    · rw [setEntries, if_neg h, List.map_cons, List.map_cons, ih]
      by_cases hk : k ∈ rest.map Prod.fst
      · rw [if_pos hk, if_pos (List.mem_cons_of_mem _ hk)]
      · rw [if_neg hk, if_neg (by simpa [Ne.symm h] using hk), List.cons_append]

def set (d : OrderedDict κ ν) (k : κ) (v : ν) : OrderedDict κ ν where
  entries := setEntries k v d.entries
  nodup := by
    rw [keys_setEntries]
    split_ifs with h
    · exact d.nodup
    · exact List.nodup_append_comm.mp (List.nodup_cons.mpr ⟨h, d.nodup⟩)

theorem mem_keys_set {d : OrderedDict κ ν} {k k' : κ} {v : ν} :
    k' ∈ (d.set k v).keys ↔ k' ∈ d.keys ∨ k' = k := by
  rw [keys, set, keys_setEntries]
  split_ifs with h
  · constructor
    · exact Or.inl
    · rintro (hk | rfl)
      · exact hk
      · exact h
  · simp [keys]

theorem mem_setEntries {k : κ} {v : ν} {entries : List (κ × ν)} {entry : κ × ν}
    (h : entry ∈ setEntries k v entries) : entry = (k, v) ∨ entry ∈ entries := by
  induction entries with
  | nil => exact .inl (List.mem_singleton.mp h)
  | cons first rest ih =>
    rw [setEntries] at h
    split_ifs at h
    · rcases List.mem_cons.mp h with h | h
      · exact .inl h
      · exact .inr (List.mem_cons_of_mem _ h)
    · rcases List.mem_cons.mp h with rfl | h
      · exact .inr List.mem_cons_self
      · exact (ih h).imp id (List.mem_cons_of_mem _)

theorem mem_values_set {d : OrderedDict κ ν} {k : κ} {v w : ν} (h : w ∈ (d.set k v).values) :
    w = v ∨ w ∈ d.values := by
  obtain ⟨entry, hentry, rfl⟩ := List.mem_map.mp h
  rcases mem_setEntries hentry with rfl | hmem
  · exact .inl rfl
  · exact .inr (List.mem_map_of_mem hmem)

theorem keys_set_of_mem {d : OrderedDict κ ν} {k : κ} (h : k ∈ d.keys) (v : ν) :
    (d.set k v).keys = d.keys := by
  rw [keys, keys, set, keys_setEntries]
  exact if_pos h

@[simp] theorem get_empty (k : κ) : (empty : OrderedDict κ ν).get k = none := rfl

theorem get_set_self (d : OrderedDict κ ν) (k : κ) (v : ν) : (d.set k v).get k = some v := by
  simp only [get, set]
  induction d.entries with
  | nil => simp [setEntries]
  | cons entry rest ih =>
    obtain ⟨k', v'⟩ := entry
    by_cases h : k' = k
    · simp [setEntries, h]
    · simp only [setEntries, if_neg h, List.lookup_cons, beq_false_of_ne (Ne.symm h)]
      exact ih

theorem get_set_of_ne (d : OrderedDict κ ν) {k k' : κ} (v : ν) (hne : k' ≠ k) :
    (d.set k v).get k' = d.get k' := by
  simp only [get, set]
  induction d.entries with
  | nil => simp [setEntries, List.lookup_cons, beq_false_of_ne hne]
  | cons entry rest ih =>
    obtain ⟨k'', v'⟩ := entry
    by_cases h : k'' = k
    · subst h
      simp [setEntries, List.lookup_cons, beq_false_of_ne hne]
    · simp only [setEntries, if_neg h, List.lookup_cons]
      split
      · rfl
      · exact ih

theorem set_of_get {d : OrderedDict κ ν} {k : κ} {v : ν} (h : d.get k = some v) :
    d.set k v = d := by
  have hentries : ∀ entries : List (κ × ν), entries.lookup k = some v →
      setEntries k v entries = entries := by
    intro entries hlookup
    induction entries with
    | nil => cases hlookup
    | cons entry rest ih =>
      obtain ⟨k', v'⟩ := entry
      rw [List.lookup_cons] at hlookup
      by_cases hk : k' = k
      · subst hk
        rw [beq_self_eq_true] at hlookup
        cases hlookup
        rw [setEntries, if_pos rfl]
      · rw [beq_false_of_ne (Ne.symm hk)] at hlookup
        rw [setEntries, if_neg hk, ih hlookup]
  obtain ⟨entries, hnodup⟩ := d
  simp only [set, mk.injEq]
  exact hentries entries h

theorem get_mapValues (d : OrderedDict κ ν) (f : κ → ν → ν) (k : κ) :
    (d.mapValues f).get k = (d.get k).map (f k) := by
  simp only [get, mapValues]
  induction d.entries with
  | nil => rfl
  | cons entry rest ih =>
    rw [List.map_cons, List.lookup_cons, List.lookup_cons]
    by_cases h : k = entry.1
    · simp [h]
    · simp only [beq_false_of_ne h]
      exact ih

theorem get_isSome_iff {d : OrderedDict κ ν} {k : κ} : (d.get k).isSome ↔ k ∈ d.keys := by
  rw [get, keys]
  induction d.entries with
  | nil => simp
  | cons entry rest ih =>
    rw [List.lookup_cons, List.map_cons, List.mem_cons]
    by_cases h : k = entry.1
    · simp [h]
    · simp only [beq_false_of_ne h, h, false_or]
      exact ih

theorem lookup_of_mem {entries : List (κ × ν)} (hnodup : (entries.map Prod.fst).Nodup) {k : κ}
    {v : ν} (h : (k, v) ∈ entries) : entries.lookup k = some v := by
  induction entries with
  | nil => simp at h
  | cons entry rest ih =>
    rw [List.map_cons, List.nodup_cons] at hnodup
    rcases List.mem_cons.mp h with rfl | hmem
    · simp
    · have hne : k ≠ entry.1 := by
        rintro rfl
        exact hnodup.1 (List.mem_map.mpr ⟨_, hmem, rfl⟩)
      rw [List.lookup_cons, beq_false_of_ne hne]
      exact ih hnodup.2 hmem

theorem get_of_mem_entries {d : OrderedDict κ ν} {k : κ} {v : ν} (h : (k, v) ∈ d.entries) :
    d.get k = some v :=
  lookup_of_mem d.nodup h

theorem mem_entries_of_lookup {entries : List (κ × ν)} {k : κ} {v : ν}
    (h : entries.lookup k = some v) : (k, v) ∈ entries := by
  induction entries with
  | nil => contradiction
  | cons entry rest ih =>
    rw [List.lookup_cons] at h
    by_cases hk : k = entry.1
    · subst hk
      simp only [BEq.rfl, Option.some.injEq] at h
      subst h
      exact List.mem_cons_self
    · rw [beq_false_of_ne hk] at h
      exact List.mem_cons_of_mem _ (ih h)

theorem mem_entries_of_get {d : OrderedDict κ ν} {k : κ} {v : ν} (h : d.get k = some v) :
    (k, v) ∈ d.entries :=
  mem_entries_of_lookup h

theorem mem_values_of_get {d : OrderedDict κ ν} {k : κ} {v : ν} (h : d.get k = some v) :
    v ∈ d.values :=
  List.mem_map_of_mem (mem_entries_of_get h)

theorem entries_isEmpty_of_get {d : OrderedDict κ ν} {k : κ} {v : ν} (h : d.get k = some v) :
    d.entries.isEmpty = false :=
  List.isEmpty_eq_false_iff.mpr (List.ne_nil_of_mem (mem_entries_of_get h))

def erase (d : OrderedDict κ ν) (k : κ) : OrderedDict κ ν where
  entries := d.entries.filter (fun entry => entry.1 ≠ k)
  nodup := d.nodup.sublist (List.filter_sublist.map Prod.fst)

theorem get_erase (d : OrderedDict κ ν) (k k' : κ) :
    (d.erase k).get k' = if k' = k then none else d.get k' := by
  simp only [get, erase]
  induction d.entries with
  | nil => simp
  | cons entry rest ih =>
    by_cases hk : entry.1 = k
    · rw [List.filter_cons_of_neg (by simpa using hk), ih, List.lookup_cons]
      by_cases hk' : k' = k
      · rw [if_pos hk', if_pos hk']
      · rw [if_neg hk', if_neg hk', beq_false_of_ne (fun h => hk' (h.trans hk))]
    · rw [List.filter_cons_of_pos (by simpa using hk), List.lookup_cons, List.lookup_cons, ih]
      by_cases hk' : k' = entry.1
      · subst hk'
        simp [hk]
      · rw [beq_false_of_ne hk']

theorem mem_keys_foldl_set {α : Type} {key : α → κ} {value : α → ν} {xs : List α}
    {start : OrderedDict κ ν} {k : κ} :
    k ∈ (xs.foldl (fun d x => d.set (key x) (value x)) start).keys ↔
      k ∈ start.keys ∨ ∃ x ∈ xs, key x = k := by
  induction xs generalizing start with
  | nil => simp
  | cons x xs ih =>
    rw [List.foldl_cons, ih, mem_keys_set, List.exists_mem_cons_iff, or_assoc, eq_comm (a := k)]

theorem get_foldl_set_cases {α : Type} {key : α → κ} {value : α → ν} {xs : List α}
    {start : OrderedDict κ ν} {k : κ} {v : ν}
    (h : (xs.foldl (fun d x => d.set (key x) (value x)) start).get k = some v) :
    start.get k = some v ∨ ∃ x ∈ xs, key x = k ∧ value x = v := by
  induction xs generalizing start with
  | nil => exact .inl h
  | cons x xs ih =>
    rcases ih h with hstart | ⟨y, hy, hkey⟩
    · by_cases hk : k = key x
      · subst hk
        rw [get_set_self, Option.some.injEq] at hstart
        exact .inr ⟨x, List.mem_cons_self, rfl, hstart⟩
      · rw [get_set_of_ne _ _ hk] at hstart
        exact .inl hstart
    · exact .inr ⟨y, List.mem_cons_of_mem _ hy, hkey⟩

theorem get_foldl_set_of_forall_ne {α : Type} {key : α → κ} {value : α → ν} {xs : List α}
    {start : OrderedDict κ ν} {k : κ} (h : ∀ x ∈ xs, key x ≠ k) :
    (xs.foldl (fun d x => d.set (key x) (value x)) start).get k = start.get k := by
  induction xs generalizing start with
  | nil => rfl
  | cons x xs ih =>
    rw [List.foldl_cons, ih (fun y hy => h y (List.mem_cons_of_mem _ hy)),
      get_set_of_ne _ _ (h x List.mem_cons_self).symm]

theorem get_foldl_set_last {α : Type} {key : α → κ} {value : α → ν} {before after : List α} {x : α}
    {start : OrderedDict κ ν} (h : ∀ y ∈ after, key y ≠ key x) :
    ((before ++ x :: after).foldl (fun d x => d.set (key x) (value x)) start).get (key x) =
      some (value x) := by
  rw [List.foldl_append, List.foldl_cons, get_foldl_set_of_forall_ne h, get_set_self]

theorem get_foldl_set_of_nodup {α : Type} {key : α → κ} {value : α → ν} {xs : List α}
    {start : OrderedDict κ ν} (hnodup : (xs.map key).Nodup) {x : α} (hx : x ∈ xs) :
    (xs.foldl (fun d x => d.set (key x) (value x)) start).get (key x) = some (value x) := by
  obtain ⟨before, after, rfl⟩ := List.append_of_mem hx
  apply get_foldl_set_last
  intro y hy hkey
  rw [List.map_append, List.map_cons] at hnodup
  have hnotMem := (List.nodup_cons.mp (List.nodup_append.mp hnodup).2.1).1
  exact hnotMem (hkey ▸ List.mem_map_of_mem hy)

theorem entries_set_of_notMem {d : OrderedDict κ ν} {k : κ} (h : k ∉ d.keys) (v : ν) :
    (d.set k v).entries = d.entries ++ [(k, v)] := by
  have happend : ∀ entries : List (κ × ν), k ∉ entries.map Prod.fst →
      setEntries k v entries = entries ++ [(k, v)] := by
    intro entries hentries
    induction entries with
    | nil => rfl
    | cons entry rest ih =>
      rw [List.map_cons, List.mem_cons, not_or] at hentries
      rw [setEntries, if_neg (Ne.symm hentries.1), ih hentries.2, List.cons_append]
  exact happend d.entries h

theorem entries_foldl_set_of_nodup {entries : List (κ × ν)} {start : OrderedDict κ ν}
    (h : ((start.entries ++ entries).map Prod.fst).Nodup) :
    (entries.foldl (fun d entry => d.set entry.1 entry.2) start).entries =
      start.entries ++ entries := by
  induction entries generalizing start with
  | nil => exact (List.append_nil _).symm
  | cons entry entries ih =>
    have hnew : entry.1 ∉ start.keys := by
      intro hmem
      rw [List.map_append, List.map_cons] at h
      exact (List.disjoint_of_nodup_append h) hmem List.mem_cons_self
    have hset := entries_set_of_notMem hnew entry.2
    rw [List.foldl_cons, ih, hset, List.append_assoc, List.singleton_append]
    rw [hset, List.append_assoc, List.singleton_append]
    exact h

section GroupBy

variable {α ε : Type} (key : α → κ) (R : List α → ν → Prop)

/-- Each key of the elements seen so far has one entry, and its value stands for the elements that
have the key, in the order in which they came. -/
structure Grouped (xs : List α) (d : OrderedDict κ ν) : Prop where
  mem_keys : ∀ k, k ∈ d.keys ↔ ∃ x ∈ xs, key x = k
  stands : ∀ k v, d.get k = some v → R (xs.filter (fun x => key x = k)) v

variable {key R}

theorem Grouped.nil : Grouped key R [] empty where
  mem_keys := by simp
  stands := by simp

theorem Grouped.snoc {xs : List α} {d : OrderedDict κ ν} (h : Grouped key R xs d) {x : α} {v : ν}
    (hv : R (xs.filter (fun y => key y = key x) ++ [x]) v) :
    Grouped key R (xs ++ [x]) (d.set (key x) v) where
  mem_keys := by
    intro k
    rw [mem_keys_set, h.mem_keys]
    simp [or_and_right, exists_or, eq_comm]
  stands := by
    intro k w hw
    rw [List.filter_append]
    by_cases hk : key x = k
    · subst hk
      rw [get_set_self] at hw
      cases hw
      simpa using hv
    · rw [get_set_of_ne _ _ (Ne.symm hk)] at hw
      simpa [hk] using h.stands k w hw

theorem Grouped.filter_of_get_none {xs : List α} {d : OrderedDict κ ν} (h : Grouped key R xs d)
    {k : κ} (hk : d.get k = none) : xs.filter (fun x => key x = k) = [] := by
  rw [List.filter_eq_nil_iff]
  intro x hx hkey
  have hmem : k ∈ d.keys := (h.mem_keys k).mpr ⟨x, hx, of_decide_eq_true hkey⟩
  rw [← get_isSome_iff, hk] at hmem
  exact absurd hmem (by simp)

theorem foldlM_grouped {P : α → Prop}
    {add : OrderedDict κ ν → α → Except ε (OrderedDict κ ν)}
    (hnew : ∀ d x, P x → d.get (key x) = none →
      ∃ v, R [x] v ∧ add d x = .ok (d.set (key x) v))
    (hold : ∀ d x xs v, P x → (∀ y ∈ xs, P y ∧ key y = key x) → d.get (key x) = some v →
      R xs v → ∃ w, R (xs ++ [x]) w ∧ add d x = .ok (d.set (key x) w))
    (xs : List α) (hP : ∀ x ∈ xs, P x) :
    ∃ d, xs.foldlM add empty = .ok d ∧ Grouped key R xs d := by
  induction xs using List.reverseRecOn with
  | nil => exact ⟨empty, rfl, .nil⟩
  | append_singleton xs x ih =>
    obtain ⟨d, hd, hgrouped⟩ := ih (fun y hy => hP y (List.mem_append_left _ hy))
    have hx : P x := hP x (by simp)
    have hstep : ∃ v, R (xs.filter (fun y => key y = key x) ++ [x]) v ∧
        add d x = .ok (d.set (key x) v) := by
      cases hget : d.get (key x) with
      | none =>
        rw [hgrouped.filter_of_get_none hget]
        exact hnew d x hx hget
      | some v =>
        refine hold d x _ v hx ?_ hget (hgrouped.stands _ v hget)
        intro y hy
        obtain ⟨hmem, hkey⟩ := List.mem_filter.mp hy
        exact ⟨hP y (List.mem_append_left _ hmem), of_decide_eq_true hkey⟩
    obtain ⟨v, hv, hadd⟩ := hstep
    refine ⟨d.set (key x) v, ?_, hgrouped.snoc hv⟩
    rw [List.foldlM_append, hd]
    simp only [bind, Except.bind, List.foldlM, hadd]
    rfl

end GroupBy

end OrderedDict

end GcpMonitor
