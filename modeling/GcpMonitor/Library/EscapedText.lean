import Mathlib.Data.List.DropRight
import Mathlib.Data.List.Infix
import Mathlib.Data.List.Induction

namespace GcpMonitor.EscapedText

structure Escaping (α : Type) where
  esc : α
  quote : α
  quote_ne_esc : quote ≠ esc

variable {α : Type} [DecidableEq α] (E : Escaping α)

namespace Escaping

def escapeChar (c : α) : List α := if c = E.esc ∨ c = E.quote then [E.esc, c] else [c]

def escape (s : List α) : List α := s.flatMap E.escapeChar

/-- Reads up to the first quote that no escape stands before, and returns what was read together
with the rest of the input. -/
def scan : List α → Option (List α × List α)
  | [] => none
  | c :: rest =>
    if c = E.quote then some ([], rest)
    else if c = E.esc then
      match rest with
      | [] => none
      | d :: rest => (scan rest).map (fun (s, rest) => (d :: s, rest))
    else (scan rest).map (fun (s, rest) => (c :: s, rest))

/-- Text that a quote after it closes: no quote stands in it without an escape before it, and its
last escape has a character to escape. -/
def closed : List α → Bool
  | [] => true
  | c :: rest =>
    if c = E.quote then false
    else if c = E.esc then
      match rest with
      | [] => false
      | _ :: rest => closed rest
    else closed rest

def trailing (s : List α) : ℕ := s.length - (s.rdropWhile (fun c => c = E.esc)).length

/-- Cuts a text to a length, and one character shorter when the cut leaves an escape without the
character it escapes. -/
def truncate (s : List α) (n : ℕ) : List α :=
  if s.length ≤ n then s
  else
    let cut := s.take n
    if E.trailing cut % 2 = 1 then cut.dropLast else cut

structure LongestFitting (n : ℕ) (s v : List α) : Prop where
  isPrefix : v <+: s
  fits : (E.escape v).length ≤ n
  longest : ∀ w, w <+: s → (E.escape w).length ≤ n → w.length ≤ v.length

@[simp] theorem escape_nil : E.escape [] = [] := rfl

@[simp] theorem escape_cons (c : α) (s : List α) :
    E.escape (c :: s) = E.escapeChar c ++ E.escape s := List.flatMap_cons

@[simp] theorem escape_append (s t : List α) : E.escape (s ++ t) = E.escape s ++ E.escape t :=
  List.flatMap_append

theorem escape_singleton (c : α) : E.escape [c] = E.escapeChar c := List.append_nil _

theorem escapeChar_cases (c : α) :
    (c = E.esc ∧ E.escapeChar c = [E.esc, E.esc]) ∨
      (c = E.quote ∧ E.escapeChar c = [E.esc, E.quote]) ∨
      (c ≠ E.esc ∧ c ≠ E.quote ∧ E.escapeChar c = [c]) := by
  by_cases hesc : c = E.esc
  · exact .inl ⟨hesc, by rw [escapeChar, if_pos (.inl hesc), hesc]⟩
  · by_cases hquote : c = E.quote
    · exact .inr (.inl ⟨hquote, by rw [escapeChar, if_pos (.inr hquote), hquote]⟩)
    · exact .inr (.inr ⟨hesc, hquote, if_neg (by rintro (h | h) <;> contradiction)⟩)

theorem escape_eq_nil_iff {s : List α} : E.escape s = [] ↔ s = [] := by
  cases s with
  | nil => simp
  | cons c s =>
    have hne : E.escapeChar c ≠ [] := by
      rcases E.escapeChar_cases c with ⟨-, h⟩ | ⟨-, h⟩ | ⟨-, -, h⟩ <;> simp [h]
    simp [hne]

theorem mem_escape {s : List α} {c : α} (h : c ∈ E.escape s) : c = E.esc ∨ c ∈ s := by
  obtain ⟨d, hd, hc⟩ := List.mem_flatMap.mp h
  rcases E.escapeChar_cases d with ⟨rfl, he⟩ | ⟨rfl, he⟩ | ⟨-, -, he⟩
  all_goals
    rw [he] at hc
    simp only [List.mem_cons, List.not_mem_nil, or_false] at hc
  · exact .inl (hc.elim id id)
  · rcases hc with hc | rfl
    · exact .inl hc
    · exact .inr hd
  · exact .inr (hc ▸ hd)

theorem escape_length_mono {s t : List α} (h : s <+: t) :
    (E.escape s).length ≤ (E.escape t).length := by
  obtain ⟨u, rfl⟩ := h
  rw [escape_append, List.length_append]
  omega

theorem scan_quote (rest : List α) : E.scan (E.quote :: rest) = some ([], rest) := by
  cases rest <;> simp [scan]

theorem scan_esc (d : α) (rest : List α) :
    E.scan (E.esc :: d :: rest) = (E.scan rest).map (fun (s, rest) => (d :: s, rest)) := by
  simp [scan, E.quote_ne_esc.symm]

theorem scan_other {c : α} (hquote : c ≠ E.quote) (hesc : c ≠ E.esc) (rest : List α) :
    E.scan (c :: rest) = (E.scan rest).map (fun (s, rest) => (c :: s, rest)) := by
  cases rest <;> simp [scan, hquote, hesc]

theorem scan_escape (s rest : List α) :
    E.scan (E.escape s ++ E.quote :: rest) = some (s, rest) := by
  induction s with
  | nil => exact E.scan_quote rest
  | cons c s ih =>
    rw [escape_cons, List.append_assoc]
    rcases E.escapeChar_cases c with ⟨rfl, he⟩ | ⟨rfl, he⟩ | ⟨hesc, hquote, he⟩
    · rw [he]
      exact (E.scan_esc _ _).trans (congrArg (Option.map _) ih)
    · rw [he]
      exact (E.scan_esc _ _).trans (congrArg (Option.map _) ih)
    · rw [he]
      exact (E.scan_other hquote hesc _).trans (congrArg (Option.map _) ih)

theorem closed_quote (rest : List α) : E.closed (E.quote :: rest) = false := by
  cases rest <;> simp [closed]

theorem closed_esc (d : α) (rest : List α) : E.closed (E.esc :: d :: rest) = E.closed rest := by
  simp [closed, E.quote_ne_esc.symm]

theorem closed_other {c : α} (hquote : c ≠ E.quote) (hesc : c ≠ E.esc) (rest : List α) :
    E.closed (c :: rest) = E.closed rest := by
  cases rest <;> simp [closed, hquote, hesc]

theorem scan_length {s read rest : List α} (h : E.scan s = some (read, rest)) :
    rest.length < s.length := by
  induction s using scan.induct E generalizing read with
  | case1 => simp [scan] at h
  | case2 tail =>
    rw [scan_quote] at h
    cases h
    exact Nat.lt_succ_self _
  | case3 _ => simp [scan, E.quote_ne_esc.symm] at h
  | case4 _ d tail ih =>
    rw [scan_esc] at h
    obtain ⟨⟨read', rest'⟩, htail, heq⟩ := Option.map_eq_some_iff.mp h
    cases heq
    have := ih htail
    simp only [List.length_cons]
    omega
  | case5 c tail hquote hesc ih =>
    rw [scan_other E hquote hesc] at h
    obtain ⟨⟨read', rest'⟩, htail, heq⟩ := Option.map_eq_some_iff.mp h
    cases heq
    have := ih htail
    simp only [List.length_cons]
    omega

theorem exists_map_scan_iff {f : List α → List α} {t rest : List α} :
    (∃ read, (E.scan t).map (fun (s, rest) => (f s, rest)) = some (read, rest)) ↔
      ∃ read, E.scan t = some (read, rest) := by
  constructor
  · rintro ⟨read, h⟩
    obtain ⟨⟨s, rest'⟩, hscan, heq⟩ := Option.map_eq_some_iff.mp h
    cases heq
    exact ⟨s, hscan⟩
  · rintro ⟨read, h⟩
    exact ⟨f read, by rw [h, Option.map_some]⟩

theorem scan_append_quote_iff (s rest : List α) :
    (∃ read, E.scan (s ++ E.quote :: rest) = some (read, rest)) ↔ E.closed s = true := by
  induction s using closed.induct E with
  | case1 => exact iff_of_true ⟨[], E.scan_quote rest⟩ rfl
  | case2 tail =>
    rw [List.cons_append, scan_quote]
    refine iff_of_false ?_ (by simp [closed_quote])
    rintro ⟨read, h⟩
    have hrest := congrArg List.length (congrArg Prod.snd (Option.some.inj h))
    simp only [List.length_append, List.length_cons] at hrest
    omega
  | case3 _ =>
    refine iff_of_false ?_ (by simp [closed, E.quote_ne_esc.symm])
    rintro ⟨read, h⟩
    rw [List.singleton_append, scan_esc] at h
    obtain ⟨⟨s, rest'⟩, hscan, heq⟩ := Option.map_eq_some_iff.mp h
    cases heq
    exact absurd (E.scan_length hscan) (lt_irrefl _)
  | case4 _ d tail ih =>
    rw [List.cons_append, List.cons_append, scan_esc, exists_map_scan_iff, ih, closed_esc]
  | case5 c tail hquote hesc ih =>
    rw [List.cons_append, scan_other E hquote hesc, exists_map_scan_iff, ih,
      closed_other E hquote hesc]

theorem closed_of_forall {s : List α} (h : ∀ c ∈ s, c ≠ E.quote ∧ c ≠ E.esc) :
    E.closed s = true := by
  induction s with
  | nil => rfl
  | cons c s ih =>
    obtain ⟨hquote, hesc⟩ := h c List.mem_cons_self
    rw [closed_other E hquote hesc]
    exact ih (fun d hd => h d (List.mem_cons_of_mem _ hd))

theorem escape_injective : Function.Injective E.escape := by
  intro s t h
  have hs := E.scan_escape s []
  have ht := E.scan_escape t []
  rw [h, ht, Option.some.injEq, Prod.mk.injEq] at hs
  exact hs.1.symm

theorem length_rdropWhile_le (s : List α) :
    (s.rdropWhile (fun c => c = E.esc)).length ≤ s.length :=
  (List.rdropWhile_prefix _ s).length_le

theorem trailing_append_esc (s : List α) : E.trailing (s ++ [E.esc]) = E.trailing s + 1 := by
  have hle := E.length_rdropWhile_le s
  rw [trailing, trailing, List.rdropWhile_concat_pos _ _ _ (by simp), List.length_append,
    List.length_singleton]
  omega

theorem trailing_append_ne (s : List α) {c : α} (h : c ≠ E.esc) : E.trailing (s ++ [c]) = 0 := by
  rw [trailing, List.rdropWhile_concat_neg _ _ _ (by simp [h])]
  omega

theorem trailing_escape (s : List α) : E.trailing (E.escape s) % 2 = 0 := by
  induction s using List.reverseRecOn with
  | nil => rfl
  | append_singleton s c ih =>
    rw [escape_append, escape_singleton]
    rcases E.escapeChar_cases c with ⟨rfl, he⟩ | ⟨rfl, he⟩ | ⟨hesc, -, he⟩
    · rw [he, List.append_cons, trailing_append_esc, trailing_append_esc]
      omega
    · rw [he, List.append_cons, trailing_append_ne E _ E.quote_ne_esc]
    · rw [he, trailing_append_ne E _ hesc]

theorem take_escape (s : List α) (n : ℕ) (h : n < (E.escape s).length) :
    ∃ p c t, s = p ++ c :: t ∧ n < (E.escape (p ++ [c])).length ∧
      ((E.escape s).take n = E.escape p ∨ (E.escape s).take n = E.escape p ++ [E.esc]) ∧
      (E.escape p).length ≤ n := by
  induction s generalizing n with
  | nil => simp at h
  | cons c s ih =>
    by_cases hn : n < (E.escapeChar c).length
    · refine ⟨[], c, s, rfl, by simpa using hn, ?_, by simp⟩
      rw [escape_cons, List.take_append_of_le_length (by omega)]
      rcases E.escapeChar_cases c with ⟨-, he⟩ | ⟨-, he⟩ | ⟨-, -, he⟩
      all_goals
        rw [he] at hn ⊢
        simp only [List.length_cons, List.length_nil] at hn
      · have : n = 0 ∨ n = 1 := by omega
        rcases this with rfl | rfl <;> simp
      · have : n = 0 ∨ n = 1 := by omega
        rcases this with rfl | rfl <;> simp
      · have : n = 0 := by omega
        subst this
        simp
    · rw [escape_cons, List.length_append] at h
      obtain ⟨p, d, t, hs, hlong, htake, hshort⟩ := ih (n - (E.escapeChar c).length) (by omega)
      refine ⟨c :: p, d, t, by rw [hs, List.cons_append], ?_, ?_, ?_⟩
      · rw [List.cons_append, escape_cons, List.length_append]
        omega
      · rw [escape_cons, List.take_append, List.take_of_length_le (by omega), escape_cons]
        rcases htake with htake | htake
        · exact .inl (by rw [htake])
        · exact .inr (by rw [htake, List.append_assoc])
      · rw [escape_cons, List.length_append]
        omega

omit [DecidableEq α] in
theorem prefix_of_lt {p w : List α} {c : α} {t : List α} (hw : w <+: p ++ c :: t)
    (hlt : p.length < w.length) : p ++ [c] <+: w := by
  have hpc : p ++ [c] <+: p ++ c :: t := ⟨t, by simp⟩
  exact List.prefix_of_prefix_length_le hpc hw (by simp; omega)

theorem truncate_escape (s : List α) (n : ℕ) :
    ∃ v, E.LongestFitting n s v ∧ E.truncate (E.escape s) n = E.escape v := by
  by_cases h : (E.escape s).length ≤ n
  · refine ⟨s, ⟨List.prefix_rfl, h, ?_⟩, if_pos h⟩
    intro w hw _
    exact hw.length_le
  · obtain ⟨p, c, t, rfl, hlong, htake, hshort⟩ := E.take_escape s n (by omega)
    refine ⟨p, ⟨⟨c :: t, rfl⟩, hshort, ?_⟩, ?_⟩
    · intro w hw hfits
      by_contra hlt
      have hmono := E.escape_length_mono (prefix_of_lt hw (by omega))
      omega
    · have hpairs := E.trailing_escape p
      rw [truncate, if_neg h]
      rcases htake with htake | htake
      · rw [htake]
        exact if_neg (by omega)
      · rw [htake]
        have hodd : E.trailing (E.escape p ++ [E.esc]) % 2 = 1 := by
          rw [trailing_append_esc]
          omega
        exact (if_pos hodd).trans List.dropLast_concat

theorem LongestFitting.unique {E : Escaping α} {n : ℕ} {s v w : List α}
    (hv : E.LongestFitting n s v) (hw : E.LongestFitting n s w) : v = w := by
  have hlen : v.length = w.length :=
    le_antisymm (hw.longest v hv.isPrefix hv.fits) (hv.longest w hw.isPrefix hw.fits)
  exact (List.prefix_of_prefix_length_le hv.isPrefix hw.isPrefix hlen.le).eq_of_length hlen

theorem truncate_escape_eq {n : ℕ} {s v : List α} (hv : E.LongestFitting n s v) :
    E.truncate (E.escape s) n = E.escape v := by
  obtain ⟨w, hw, h⟩ := E.truncate_escape s n
  rw [h, hw.unique hv]

end Escaping

end GcpMonitor.EscapedText
