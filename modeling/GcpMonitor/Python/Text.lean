import Mathlib.Algebra.Group.Nat.Defs
import Mathlib.Data.List.DropRight

namespace GcpMonitor

abbrev Text := List Char

namespace Text

def replace (s : Text) (old : Char) (new : Text) : Text :=
  s.flatMap (fun c => if c = old then new else [c])

def replaceFrom (old new : Text) : ℕ → Text → Text
  | _, [] => []
  | skip + 1, _ :: s => replaceFrom old new skip s
  | 0, c :: s =>
    if old.isPrefixOf (c :: s) then new ++ replaceFrom old new (old.length - 1) s
    else c :: replaceFrom old new 0 s

/-- `s.replace(old, new)` for a pattern that is not empty -/
def replaceAll (s old new : Text) : Text := replaceFrom old new 0 s

def sliceTo (s : Text) (stop : ℤ) : Text :=
  s.take (if 0 ≤ stop then stop else s.length + stop).toNat

/-- `c.upper()`, as far as it is written in ASCII: no other character has an upper case of ASCII
characters only. -/
def upperChar (c : Char) : Text :=
  match c with
  | 'ß' => ['S', 'S']
  | 'ı' => ['I']
  | 'ſ' => ['S']
  | 'ﬀ' => ['F', 'F']
  | 'ﬁ' => ['F', 'I']
  | 'ﬂ' => ['F', 'L']
  | 'ﬃ' => ['F', 'F', 'I']
  | 'ﬄ' => ['F', 'F', 'L']
  | 'ﬅ' => ['S', 'T']
  | 'ﬆ' => ['S', 'T']
  | c => [c.toUpper]

def upper (s : Text) : Text := s.flatMap upperChar

def isSpace (c : Char) : Bool :=
  let n := c.toNat
  (9 ≤ n && n ≤ 13) || (28 ≤ n && n ≤ 32) || n = 0x85 || n = 0xa0 || n = 0x1680 ||
    (0x2000 ≤ n && n ≤ 0x200a) || n = 0x2028 || n = 0x2029 || n = 0x202f || n = 0x205f || n = 0x3000

def strip (s : Text) : Text := (s.dropWhile isSpace).rdropWhile isSpace

def cutAt (c : Char) : Text → Option (Text × Text)
  | [] => none
  | d :: s =>
    if d = c then some ([], s)
    else (cutAt c s).map (fun (before, after) => (d :: before, after))

def ofInt : ℤ → Text
  | .ofNat n => Nat.toDigits 10 n
  | .negSucc n => '-' :: Nat.toDigits 10 (n + 1)

def digits (s : Text) : Option ℕ :=
  let groups := s.splitOn '_'
  if groups.all (fun group => !group.isEmpty && group.all Char.isDigit) then
    some (Nat.ofDigitChars 10 groups.flatten 0)
  else none

/-- `int(s)`, without the digits of other scripts; none where Python raises `ValueError`. -/
def int (s : Text) : Option ℤ :=
  match strip s with
  | '-' :: s => (digits s).map (fun n => -(n : ℤ))
  | '+' :: s => (digits s).map Int.ofNat
  | s => (digits s).map Int.ofNat

@[simp] theorem replace_append (s t : Text) (old : Char) (new : Text) :
    replace (s ++ t) old new = replace s old new ++ replace t old new :=
  List.flatMap_append

@[simp] theorem replace_singleton (c old : Char) (new : Text) :
    replace [c] old new = if c = old then new else [c] :=
  List.append_nil _

theorem replaceFrom_of_not_mem {s old new : Text} {c : Char} (hold : c ∈ old) (hs : c ∉ s) :
    replaceFrom old new 0 s = s := by
  induction s with
  | nil => rfl
  | cons d s ih =>
    have hprefix : old.isPrefixOf (d :: s) = false := by
      apply Bool.eq_false_iff.mpr
      intro h
      exact hs ((List.isPrefixOf_iff_prefix.mp h).subset hold)
    rw [replaceFrom, hprefix, if_neg Bool.false_ne_true, ih (List.not_mem_of_not_mem_cons hs)]

theorem replaceAll_of_not_mem {s old : Text} (new : Text) {c : Char} (hold : c ∈ old)
    (hs : c ∉ s) : replaceAll s old new = s :=
  replaceFrom_of_not_mem hold hs

theorem replaceFrom_nil_sublist (old : Text) (skip : ℕ) (s : Text) :
    (replaceFrom old [] skip s).Sublist s := by
  induction s generalizing skip with
  | nil => cases skip <;> exact List.Sublist.refl _
  | cons c s ih =>
    cases skip with
    | zero =>
      rw [replaceFrom]
      split_ifs
      · exact (ih _).cons c
      · exact (ih _).cons_cons c
    | succ skip => exact (ih skip).cons c

theorem replaceAll_nil_sublist (s old : Text) : (replaceAll s old []).Sublist s :=
  replaceFrom_nil_sublist old 0 s

theorem replaceFrom_length (old new t s : Text) :
    replaceFrom old new t.length (t ++ s) = replaceAll s old new := by
  induction t with
  | nil => rfl
  | cons c t ih => exact ih

theorem replaceAll_prefix {old : Text} (s new : Text) (hold : old ≠ []) :
    replaceAll (old ++ s) old new = new ++ replaceAll s old new := by
  obtain ⟨c, t, rfl⟩ := List.exists_cons_of_ne_nil hold
  have hprefix : (c :: t).isPrefixOf (c :: t ++ s) = true :=
    List.isPrefixOf_iff_prefix.mpr (List.prefix_append _ _)
  rw [List.cons_append] at hprefix
  rw [replaceAll, List.cons_append, replaceFrom, if_pos hprefix]
  congr 1
  exact replaceFrom_length (c :: t) new t s

theorem replaceAll_append_of_forall {s t old : Text} (new : Text)
    (h : ∀ u w, s ++ t = u ++ old ++ w → s.length ≤ u.length) :
    replaceAll (s ++ t) old new = s ++ replaceAll t old new := by
  induction s with
  | nil => rfl
  | cons c s ih =>
    have hprefix : old.isPrefixOf (c :: (s ++ t)) = false := by
      apply Bool.eq_false_iff.mpr
      intro hprefix
      obtain ⟨w, hw⟩ := List.isPrefixOf_iff_prefix.mp hprefix
      have := h [] w hw.symm
      simp at this
    rw [List.cons_append, replaceAll, replaceFrom, hprefix, if_neg Bool.false_ne_true,
      List.cons_append]
    congr 1
    apply ih
    intro u w hu
    have := h (c :: u) w (by rw [List.cons_append, hu]; rfl)
    simpa using this

theorem replaceAll_chunks {old new : Text} (hold : old ≠ []) (chunks : List (Option Text))
    (h : ∀ u w, chunks.flatMap (fun chunk => chunk.getD old) = u ++ old ++ w →
      ∃ before after, chunks = before ++ none :: after ∧
        before.flatMap (fun chunk => chunk.getD old) = u) :
    replaceAll (chunks.flatMap (fun chunk => chunk.getD old)) old new =
      chunks.flatMap (fun chunk => chunk.getD new) := by
  induction chunks with
  | nil => rfl
  | cons chunk chunks ih =>
    have htail : ∀ u w, chunks.flatMap (fun chunk => chunk.getD old) = u ++ old ++ w →
        ∃ before after, chunks = before ++ none :: after ∧
          before.flatMap (fun chunk => chunk.getD old) = u := by
      intro u w hu
      obtain ⟨before, after, hchunks, hbefore⟩ := h (chunk.getD old ++ u) w (by
        rw [List.flatMap_cons, hu]
        simp only [List.append_assoc])
      cases before with
      | nil =>
        obtain ⟨rfl, -⟩ := List.cons.inj hchunks
        exact absurd (List.append_eq_nil_iff.mp hbefore.symm).1 hold
      | cons first before =>
        obtain ⟨rfl, hrest⟩ := List.cons.inj hchunks
        exact ⟨before, after, hrest, List.append_cancel_left hbefore⟩
    cases chunk with
    | none =>
      rw [List.flatMap_cons, List.flatMap_cons, Option.getD_none, Option.getD_none,
        replaceAll_prefix _ _ hold, ih htail]
    | some s =>
      rw [List.flatMap_cons, List.flatMap_cons, Option.getD_some, Option.getD_some,
        replaceAll_append_of_forall, ih htail]
      intro u w hu
      obtain ⟨before, after, hchunks, rfl⟩ := h u w hu
      cases before with
      | nil => cases (List.cons.inj hchunks).1
      | cons first before =>
        obtain ⟨rfl, -⟩ := List.cons.inj hchunks
        rw [List.flatMap_cons, List.length_append]
        exact Nat.le_add_right _ _

theorem cutAt_eq_some_iff {c : Char} {s before after : Text} :
    cutAt c s = some (before, after) ↔ s = before ++ c :: after ∧ c ∉ before := by
  induction s generalizing before with
  | nil => simp [cutAt]
  | cons d s ih =>
    rw [cutAt]
    by_cases hd : d = c
    · subst hd
      rw [if_pos rfl, Option.some.injEq, Prod.mk.injEq]
      constructor
      · rintro ⟨rfl, rfl⟩
        exact ⟨rfl, List.not_mem_nil⟩
      · rintro ⟨hs, hnot⟩
        cases before with
        | nil => exact ⟨rfl, (List.cons.inj hs).2⟩
        | cons e before => exact absurd ((List.cons.inj hs).1 ▸ List.mem_cons_self) hnot
    · rw [if_neg hd]
      cases before with
      | nil =>
        constructor
        · intro h
          obtain ⟨⟨before, after⟩, -, h⟩ := Option.map_eq_some_iff.mp h
          cases h
        · rintro ⟨hs, -⟩
          exact absurd (List.cons.inj hs).1 hd
      | cons e before =>
        rw [List.cons_append, List.cons.injEq, List.mem_cons, not_or, Option.map_eq_some_iff]
        constructor
        · rintro ⟨⟨before', after'⟩, hcut, heq⟩
          cases heq
          exact ⟨⟨rfl, (ih.mp hcut).1⟩, Ne.symm hd, (ih.mp hcut).2⟩
        · rintro ⟨⟨rfl, hs⟩, -, hnot⟩
          exact ⟨(before, after), ih.mpr ⟨hs, hnot⟩, rfl⟩

theorem splitOn_pair {s t : Text} {c : Char} (hs : c ∉ s) (ht : c ∉ t) :
    (s ++ c :: t).splitOn c = [s, t] := by
  have hmem : ∀ l ∈ [s, t], c ∉ l := by simp [hs, ht]
  simpa using List.splitOn_intercalate c hmem (List.cons_ne_nil _ _)

theorem strip_eq_self {s : Text} (h : ∀ c ∈ s, isSpace c = false) : strip s = s := by
  have hleft : s.dropWhile isSpace = s := by
    cases s with
    | nil => rfl
    | cons c s => exact List.dropWhile_cons_of_neg (by simp [h c List.mem_cons_self])
  rw [strip, hleft, List.rdropWhile_eq_self_iff]
  intro hne
  simp [h _ (List.getLast_mem hne)]

theorem isDigit_of_mem_toDigits {n : ℕ} {c : Char} (h : c ∈ Nat.toDigits 10 n) :
    c.isDigit = true :=
  Nat.isDigit_of_mem_toDigits (by decide) (by decide) h

theorem isSpace_of_isDigit {c : Char} (h : c.isDigit = true) : isSpace c = false := by
  have hrange : 48 ≤ c.toNat ∧ c.toNat ≤ 57 := by
    simpa [Char.isDigit, UInt32.le_iff_toNat_le] using h
  simp only [isSpace, Bool.or_eq_false_iff, Bool.and_eq_false_iff, decide_eq_false_iff_not]
  omega

theorem digits_toDigits (n : ℕ) : digits (Nat.toDigits 10 n) = some n := by
  have hsplit : (Nat.toDigits 10 n).splitOn '_' = [Nat.toDigits 10 n] :=
    List.splitOn_eq_singleton Nat.underscore_not_in_toDigits
  have hall : (Nat.toDigits 10 n).all Char.isDigit = true := by
    apply List.all_eq_true.mpr
    intro c hc
    exact isDigit_of_mem_toDigits hc
  have hdigits : [Nat.toDigits 10 n].all
      (fun group => !group.isEmpty && group.all Char.isDigit) = true := by
    simp [hall, Nat.toDigits_ne_nil]
  rw [digits, hsplit]
  simp only [if_pos hdigits, List.flatten_cons, List.flatten_nil, List.append_nil,
    Nat.ofDigitChars_ten_toDigits]

theorem mem_ofInt {n : ℤ} {c : Char} (h : c ∈ ofInt n) : c = '-' ∨ c.isDigit = true := by
  cases n with
  | ofNat n => exact .inr (isDigit_of_mem_toDigits h)
  | negSucc n =>
    rcases List.mem_cons.mp h with rfl | h
    · exact .inl rfl
    · exact .inr (isDigit_of_mem_toDigits h)

theorem not_mem_ofInt {n : ℤ} {c : Char} (hminus : c ≠ '-') (hdigit : c.isDigit = false) :
    c ∉ ofInt n := by
  intro h
  rcases mem_ofInt h with rfl | h
  · exact hminus rfl
  · rw [hdigit] at h
    contradiction

theorem strip_ofInt (n : ℤ) : strip (ofInt n) = ofInt n := by
  apply strip_eq_self
  intro c hc
  rcases mem_ofInt hc with rfl | hdigit
  · rfl
  · exact isSpace_of_isDigit hdigit

theorem int_ofInt (n : ℤ) : int (ofInt n) = some n := by
  rw [int, strip_ofInt]
  cases n with
  | ofNat n =>
    change (match Nat.toDigits 10 n with
      | '-' :: s => (digits s).map (fun n => -(n : ℤ))
      | '+' :: s => (digits s).map Int.ofNat
      | s => (digits s).map Int.ofNat) = _
    split
    · next s heq =>
      have := isDigit_of_mem_toDigits (n := n) (c := '-') (heq ▸ List.mem_cons_self)
      exact absurd this (by decide)
    · next s heq =>
      have := isDigit_of_mem_toDigits (n := n) (c := '+') (heq ▸ List.mem_cons_self)
      exact absurd this (by decide)
    · rw [digits_toDigits]
      rfl
  | negSucc n =>
    change (digits (Nat.toDigits 10 (n + 1))).map (fun n => -(n : ℤ)) = _
    rw [digits_toDigits]
    rfl

theorem int_of_digits {s : Text} (hne : s ≠ []) (hdigit : ∀ c ∈ s, c.isDigit = true) :
    int s = some ((Nat.ofDigitChars 10 s 0 : ℕ) : ℤ) := by
  have hnot : ∀ c, c.isDigit = false → c ∉ s := by
    intro c hc hmem
    rw [hdigit c hmem] at hc
    contradiction
  have hstrip : strip s = s := by
    apply strip_eq_self
    intro c hc
    exact isSpace_of_isDigit (hdigit c hc)
  have hsplit : s.splitOn '_' = [s] := List.splitOn_eq_singleton (hnot '_' (by decide))
  have hdigits : digits s = some (Nat.ofDigitChars 10 s 0) := by
    have hall : [s].all (fun group => !group.isEmpty && group.all Char.isDigit) = true := by
      simpa [hne] using hdigit
    rw [digits, hsplit]
    simp only [if_pos hall, List.flatten_cons, List.flatten_nil, List.append_nil]
  obtain ⟨c, t, rfl⟩ := List.exists_cons_of_ne_nil hne
  have hminus : c ≠ '-' := by
    rintro rfl
    exact hnot '-' (by decide) List.mem_cons_self
  have hplus : c ≠ '+' := by
    rintro rfl
    exact hnot '+' (by decide) List.mem_cons_self
  rw [int, hstrip]
  split
  · next heq => exact absurd (List.cons.inj heq).1 hminus
  · next heq => exact absurd (List.cons.inj heq).1 hplus
  · rw [hdigits]
    rfl

theorem mem_of_mem_intercalate {c sep : Char} {groups : List Text}
    (h : c ∈ [sep].intercalate groups) : c = sep ∨ ∃ group ∈ groups, c ∈ group := by
  induction groups with
  | nil => exact absurd h List.not_mem_nil
  | cons group rest ih =>
    cases rest with
    | nil =>
      rw [List.intercalate_singleton] at h
      exact .inr ⟨group, List.mem_cons_self, h⟩
    | cons next rest =>
      rw [List.intercalate_cons_cons, List.append_assoc, List.mem_append, List.mem_append,
        List.mem_singleton] at h
      rcases h with h | h | h
      · exact .inr ⟨group, List.mem_cons_self, h⟩
      · exact .inl h
      · rcases ih h with h | ⟨other, hother, h⟩
        · exact .inl h
        · exact .inr ⟨other, List.mem_cons_of_mem _ hother, h⟩

theorem mem_of_digits {s : Text} {n : ℕ} {c : Char} (h : digits s = some n) (hc : c ∈ s) :
    c = '_' ∨ c.isDigit = true := by
  rw [digits] at h
  split_ifs at h with hgroups
  have hs : ['_'].intercalate (s.splitOn '_') = s := List.intercalate_splitOn '_'
  rw [← hs] at hc
  rcases mem_of_mem_intercalate hc with rfl | ⟨group, hgroup, hc⟩
  · exact .inl rfl
  · have hdigit := List.all_eq_true.mp hgroups group hgroup
    rw [Bool.and_eq_true] at hdigit
    exact .inr (List.all_eq_true.mp hdigit.2 c hc)

theorem mul_pow_le_ofDigitChars (s : Text) (n : ℕ) :
    n * 10 ^ s.length ≤ Nat.ofDigitChars 10 s n := by
  induction s generalizing n with
  | nil => simp
  | cons c s ih =>
    rw [Nat.ofDigitChars_cons, List.length_cons, pow_succ']
    refine Nat.le_trans ?_ (ih _)
    rw [← mul_assoc, mul_comm n 10]
    exact Nat.mul_le_mul_right _ (Nat.le_add_right _ _)

theorem strip_replicate_ofInt (n : ℤ) (k : ℕ) :
    strip (List.replicate k (ofInt n)).flatten = (List.replicate k (ofInt n)).flatten := by
  apply strip_eq_self
  intro c hc
  obtain ⟨t, ht, hc⟩ := List.mem_flatten.mp hc
  rw [List.eq_of_mem_replicate ht] at hc
  rcases mem_ofInt hc with rfl | hdigit
  · rfl
  · exact isSpace_of_isDigit hdigit

theorem digits_eq_none {s : Text} {c : Char} (hc : c ∈ s) (hunderscore : c ≠ '_')
    (hdigit : c.isDigit = false) : digits s = none := by
  apply Option.eq_none_iff_forall_ne_some.mpr
  intro n hn
  rcases mem_of_digits hn hc with h | h
  · exact hunderscore h
  · rw [hdigit] at h
    contradiction

theorem mem_dropWhile_of_mem {s : Text} {c : Char} {p : Char → Bool} (hc : c ∈ s)
    (hp : p c = false) : c ∈ s.dropWhile p := by
  rw [← List.takeWhile_append_dropWhile (p := p) (l := s), List.mem_append] at hc
  rcases hc with hc | hc
  · have := List.mem_takeWhile_imp hc
    rw [hp] at this
    contradiction
  · exact hc

theorem mem_strip_of_mem {s : Text} {c : Char} (hc : c ∈ s) (hspace : isSpace c = false) :
    c ∈ strip s := by
  rw [strip, List.rdropWhile, List.mem_reverse]
  apply mem_dropWhile_of_mem _ hspace
  rw [List.mem_reverse]
  exact mem_dropWhile_of_mem hc hspace

theorem int_eq_none {s : Text} {c : Char} (hc : c ∈ s) (hchar : c = '.' ∨ c = '/') :
    int s = none := by
  have hspace : isSpace c = false := by rcases hchar with rfl | rfl <;> decide
  have hdigit : c.isDigit = false := by rcases hchar with rfl | rfl <;> decide
  have hne : c ≠ '_' ∧ c ≠ '-' ∧ c ≠ '+' := by rcases hchar with rfl | rfl <;> decide
  have hstrip := mem_strip_of_mem hc hspace
  rw [int]
  split
  · next t ht =>
    rw [ht, List.mem_cons] at hstrip
    rw [digits_eq_none (hstrip.resolve_left hne.2.1) hne.1 hdigit]
    rfl
  · next t ht =>
    rw [ht, List.mem_cons] at hstrip
    rw [digits_eq_none (hstrip.resolve_left hne.2.2) hne.1 hdigit]
    rfl
  · rw [digits_eq_none hstrip hne.1 hdigit]
    rfl

theorem lt_ofDigitChars_replicate {n : ℕ} (hn : 0 < n) (j : ℕ) :
    (j + 2) * n < Nat.ofDigitChars 10 (List.replicate (j + 2) (Nat.toDigits 10 n)).flatten 0 := by
  have hvalue : Nat.ofDigitChars 10 (List.replicate (j + 2) (Nat.toDigits 10 n)).flatten 0 =
      Nat.ofDigitChars 10 (List.replicate (j + 1) (Nat.toDigits 10 n)).flatten n := by
    rw [List.replicate_succ, List.flatten_cons, Nat.ofDigitChars_append,
      Nat.ofDigitChars_ten_toDigits]
  have hlength : j + 1 ≤ (List.replicate (j + 1) (Nat.toDigits 10 n)).flatten.length := by
    have hpos : 0 < (Nat.toDigits 10 n).length := Nat.length_toDigits_pos
    simpa using Nat.le_mul_of_pos_right (j + 1) hpos
  have hpow : j + 2 < 10 ^ (j + 1) := by
    have hten : 2 ^ (j + 1) < 10 ^ (j + 1) := Nat.pow_lt_pow_left (by omega) (by omega)
    have htwo : j + 1 < 2 ^ (j + 1) := Nat.lt_two_pow_self
    omega
  calc (j + 2) * n < 10 ^ (j + 1) * n := Nat.mul_lt_mul_of_pos_right hpow hn
    _ ≤ 10 ^ (List.replicate (j + 1) (Nat.toDigits 10 n)).flatten.length * n :=
      Nat.mul_le_mul_right n (Nat.pow_le_pow_right (by omega) hlength)
    _ ≤ Nat.ofDigitChars 10 (List.replicate (j + 1) (Nat.toDigits 10 n)).flatten n := by
      rw [Nat.mul_comm]
      exact mul_pow_le_ofDigitChars _ n
    _ = _ := hvalue.symm

theorem int_replicate_ofInt {n : ℤ} (hn : n ≠ 0) {k : ℕ} (hk : 2 ≤ k) :
    int (List.replicate k (ofInt n)).flatten ≠ some (k * n) := by
  obtain ⟨j, rfl⟩ := Nat.exists_eq_add_of_le' hk
  cases n with
  | ofNat n =>
    have hdigit : ∀ c ∈ (List.replicate (j + 2) (ofInt n)).flatten, c.isDigit = true := by
      intro c hc
      obtain ⟨t, ht, hc⟩ := List.mem_flatten.mp hc
      rw [List.eq_of_mem_replicate ht] at hc
      exact isDigit_of_mem_toDigits hc
    have hne : (List.replicate (j + 2) (ofInt n)).flatten ≠ [] := by
      rw [List.replicate_succ, List.flatten_cons]
      exact List.append_ne_nil_of_left_ne_nil Nat.toDigits_ne_nil _
    have hlt := lt_ofDigitChars_replicate (Nat.pos_of_ne_zero (by simpa using hn)) j
    rw [Int.ofNat_eq_natCast, int_of_digits hne hdigit, ne_eq, Option.some.injEq]
    exact_mod_cast hlt.ne'
  | negSucc n =>
    -- the sign of the second number stands among the digits of the first
    have hdigits : digits (Nat.toDigits 10 (n + 1) ++
        (List.replicate (j + 1) (ofInt (.negSucc n))).flatten) = none :=
      digits_eq_none (c := '-') (by simp [ofInt]) (by decide) (by decide)
    rw [int, strip_replicate_ofInt, List.replicate_succ, List.flatten_cons]
    change (digits (Nat.toDigits 10 (n + 1) ++
      (List.replicate (j + 1) (ofInt (.negSucc n))).flatten)).map (fun m => -(m : ℤ)) ≠ _
    rw [hdigits]
    exact Option.some_ne_none _ ∘ Eq.symm

theorem replace_intercalate {c : Char} {parts : List Text} (h : ∀ part ∈ parts, c ∉ part) :
    replace ([c].intercalate parts) c [] = parts.flatten := by
  have hpart : ∀ part : Text, c ∉ part → replace part c [] = part := by
    intro part hc
    have hchar : ∀ d ∈ part, (if d = c then ([] : Text) else [d]) = [d] := by
      intro d hd
      rw [if_neg]
      rintro rfl
      exact hc hd
    rw [replace, List.flatMap_congr hchar]
    exact List.flatMap_singleton' part
  induction parts with
  | nil => rfl
  | cons part rest ih =>
    have hrest := ih (fun other hother => h other (List.mem_cons_of_mem _ hother))
    cases rest with
    | nil =>
      simpa using hpart part (h part List.mem_cons_self)
    | cons next rest =>
      rw [List.intercalate_cons_cons, replace_append, replace_append, hrest,
        hpart part (h part List.mem_cons_self), replace_singleton, if_pos rfl]
      simp

end Text

end GcpMonitor
