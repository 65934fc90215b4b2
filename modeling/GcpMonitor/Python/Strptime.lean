import GcpMonitor.Python.Datetime

namespace GcpMonitor.Python

/-- The zeros of Unicode 15.0; the other digits of a script follow its zero. -/
def digitZeros : List ℕ :=
  [0x30, 0x660, 0x6f0, 0x7c0, 0x966, 0x9e6, 0xa66, 0xae6, 0xb66, 0xbe6, 0xc66, 0xce6, 0xd66, 0xde6,
    0xe50, 0xed0, 0xf20, 0x1040, 0x1090, 0x17e0, 0x1810, 0x1946, 0x19d0, 0x1a80, 0x1a90, 0x1b50,
    0x1bb0, 0x1c40, 0x1c50, 0xa620, 0xa8d0, 0xa900, 0xa9d0, 0xa9f0, 0xaa50, 0xabf0, 0xff10, 0x104a0,
    0x10d30, 0x11066, 0x110f0, 0x11136, 0x111d0, 0x112f0, 0x11450, 0x114d0, 0x11650, 0x116c0,
    0x11730, 0x118e0, 0x11950, 0x11c50, 0x11d50, 0x11da0, 0x11f50, 0x16a60, 0x16ac0, 0x16b50,
    0x1d7ce, 0x1d7d8, 0x1d7e2, 0x1d7ec, 0x1d7f6, 0x1e140, 0x1e2f0, 0x1e4f0, 0x1e950, 0x1fbf0]

def decimalDigit (c : Char) : Option ℕ :=
  digitZeros.findSome? (fun first =>
    if first ≤ c.toNat ∧ c.toNat ≤ first + 9 then some (c.toNat - first) else none)

/-- What stands for one character in the pattern of a directive: `[low-high]`, `\d` or a blank. -/
inductive DigitClass where
  | range (low high : ℕ)
  | any
  | blank
  deriving DecidableEq

def DigitClass.digit : DigitClass → Char → Option ℕ
  | range low high, c =>
    if c.isDigit ∧ low ≤ c.toNat - 48 ∧ c.toNat - 48 ≤ high then some (c.toNat - 48) else none
  | any, c => decimalDigit c
  | blank, c => if c = ' ' then some 0 else none

def matchDigits (n : ℕ) : List DigitClass → Text → Option (ℕ × Text)
  | [], s => some (n, s)
  | _ :: _, [] => none
  | cls :: classes, c :: s =>
    match cls.digit c with
    | some digit => matchDigits (10 * n + digit) classes s
    | none => none

inductive Directive where
  | year
  | month
  | day
  | hour
  | minute
  | second
  | microsecond
  deriving DecidableEq

inductive FormatItem where
  | literal (c : Char)
  | directive (d : Directive)
  deriving DecidableEq

def Directive.ofChar : Char → Option Directive
  | 'Y' => some .year
  | 'm' => some .month
  | 'd' => some .day
  | 'H' => some .hour
  | 'M' => some .minute
  | 'S' => some .second
  | 'f' => some .microsecond
  | _ => none

/-- A format without white space; none for a directive that is not modelled. -/
def formatItems : Text → Option (List FormatItem)
  | '%' :: c :: s =>
    match Directive.ofChar c, formatItems s with
    | some d, some items => some (.directive d :: items)
    | _, _ => none
  | c :: s => (formatItems s).map (fun items => .literal c :: items)
  | [] => some []

namespace Directive

/-- The alternatives of the directive's pattern, in the order in which they are tried. -/
def pattern : Directive → List (List DigitClass)
  | year => [[.any, .any, .any, .any]]
  | month => [[.range 1 1, .range 0 2], [.range 0 0, .range 1 9], [.range 1 9]]
  | day =>
    [[.range 3 3, .range 0 1], [.range 1 2, .any], [.range 0 0, .range 1 9], [.range 1 9],
      [.blank, .range 1 9]]
  | hour => [[.range 2 2, .range 0 3], [.range 0 1, .any], [.any]]
  | minute => [[.range 0 5, .any], [.any]]
  | second => [[.range 6 6, .range 0 1], [.range 0 5, .any], [.any]]
  | microsecond => [6, 5, 4, 3, 2, 1].map (fun width => List.replicate width (.range 0 9))

def value (d : Directive) (width n : ℕ) : ℕ :=
  match d with
  | microsecond => n * 10 ^ (6 - width)
  | _ => n

def candidates (d : Directive) (s : Text) : List (ℕ × Text) :=
  d.pattern.filterMap (fun classes =>
    (matchDigits 0 classes s).map (fun (n, rest) => (d.value classes.length n, rest)))

end Directive

def matchFormat : List FormatItem → Text → Option (List (Directive × ℕ) × Text)
  | [], s => some ([], s)
  | .literal c :: items, d :: s => if c.toLower = d.toLower then matchFormat items s else none
  | .literal _ :: _, [] => none
  | .directive d :: items, s =>
    (d.candidates s).findSome? (fun (n, s) =>
      (matchFormat items s).map (fun (groups, s) => ((d, n) :: groups, s)))

def strptime (s : Text) (format : String) : Except PyError Datetime :=
  match (formatItems format.toList).bind (fun items => matchFormat items s) with
  | some (groups, []) =>
    let field (d : Directive) (default : ℕ) := (groups.lookup d).getD default
    Datetime.init (field .year 1900) (field .month 1) (field .day 1) (field .hour 0)
      (field .minute 0) (field .second 0) (field .microsecond 0)
  | _ => .error (.valueError none)

def padded : ℕ → ℕ → Text
  | 0, _ => []
  | width + 1, n => padded width (n / 10) ++ [(n % 10).digitChar]

theorem length_padded (width n : ℕ) : (padded width n).length = width := by
  induction width generalizing n with
  | zero => rfl
  | succ width ih => rw [padded, List.length_append, ih, List.length_singleton]

theorem isDigit_of_mem_padded {width n : ℕ} {c : Char} (h : c ∈ padded width n) :
    c.isDigit = true := by
  induction width generalizing n with
  | zero => exact absurd h List.not_mem_nil
  | succ width ih =>
    rw [padded, List.mem_append, List.mem_singleton] at h
    rcases h with h | rfl
    · exact ih h
    · rw [Nat.isDigit_digitChar]
      exact decide_eq_true (Nat.mod_lt n (by omega))

theorem ofDigitChars_padded {width n : ℕ} (h : n < 10 ^ width) :
    Nat.ofDigitChars 10 (padded width n) 0 = n := by
  induction width generalizing n with
  | zero =>
    rw [pow_zero, Nat.lt_one_iff] at h
    rw [h]
    rfl
  | succ width ih =>
    have hdiv : n / 10 < 10 ^ width := by
      rw [Nat.div_lt_iff_lt_mul (by omega), ← pow_succ]
      exact h
    rw [padded, Nat.ofDigitChars_append, ih hdiv,
      Nat.ofDigitChars_cons_digitChar_of_lt_ten (Nat.mod_lt n (by omega)), Nat.ofDigitChars_nil]
    omega

theorem decimalDigit_of_isDigit {c : Char} (h : c.isDigit = true) :
    decimalDigit c = some (c.toNat - 48) := by
  have hc : 48 ≤ c.toNat ∧ c.toNat ≤ 48 + 9 := Char.isDigit_iff_toNat.mp h
  rw [decimalDigit, digitZeros, List.findSome?_cons, if_pos hc]

def DigitClass.IsFull (cls : DigitClass) : Prop := cls = .any ∨ cls = .range 0 9

theorem DigitClass.IsFull.digit_eq {cls : DigitClass} (hcls : cls.IsFull) {c : Char}
    (h : c.isDigit = true) : cls.digit c = some (c.toNat - 48) := by
  rcases hcls with rfl | rfl
  · exact decimalDigit_of_isDigit h
  · have hle : c.toNat ≤ 57 := (Char.isDigit_iff_toNat.mp h).2
    exact if_pos ⟨h, Nat.zero_le _, by omega⟩

theorem matchDigits_append (n : ℕ) (classes others : List DigitClass) (s : Text) :
    matchDigits n (classes ++ others) s =
      (matchDigits n classes s).bind (fun result => matchDigits result.1 others result.2) := by
  induction classes generalizing n s with
  | nil => rfl
  | cons cls classes ih =>
    cases s with
    | nil => rfl
    | cons c s =>
      rw [List.cons_append, matchDigits, matchDigits]
      cases cls.digit c with
      | none => rfl
      | some digit => exact ih _ s

/-- What follows the text that a pattern reads makes no difference. -/
theorem matchDigits_of_length (n : ℕ) {classes : List DigitClass} {t : Text}
    (h : classes.length ≤ t.length) (s : Text) :
    matchDigits n classes (t ++ s) =
      (matchDigits n classes t).map (fun result => (result.1, result.2 ++ s)) := by
  induction classes generalizing n t with
  | nil => rfl
  | cons cls classes ih =>
    cases t with
    | nil => exact absurd h (by simp)
    | cons c t =>
      rw [List.cons_append, matchDigits, matchDigits]
      cases cls.digit c with
      | none => rfl
      | some digit => exact ih _ (Nat.le_of_succ_le_succ h)

theorem matchDigits_digits {classes : List DigitClass} (hclasses : ∀ cls ∈ classes, cls.IsFull)
    {digits : Text} (hdigits : ∀ c ∈ digits, c.isDigit = true)
    (hlength : digits.length = classes.length) (n : ℕ) (s : Text) :
    matchDigits n classes (digits ++ s) = some (Nat.ofDigitChars 10 digits n, s) := by
  induction classes generalizing digits n with
  | nil =>
    rw [List.length_eq_zero_iff.mp hlength]
    rfl
  | cons cls classes ih =>
    cases digits with
    | nil => cases hlength
    | cons c digits =>
      obtain ⟨hcls, hclasses⟩ := List.forall_mem_cons.mp hclasses
      obtain ⟨hc, hdigits⟩ := List.forall_mem_cons.mp hdigits
      rw [List.cons_append, matchDigits, hcls.digit_eq hc]
      exact ih hclasses hdigits (Nat.succ.inj hlength) _

theorem toLower_of_isDigit {c : Char} (h : c.isDigit = true) : c.toLower = c := by
  rw [Char.isDigit_iff_toNat] at h
  refine dif_neg ?_
  rintro ⟨hupper, -⟩
  have hle : 'A'.toNat ≤ c.toNat := UInt32.le_iff_toNat_le.mp hupper
  exact absurd (hle.trans h.2) (by decide)

theorem isDigit_digits_padded (n : ℕ) :
    (n / 10 % 10).digitChar.isDigit = true ∧ (n % 10).digitChar.isDigit = true := by
  rw [Nat.isDigit_digitChar, Nat.isDigit_digitChar]
  exact ⟨decide_eq_true (Nat.mod_lt _ (by omega)), decide_eq_true (Nat.mod_lt _ (by omega))⟩

def Directive.IsPair (d : Directive) : Prop := d ≠ .year ∧ d ≠ .microsecond

def Directive.low : Directive → ℕ
  | month => 1
  | day => 1
  | _ => 0

def Directive.high : Directive → ℕ
  | year => 9999
  | month => 12
  | day => 31
  | hour => 23
  | minute => 59
  | second => 61
  | microsecond => 999999

theorem candidates_append {d : Directive} (hd : d.IsPair) {t : Text} (ht : t.length = 2)
    (s : Text) :
    d.candidates (t ++ s) = (d.candidates t).map (fun result => (result.1, result.2 ++ s)) := by
  have hpattern : ∀ classes ∈ d.pattern, classes.length ≤ 2 := by
    cases d with
    | year => exact absurd rfl hd.1
    | microsecond => exact absurd rfl hd.2
    | _ => decide
  rw [Directive.candidates, Directive.candidates, List.map_filterMap]
  apply List.filterMap_congr
  intro classes hclasses
  rw [matchDigits_of_length 0 (ht ▸ hpattern classes hclasses), Option.map_map, Option.map_map]
  rfl

/-- The number of two digits is what the pattern finds first; any other match leaves its last
digit. -/
theorem candidates_pair : ∀ d ∈ [Directive.month, .day, .hour, .minute, .second], ∀ n < 62,
    d.low ≤ n ∧ n ≤ d.high →
      (d.candidates (padded 2 n)).head? = some (n, []) ∧
        (d.candidates (padded 2 n)).tail.all
          (fun other => other.2 = [(n % 10).digitChar]) = true := by
  decide +kernel

theorem candidates_padded {d : Directive} (hd : d.IsPair) {n : ℕ} (hlow : d.low ≤ n)
    (hhigh : n ≤ d.high) (s : Text) :
    ∃ others, d.candidates (padded 2 n ++ s) = (n, s) :: others ∧
      ∀ other ∈ others, other.2 = (n % 10).digitChar :: s := by
  have hmem : d ∈ [Directive.month, .day, .hour, .minute, .second] ∧ d.high ≤ 61 := by
    cases d with
    | year => exact absurd rfl hd.1
    | microsecond => exact absurd rfl hd.2
    | _ => decide
  obtain ⟨hfirst, hothers⟩ := candidates_pair d hmem.1 n (by omega) ⟨hlow, hhigh⟩
  obtain ⟨others, hcandidates⟩ := List.head?_eq_some_iff.mp hfirst
  rw [hcandidates, List.tail_cons, List.all_eq_true] at hothers
  rw [candidates_append hd (length_padded 2 n), hcandidates, List.map_cons, List.nil_append]
  refine ⟨_, rfl, ?_⟩
  intro other hother
  obtain ⟨result, hresult, rfl⟩ := List.mem_map.mp hother
  rw [of_decide_eq_true (hothers result hresult), List.singleton_append]

theorem matchFormat_digit {c d : Char} (hc : c.toLower.isDigit = false) (hd : d.isDigit = true)
    (items : List FormatItem) (s : Text) : matchFormat (.literal c :: items) (d :: s) = none := by
  rw [matchFormat, if_neg]
  intro h
  rw [h, toLower_of_isDigit hd, hd] at hc
  contradiction

theorem matchFormat_padded {d : Directive} (hd : d.IsPair) {n : ℕ} (hlow : d.low ≤ n)
    (hhigh : n ≤ d.high) {c : Char} (hc : c.toLower.isDigit = false)
    (items : List FormatItem) (s : Text) :
    matchFormat (.directive d :: .literal c :: items) (padded 2 n ++ s) =
      (matchFormat (.literal c :: items) s).map (fun (groups, s) => ((d, n) :: groups, s)) := by
  obtain ⟨others, hcandidates, hothers⟩ := candidates_padded hd hlow hhigh s
  rw [matchFormat, hcandidates, List.findSome?_cons]
  cases hfirst : matchFormat (.literal c :: items) s with
  | some result => simp only [hfirst, Option.map_some]
  | none =>
    simp only [hfirst, Option.map_none]
    rw [List.findSome?_eq_none_iff]
    intro other hother
    rw [hothers other hother, matchFormat_digit hc (isDigit_digits_padded n).2, Option.map_none]

theorem matchFormat_year {n : ℕ} (hn : n < 10 ^ 4) (items : List FormatItem) (s : Text) :
    matchFormat (.directive .year :: items) (padded 4 n ++ s) =
      (matchFormat items s).map (fun (groups, s) => ((.year, n) :: groups, s)) := by
  have hcandidates : Directive.year.candidates (padded 4 n ++ s) = [(n, s)] := by
    rw [Directive.candidates, Directive.pattern, List.filterMap_cons,
      matchDigits_digits (by simp [DigitClass.IsFull]) (fun _ => isDigit_of_mem_padded)
        (length_padded 4 n), ofDigitChars_padded hn]
    rfl
  rw [matchFormat, hcandidates, List.findSome?_singleton]

theorem matchFormat_literal (c : Char) (items : List FormatItem) (s : Text) :
    matchFormat (.literal c :: items) (c :: s) = matchFormat items s :=
  if_pos rfl

theorem ofDigitChars_lt {digits : Text} (hdigits : ∀ c ∈ digits, c.isDigit = true) :
    Nat.ofDigitChars 10 digits 0 < 10 ^ digits.length := by
  induction digits using List.reverseRecOn with
  | nil => simp [Nat.ofDigitChars_nil]
  | append_singleton digits c ih =>
    have hrest := ih (fun d hd => hdigits d (List.mem_append_left _ hd))
    have hc := Char.isDigit_iff_toNat.mp (hdigits c (by simp))
    have h9 : '9'.toNat = 57 := rfl
    have h0 : '0'.toNat = 48 := rfl
    rw [Nat.ofDigitChars_append, Nat.ofDigitChars_cons, Nat.ofDigitChars_nil, List.length_append,
      List.length_singleton, pow_succ]
    omega

theorem findSome?_filterMap {α β γ : Type} (f : α → Option β) (g : β → Option γ) (l : List α) :
    (l.filterMap f).findSome? g = l.findSome? (fun x => (f x).bind g) := by
  induction l with
  | nil => rfl
  | cons x l ih =>
    rw [List.filterMap_cons, List.findSome?_cons]
    cases f x with
    | none => exact ih
    | some y =>
      rw [List.findSome?_cons, Option.bind_some, ih]

def fractionMatch (width : ℕ) (s : Text) : Option (List (Directive × ℕ) × Text) :=
  (matchDigits 0 (List.replicate width (.range 0 9)) s).bind (fun result =>
    (matchFormat [.literal 'Z'] result.2).map
      (fun (groups, s) => ((.microsecond, result.1 * 10 ^ (6 - width)) :: groups, s)))

theorem matchFormat_microsecond (s : Text) :
    matchFormat [.directive .microsecond, .literal 'Z'] s =
      [6, 5, 4, 3, 2, 1].findSome? (fun width => fractionMatch width s) := by
  rw [matchFormat, Directive.candidates, Directive.pattern, List.filterMap_map,
    findSome?_filterMap]
  congr 1
  funext width
  rw [fractionMatch, Function.comp_apply]
  cases matchDigits 0 (List.replicate width (.range 0 9)) s with
  | none => rfl
  | some result =>
    rw [List.length_replicate]
    rfl

theorem isFull_replicate (width : ℕ) :
    ∀ cls ∈ List.replicate width (DigitClass.range 0 9), cls.IsFull :=
  fun _ hcls => Or.inr (List.eq_of_mem_replicate hcls)

theorem fractionMatch_fraction {fraction : Text} (hdigits : ∀ c ∈ fraction, c.isDigit = true)
    (width : ℕ) :
    fractionMatch width (fraction ++ ['Z']) =
      if width = fraction.length then
        some ([(.microsecond, Nat.ofDigitChars 10 fraction 0 * 10 ^ (6 - width))], [])
      else none := by
  rcases Nat.lt_trichotomy width fraction.length with hlt | rfl | hlt
  · obtain ⟨c, rest, hrest⟩ : ∃ c rest, fraction.drop width = c :: rest :=
      List.exists_cons_of_ne_nil (by simpa using hlt)
    have hc : c.isDigit = true := by
      apply hdigits
      apply List.mem_of_mem_drop
      rw [hrest]
      exact List.mem_cons_self
    rw [if_neg hlt.ne, fractionMatch, ← List.take_append_drop width fraction, List.append_assoc,
      matchDigits_digits (isFull_replicate width)
        (fun c hc => hdigits c (List.mem_of_mem_take hc)) (by simp [hlt.le]),
      hrest, Option.bind_some, List.cons_append, matchFormat_digit (by decide) hc, Option.map_none]
  · rw [if_pos rfl, fractionMatch, matchDigits_digits (isFull_replicate _) hdigits (by simp),
      Option.bind_some]
    rfl
  · obtain ⟨more, rfl⟩ := Nat.exists_eq_add_of_lt hlt
    have hnone : matchDigits 0 (List.replicate (fraction.length + more + 1) (.range 0 9))
        (fraction ++ ['Z']) = none := by
      rw [add_assoc, List.replicate_add, matchDigits_append,
        matchDigits_digits (isFull_replicate _) hdigits (by simp)]
      rfl
    rw [if_neg hlt.ne', fractionMatch, hnone]
    rfl

end GcpMonitor.Python
