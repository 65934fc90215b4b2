import GcpMonitor.Python.JsonLoads
import Mathlib.Tactic.Common

namespace GcpMonitor.Python.Json

open TextReader

def isNumberPart (c : Char) : Bool := c.isDigit || c = '.' || c = 'e' || c = 'E'

theorem endsRun_digit {rest : Text} (h : EndsRun isNumberPart rest) :
    EndsRun Char.isDigit rest := by
  intro c hc
  have hpart := h c hc
  simp only [isNumberPart, Bool.or_eq_false_iff] at hpart
  exact hpart.1.1.1

theorem scanDigits_run {mark digits rest : Text} (hdigits : ∀ c ∈ digits, c.isDigit = true)
    (hne : digits ≠ []) (hrest : EndsRun Char.isDigit rest) :
    scanDigits mark (digits ++ rest) = (mark ++ digits, rest) := by
  rw [scanDigits, takeWhile_run hdigits hrest, dropWhile_run hdigits hrest]
  cases digits with
  | nil => exact absurd rfl hne
  | cons c digits => rfl

theorem scanFraction_none {rest : Text} (h : ∀ c ∈ rest.head?, c ≠ '.') :
    scanFraction rest = ([], rest) := by
  cases rest with
  | nil => rfl
  | cons c rest => rw [scanFraction, if_neg (h c rfl)]

theorem scanExponent_none {rest : Text} (h : ∀ c ∈ rest.head?, c ≠ 'e' ∧ c ≠ 'E') :
    scanExponent rest = ([], rest) := by
  cases rest with
  | nil => rfl
  | cons c rest =>
    have hc := h c rfl
    simp [scanExponent, hc]

theorem part_ne {rest : Text} (h : EndsRun isNumberPart rest) :
    ∀ c ∈ rest.head?, c ≠ '.' ∧ c ≠ 'e' ∧ c ≠ 'E' := by
  intro c hc
  have hpart := h c hc
  simp only [isNumberPart, Bool.or_eq_false_iff, decide_eq_false_iff_not] at hpart
  exact ⟨hpart.1.1.2, hpart.1.2, hpart.2⟩

inductive IntegerToken : Text → Prop
  | zero : IntegerToken ['0']
  | digits {c : Char} {rest : Text} (hc : c.isDigit = true) (hne : c ≠ '0')
      (hrest : ∀ d ∈ rest, d.isDigit = true) : IntegerToken (c :: rest)

theorem integerToken_toDigits (n : ℕ) : IntegerToken (Nat.toDigits 10 n) := by
  induction n using Nat.strong_induction_on with
  | _ n ih =>
    by_cases hlt : n < 10
    · rw [Nat.toDigits_of_lt_base hlt]
      by_cases hzero : n = 0
      · subst hzero
        exact .zero
      · have hdigit : ∀ m < 10, m ≠ 0 →
            (Nat.digitChar m).isDigit = true ∧ Nat.digitChar m ≠ '0' := by decide
        obtain ⟨hc, hne⟩ := hdigit n hlt hzero
        exact .digits hc hne (by simp)
    · rw [Nat.toDigits_of_base_le (by decide) (by omega)]
      have hlast : (Nat.digitChar (n % 10)).isDigit = true := by
        have hdigit : ∀ m < 10, (Nat.digitChar m).isDigit = true := by decide
        exact hdigit _ (Nat.mod_lt _ (by decide))
      have hfirst := ih (n / 10) (by omega)
      generalize htoken : Nat.toDigits 10 (n / 10) = token at hfirst
      cases hfirst with
      | zero =>
        -- only zero is written with a zero in front
        have hback := congrArg (Nat.ofDigitChars 10 · 0) htoken
        simp only [Nat.ofDigitChars_ten_toDigits] at hback
        have hval : Nat.ofDigitChars 10 ['0'] 0 = 0 := by decide
        omega
      | digits hc hne hrest =>
        refine .digits hc hne ?_
        intro d hd
        obtain hd | hd := List.mem_append.mp hd
        · exact hrest d hd
        · rw [List.mem_singleton.mp hd]
          exact hlast

theorem scanInteger_token {token rest : Text} (h : IntegerToken token)
    (hrest : EndsRun Char.isDigit rest) : scanInteger (token ++ rest) = some (token, rest) := by
  cases h with
  | zero => simp [scanInteger]
  | @digits c tail hc hne htail =>
    rw [List.cons_append, scanInteger, if_neg hne, if_pos hc, takeWhile_run htail hrest,
      dropWhile_run htail hrest]

theorem IntegerToken.head {token : Text} (h : IntegerToken token) :
    ∃ c tail, token = c :: tail ∧ c.isDigit = true := by
  cases h with
  | zero => exact ⟨'0', [], rfl, rfl⟩
  | digits hc _ _ => exact ⟨_, _, rfl, hc⟩

structure FloatToken (sign integer fraction exponent : Text) : Prop where
  sign_cases : sign = [] ∨ sign = ['-']
  integer_token : IntegerToken integer
  fraction_cases : fraction = [] ∨
    ∃ digits, fraction = '.' :: digits ∧ digits ≠ [] ∧ ∀ c ∈ digits, c.isDigit = true
  exponent_cases : exponent = [] ∨ ∃ e mark digits, exponent = e :: mark ++ digits ∧
    (e = 'e' ∨ e = 'E') ∧ (mark = [] ∨ mark = ['+'] ∨ mark = ['-']) ∧ digits ≠ [] ∧
      ∀ c ∈ digits, c.isDigit = true
  isFloat : fraction ≠ [] ∨ exponent ≠ []

def IsFloat (text : Text) : Prop :=
  ∃ sign integer fraction exponent, text = sign ++ integer ++ fraction ++ exponent ∧
    FloatToken sign integer fraction exponent

theorem scanSign_token {sign integer rest : Text} (hsign : sign = [] ∨ sign = ['-'])
    (hinteger : IntegerToken integer) :
    scanSign (sign ++ (integer ++ rest)) = (sign, integer ++ rest) := by
  obtain rfl | rfl := hsign
  · obtain ⟨c, tail, rfl, hc⟩ := hinteger.head
    have hne : c ≠ '-' := by
      rintro rfl
      exact absurd hc (by decide)
    simp [scanSign, hne]
  · simp [scanSign]

theorem scanFraction_token {fraction rest : Text} (h : fraction = [] ∨
    ∃ digits, fraction = '.' :: digits ∧ digits ≠ [] ∧ ∀ c ∈ digits, c.isDigit = true)
    (hrest : EndsRun Char.isDigit rest) (hpoint : ∀ c ∈ rest.head?, c ≠ '.') :
    scanFraction (fraction ++ rest) = (fraction, rest) := by
  obtain rfl | ⟨digits, rfl, hne, hdigits⟩ := h
  · exact scanFraction_none hpoint
  · rw [List.cons_append, scanFraction, if_pos rfl, scanDigits_run hdigits hne hrest]
    rfl

theorem scanExponent_token {exponent rest : Text} (h : exponent = [] ∨ ∃ e mark digits,
    exponent = e :: mark ++ digits ∧ (e = 'e' ∨ e = 'E') ∧
      (mark = [] ∨ mark = ['+'] ∨ mark = ['-']) ∧ digits ≠ [] ∧ ∀ c ∈ digits, c.isDigit = true)
    (hrest : EndsRun isNumberPart rest) : scanExponent (exponent ++ rest) = (exponent, rest) := by
  obtain rfl | ⟨e, mark, digits, rfl, he, hmark, hne, hdigits⟩ := h
  · apply scanExponent_none
    intro c hc
    exact (part_ne hrest c hc).2
  · have hrun : ∀ mark, scanDigits mark (digits ++ rest) = (mark ++ digits, rest) :=
      fun mark => scanDigits_run hdigits hne (endsRun_digit hrest)
    have hexponent : (decide (e = 'e') || decide (e = 'E')) = true := by
      simpa using he
    obtain rfl | hmark := hmark
    · cases digits with
      | nil => contradiction
      | cons c digits =>
        have hc := hdigits c List.mem_cons_self
        have hplus : c ≠ '+' := by
          rintro rfl
          exact absurd hc (by decide)
        have hminus : c ≠ '-' := by
          rintro rfl
          exact absurd hc (by decide)
        have hread := hrun [e]
        simp only [List.cons_append] at hread
        simp only [List.cons_append, List.nil_append, scanExponent, hexponent, if_true, hplus,
          hminus, decide_false, Bool.or_self, Bool.false_eq_true, if_false, hread]
    · obtain rfl | rfl := hmark
      · simp [scanExponent, hexponent, hrun]
      · simp [scanExponent, hexponent, hrun]

theorem intOf_ofInt (n : ℕ) :
    intOf [] (Nat.toDigits 10 n) = n ∧ intOf ['-'] (Nat.toDigits 10 (n + 1)) = Int.negSucc n := by
  constructor
  · simp [intOf]
  · simp [intOf, Int.negSucc_eq]

variable (float : Text → PyFloat)

theorem scanNumber_ofInt (n : ℤ) : Reads (scanNumber float) (EndsRun isNumberPart) (Text.ofInt n)
    (.int n) := by
  intro rest hrest
  have hread : ∀ sign m, (sign = [] ∨ sign = ['-']) →
      scanNumber float (sign ++ (Nat.toDigits 10 m ++ rest)) =
        some (.int (intOf sign (Nat.toDigits 10 m)), rest) := by
    intro sign m hsign
    have hinteger := integerToken_toDigits m
    simp only [scanNumber, scanSign_token hsign hinteger,
      scanInteger_token hinteger (endsRun_digit hrest),
      scanFraction_none (fun c hc => (part_ne hrest c hc).1),
      scanExponent_none (fun c hc => (part_ne hrest c hc).2), and_self, if_true]
  cases n with
  | ofNat m =>
    rw [Text.ofInt, ← List.nil_append (_ ++ _), hread [] m (.inl rfl), (intOf_ofInt m).1]
    rfl
  | negSucc m =>
    rw [Text.ofInt, List.cons_append, ← List.singleton_append, hread ['-'] (m + 1) (.inr rfl),
      (intOf_ofInt m).2]

theorem scanNumber_float {text : Text} (h : IsFloat text) :
    Reads (scanNumber float) (EndsRun isNumberPart) text (.float (float text)) := by
  intro rest hrest
  obtain ⟨sign, integer, fraction, exponent, rfl, htoken⟩ := h
  have hexponent := scanExponent_token htoken.exponent_cases hrest
  have hafter : EndsRun Char.isDigit (exponent ++ rest) ∧
      ∀ c ∈ (exponent ++ rest).head?, c ≠ '.' := by
    obtain rfl | ⟨e, mark, digits, rfl, he, -⟩ := htoken.exponent_cases
    · exact ⟨endsRun_digit hrest, fun c hc => (part_ne hrest c hc).1⟩
    · obtain rfl | rfl := he
      · exact ⟨endsRun_cons rfl _, by simp⟩
      · exact ⟨endsRun_cons rfl _, by simp⟩
  have hfraction := scanFraction_token htoken.fraction_cases hafter.1 hafter.2
  have hdigits : EndsRun Char.isDigit (fraction ++ (exponent ++ rest)) := by
    obtain rfl | ⟨digits, rfl, -⟩ := htoken.fraction_cases
    · exact hafter.1
    · exact endsRun_cons rfl _
  have hinteger := scanInteger_token htoken.integer_token hdigits
  simp only [List.append_assoc, scanNumber,
    scanSign_token htoken.sign_cases htoken.integer_token, hinteger, hfraction, hexponent]
  rw [if_neg]
  rintro ⟨hf, he⟩
  obtain hne | hne := htoken.isFloat
  · exact hne hf
  · exact hne he

theorem scanSign_cases (text : Text) : (scanSign text).1 = [] ∨ (scanSign text).1 = ['-'] := by
  cases text with
  | nil => exact .inl rfl
  | cons c rest =>
    rw [scanSign]
    split_ifs
    · exact .inr rfl
    · exact .inl rfl

theorem isDigit_of_mem_takeWhile {text : Text} : ∀ c ∈ text.takeWhile Char.isDigit,
    c.isDigit = true :=
  fun _ hc => List.mem_takeWhile_imp hc

theorem scanInteger_gives : Gives scanInteger IntegerToken := by
  intro text token rest h
  cases text with
  | nil => contradiction
  | cons c text =>
    rw [scanInteger] at h
    split_ifs at h with hzero hdigit
    · cases h
      exact .zero
    · cases h
      exact .digits hdigit hzero isDigit_of_mem_takeWhile

theorem scanDigits_cases (mark rest : Text) : (scanDigits mark rest).1 = [] ∨
    ∃ digits, (scanDigits mark rest).1 = mark ++ digits ∧ digits ≠ [] ∧
      ∀ c ∈ digits, c.isDigit = true := by
  have hdigits : ∀ c ∈ rest.takeWhile Char.isDigit, c.isDigit = true :=
    isDigit_of_mem_takeWhile
  rw [scanDigits]
  cases hrun : rest.takeWhile Char.isDigit with
  | nil => exact .inl rfl
  | cons c digits =>
    rw [hrun] at hdigits
    exact .inr ⟨_, rfl, List.cons_ne_nil _ _, hdigits⟩

theorem scanFraction_cases (text : Text) : (scanFraction text).1 = [] ∨
    ∃ digits, (scanFraction text).1 = '.' :: digits ∧ digits ≠ [] ∧
      ∀ c ∈ digits, c.isDigit = true := by
  cases text with
  | nil => exact .inl rfl
  | cons c rest =>
    rw [scanFraction]
    split_ifs
    · exact scanDigits_cases ['.'] rest
    · exact .inl rfl

theorem scanExponent_cases (text : Text) : (scanExponent text).1 = [] ∨ ∃ e mark digits,
    (scanExponent text).1 = e :: mark ++ digits ∧ (e = 'e' ∨ e = 'E') ∧
      (mark = [] ∨ mark = ['+'] ∨ mark = ['-']) ∧ digits ≠ [] ∧
      ∀ c ∈ digits, c.isDigit = true := by
  cases text with
  | nil => exact .inl rfl
  | cons e rest =>
    unfold scanExponent
    dsimp only
    split_ifs with he
    · have he : e = 'e' ∨ e = 'E' := by simpa using he
      cases rest with
      | nil => exact .inl rfl
      | cons c rest =>
        dsimp only
        split_ifs with hc
        · have hc : c = '+' ∨ c = '-' := by simpa using hc
          obtain hnone | ⟨digits, heq, hne, hdigits⟩ := scanDigits_cases [e, c] rest
          · exact .inl hnone
          · refine .inr ⟨e, [c], digits, heq, he, ?_, hne, hdigits⟩
            rcases hc with rfl | rfl
            · exact .inr (.inl rfl)
            · exact .inr (.inr rfl)
        · obtain hnone | ⟨digits, heq, hne, hdigits⟩ := scanDigits_cases [e] (c :: rest)
          · exact .inl hnone
          · exact .inr ⟨e, [], digits, heq, he, .inl rfl, hne, hdigits⟩
    · exact .inl rfl

end GcpMonitor.Python.Json
