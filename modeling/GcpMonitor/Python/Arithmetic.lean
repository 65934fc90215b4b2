import GcpMonitor.Python.Float
import GcpMonitor.Python.Value

namespace GcpMonitor.Python

variable {N : Type}

/-- The operations on numbers that the code uses, so that it can be read over exact rationals as
well as over the numbers of Python. -/
structure Arithmetic (N : Type) where
  ofInt : ℤ → N
  add : N → N → Except PyError N
  mul : N → N → Except PyError N
  pow : N → ℤ → Except PyError N
  hundredTimes : N → N
  isLess : N → N → Bool
  str : N → Text
  float : Text → Option N
  asFloat : N → N
  float_str : ∀ x, float (str x) = some (asFloat x)
  comma_not_mem_str : ∀ x, ',' ∉ str x

namespace Arithmetic

variable (A : Arithmetic N)

def least (x y : N) : N := if A.isLess y x then y else x

def greatest (x y : N) : N := if A.isLess x y then y else x

def exact (F : FloatText) : Arithmetic PyNumber where
  ofInt := .int
  add x y := .ok (x.add y)
  mul x y := .ok (x.times y)
  pow := PyNumber.pow
  hundredTimes := PyNumber.mul 100
  isLess x y := x.toRat < y.toRat
  str := PyNumber.str F
  float s := (F.parse s).map .float
  asFloat x := .float x.toRat
  float_str := by
    intro x
    rw [PyNumber.parse_str, Option.map_some]
  comma_not_mem_str := PyNumber.comma_not_mem_str F

theorem toRat_least (F : FloatText) (x y : PyNumber) :
    ((exact F).least x y).toRat = min x.toRat y.toRat := by
  rw [least, exact, min_comm]
  by_cases h : y.toRat < x.toRat
  · rw [if_pos (by simpa using h), min_eq_left h.le]
  · rw [if_neg (by simpa using h), min_eq_right (not_lt.mp h)]

theorem toRat_greatest (F : FloatText) (x y : PyNumber) :
    ((exact F).greatest x y).toRat = max x.toRat y.toRat := by
  rw [greatest, exact]
  by_cases h : x.toRat < y.toRat
  · rw [if_pos (by simpa using h), max_eq_right h.le]
  · rw [if_neg (by simpa using h), max_eq_left (not_lt.mp h)]

end Arithmetic

/-- What the C library makes of powers, and how floats are written and read. -/
structure FloatLibrary where
  pow : PyFloat → ℤ → Except PyError PyFloat
  str : PyFloat → Text
  parse : Text → Option PyFloat
  parse_str : ∀ x, parse (str x) = some x
  parse_int : ∀ n : ℤ, parse (Text.ofInt n) = some (.ofRat n)
  int_str : ∀ x, Text.int (str x) = none
  comma_not_mem_str : ∀ x, ',' ∉ str x

namespace FloatLibrary

def wholeOrFractionStr : PyFloat → Text
  | .finite q => FloatText.wholeOrFraction.str q
  | .infinity negative => if negative then "-inf".toList else "inf".toList
  | .nan => "nan".toList

def wholeOrFractionParse (s : Text) : Option PyFloat :=
  match Text.int s with
  | some n => some (.ofRat n)
  | none =>
    if s.contains 'n' then
      some (if s.contains 'a' then .nan else .infinity (s.head? = some '-'))
    else (FloatText.wholeOrFraction.parse s).map .finite

theorem mem_wholeOrFraction (q : ℚ) : ∃ c ∈ FloatText.wholeOrFraction.str q, c = '.' ∨ c = '/' := by
  simp only [FloatText.wholeOrFraction]
  split_ifs
  · exact ⟨'.', by simp, .inl rfl⟩
  · exact ⟨'/', by simp, .inr rfl⟩

theorem not_mem_wholeOrFraction {c : Char} (hminus : c ≠ '-') (hdigit : c.isDigit = false)
    (hdot : c ≠ '.') (hslash : c ≠ '/') (q : ℚ) : c ∉ FloatText.wholeOrFraction.str q := by
  have hzero : c ≠ '0' := by
    rintro rfl
    cases hdigit
  simp only [FloatText.wholeOrFraction]
  split_ifs <;> simp [Text.not_mem_ofInt hminus hdigit, hdot, hslash, hzero]

theorem int_wholeOrFractionStr (x : PyFloat) : Text.int (wholeOrFractionStr x) = none := by
  cases x with
  | finite q =>
    obtain ⟨c, hc, hchar⟩ := mem_wholeOrFraction q
    exact Text.int_eq_none hc hchar
  | infinity negative => cases negative <;> decide +kernel
  | nan => decide +kernel

def wholeOrFraction : FloatLibrary where
  pow x n :=
    match x with
    | .finite q =>
      if q = 0 ∧ n < 0 then .error (.exception "0.0 cannot be raised to a negative power")
      else if fitsFloat (q ^ n) then .ok (.ofRat (q ^ n)) else .error .overflowError
    | _ => .ok .nan
  str := wholeOrFractionStr
  parse := wholeOrFractionParse
  parse_str := by
    intro x
    rw [wholeOrFractionParse, int_wholeOrFractionStr]
    cases x with
    | finite q =>
      have hletter : ¬ (FloatText.wholeOrFraction.str q).contains 'n' = true := by
        rw [List.contains_iff_mem]
        exact not_mem_wholeOrFraction (by decide) (by decide) (by decide) (by decide) q
      simp only [wholeOrFractionStr, if_neg hletter, FloatText.parse_str, Option.map_some]
    | infinity negative => cases negative <;> decide
    | nan => decide
  parse_int := by
    intro n
    rw [wholeOrFractionParse, Text.int_ofInt]
  int_str := int_wholeOrFractionStr
  comma_not_mem_str := by
    intro x
    cases x with
    | finite q =>
      exact not_mem_wholeOrFraction (by decide) (by decide) (by decide) (by decide) q
    | infinity negative => cases negative <;> decide
    | nan => decide

end FloatLibrary

namespace Number

variable (L : FloatLibrary)

def pow : Number → ℤ → Except PyError Number
  | .int m, .ofNat n => .ok (.int (m ^ n))
  | x, n => do return .float (← L.pow (← x.toFloat) n)

def hundredTimes : Number → Number
  | .int n => .int (100 * n)
  | .float x => .float (PyFloat.mul (.finite 100) x)

def isLess : Number → Number → Bool
  | .int m, .int n => m < n
  | .int m, .float y => PyFloat.isLess (.finite m) y
  | .float x, .int n => x.isLess (.finite n)
  | .float x, .float y => x.isLess y

def str : Number → Text
  | .int n => Text.ofInt n
  | .float x => L.str x

def read (s : Text) : Option Number :=
  match Text.int s with
  | some n => some (.int n)
  | none => (L.parse s).map .float

theorem read_str (x : Number) : read L (x.str L) = some x := by
  cases x with
  | int n => rw [str, read, Text.int_ofInt]
  | float x =>
    rw [str, read, L.int_str, L.parse_str]
    rfl

def asFloat : Number → PyFloat
  | .int n => .ofRat n
  | .float x => x

theorem parse_str (x : Number) : L.parse (x.str L) = some x.asFloat := by
  cases x with
  | int n => exact L.parse_int n
  | float x => exact L.parse_str x

theorem comma_not_mem_str (x : Number) : ',' ∉ x.str L := by
  cases x with
  | int n =>
    intro h
    rcases Text.mem_ofInt h with h | h <;> exact absurd h (by decide)
  | float x => exact L.comma_not_mem_str x

end Number

def Arithmetic.binary (L : FloatLibrary) : Arithmetic Number where
  ofInt := .int
  add := Number.add
  mul := Number.mul
  pow := Number.pow L
  hundredTimes := Number.hundredTimes
  isLess := Number.isLess
  str := Number.str L
  float s := (L.parse s).map .float
  asFloat x := .float x.asFloat
  float_str := by
    intro x
    rw [Number.parse_str, Option.map_some]
  comma_not_mem_str := Number.comma_not_mem_str L

end GcpMonitor.Python
