import GcpMonitor.Python.Error
import GcpMonitor.Python.Text
import Mathlib.Data.Rat.Defs
import Mathlib.Data.Rat.Lemmas

namespace GcpMonitor.Python

/-- How floats, taken as the rationals they are, are written and read. -/
structure FloatText where
  str : ℚ → Text
  parse : Text → Option ℚ
  parse_str : ∀ q, parse (str q) = some q
  parse_int : ∀ n : ℤ, parse (Text.ofInt n) = some (n : ℚ)
  comma_not_mem_str : ∀ q, ',' ∉ str q

def FloatText.wholeOrFraction : FloatText where
  str q := if q.den = 1 then Text.ofInt q.num ++ ".0".toList
    else Text.ofInt q.num ++ '/' :: Text.ofInt q.den
  parse s :=
    match s.splitOn '/' with
    | [n, d] => (Text.int n).bind (fun n : ℤ => (Text.int d).map (fun d : ℤ => (n : ℚ) / d))
    | [s] =>
      match s.splitOn '.' with
      | [n] => (Text.int n).map (fun n : ℤ => (n : ℚ))
      | [n, ['0']] => (Text.int n).map (fun n : ℤ => (n : ℚ))
      | _ => none
    | _ => none
  parse_str := by
    intro q
    by_cases h : q.den = 1
    · have hslash : '/' ∉ Text.ofInt q.num ++ ".0".toList := by
        simp [Text.not_mem_ofInt]
      have hdot : (Text.ofInt q.num ++ ".0".toList).splitOn '.' = [Text.ofInt q.num, ['0']] :=
        Text.splitOn_pair (Text.not_mem_ofInt (by decide) rfl) (by decide)
      simp only [if_pos h, List.splitOn_eq_singleton hslash, hdot, Text.int_ofInt, Option.map_some]
      rw [Rat.coe_int_num_of_den_eq_one h]
    · have hslash : (Text.ofInt q.num ++ '/' :: Text.ofInt q.den).splitOn '/' =
          [Text.ofInt q.num, Text.ofInt q.den] :=
        Text.splitOn_pair (Text.not_mem_ofInt (by decide) rfl) (Text.not_mem_ofInt (by decide) rfl)
      simp only [if_neg h, hslash, Text.int_ofInt, Option.bind_some, Option.map_some]
      rw [Int.cast_natCast, Rat.num_div_den]
  parse_int := by
    intro n
    rw [List.splitOn_eq_singleton (by simp [Text.not_mem_ofInt])]
    simp only [List.splitOn_eq_singleton (Text.not_mem_ofInt (n := n) (c := '.') (by decide) rfl),
      Text.int_ofInt, Option.map_some]
  comma_not_mem_str := by
    intro q
    split_ifs <;> simp [Text.not_mem_ofInt]

inductive PyNumber where
  | int (n : ℤ)
  | float (q : ℚ)
  deriving DecidableEq

namespace PyNumber

def toRat : PyNumber → ℚ
  | .int n => n
  | .float q => q

def mul (k : ℤ) : PyNumber → PyNumber
  | .int n => .int (k * n)
  | .float q => .float (k * q)

def add : PyNumber → PyNumber → PyNumber
  | .int m, .int n => .int (m + n)
  | x, y => .float (x.toRat + y.toRat)

def times : PyNumber → PyNumber → PyNumber
  | .int m, .int n => .int (m * n)
  | x, y => .float (x.toRat * y.toRat)

def pow (base : PyNumber) : ℤ → Except PyError PyNumber
  | .ofNat n =>
    match base with
    | .int m => .ok (.int (m ^ n))
    | .float q => .ok (.float (q ^ n))
  | .negSucc n =>
    if base.toRat = 0 then
      .error (.exception "0.0 cannot be raised to a negative power")
    else .ok (.float (base.toRat ^ (n + 1))⁻¹)

def str (F : FloatText) : PyNumber → Text
  | .int n => Text.ofInt n
  | .float q => F.str q

theorem toRat_mul (k : ℤ) (x : PyNumber) : (x.mul k).toRat = k * x.toRat := by
  cases x with
  | int n => simp only [mul, toRat, Rat.intCast_mul]
  | float q => rfl

theorem toRat_add (x y : PyNumber) : (x.add y).toRat = x.toRat + y.toRat := by
  cases x with
  | int m =>
    cases y with
    | int n => simp only [add, toRat, Rat.intCast_add]
    | float q => rfl
  | float p => rfl

theorem toRat_times (x y : PyNumber) : (x.times y).toRat = x.toRat * y.toRat := by
  cases x with
  | int m =>
    cases y with
    | int n => simp only [times, toRat, Rat.intCast_mul]
    | float q => rfl
  | float p => rfl

theorem pow_natCast (base : PyNumber) (n : ℕ) :
    ∃ x, base.pow n = .ok x ∧ x.toRat = base.toRat ^ n := by
  cases base with
  | int m => exact ⟨_, rfl, by simp only [toRat, Rat.intCast_pow]⟩
  | float q => exact ⟨_, rfl, rfl⟩

theorem parse_str (F : FloatText) (x : PyNumber) : F.parse (x.str F) = some x.toRat := by
  cases x with
  | int n => exact F.parse_int n
  | float q => exact F.parse_str q

theorem comma_not_mem_str (F : FloatText) (x : PyNumber) : ',' ∉ x.str F := by
  cases x with
  | int n =>
    intro h
    rcases Text.mem_ofInt h with h | h <;> exact absurd h (by decide)
  | float q => exact F.comma_not_mem_str q

end PyNumber

inductive PyValue where
  | number (x : PyNumber)
  | text (s : Text)
  deriving DecidableEq

namespace PyValue

def int : PyValue → Except PyError ℤ
  | .number (.int n) => .ok n
  | .number (.float q) => .ok (q.num.tdiv q.den)
  | .text s => (Text.int s).elim (.error (.valueError none)) .ok

def float (F : FloatText) : PyValue → Except PyError ℚ
  | .number x => .ok x.toRat
  | .text s => (F.parse s).elim (.error (.valueError none)) .ok

end PyValue

end GcpMonitor.Python
