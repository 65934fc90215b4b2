import GcpMonitor.Library.BinaryRounding
import GcpMonitor.Python.Error
import Mathlib.Data.Rat.Floor
import Mathlib.Tactic.NormNum

namespace GcpMonitor.Python

/-- The `float` that a rational number is rounded to, where the exponent has no upper limit. -/
def binary64 (x : ℚ) : ℚ := BinaryRounding.round 53 (-1074) x

inductive PyFloat where
  | finite (q : ℚ)
  | infinity (negative : Bool)
  | nan
  deriving DecidableEq

def fitsFloat (x : ℚ) : Bool := |binary64 x| < 2 ^ 1024

namespace PyFloat

def ofRat (x : ℚ) : PyFloat :=
  if fitsFloat x then .finite (binary64 x) else .infinity (x < 0)

def ofInt (n : ℤ) : Except PyError PyFloat :=
  if fitsFloat n then .ok (.finite (binary64 n)) else .error .overflowError

def add : PyFloat → PyFloat → PyFloat
  | .finite p, .finite q => ofRat (p + q)
  | .finite _, y => y
  | .infinity a, .infinity b => if a = b then .infinity a else .nan
  | .infinity _, .nan => .nan
  | x, _ => x

def mul : PyFloat → PyFloat → PyFloat
  | .finite p, .finite q => ofRat (p * q)
  | .finite p, .infinity b => if p = 0 then .nan else .infinity (b != decide (p < 0))
  | .infinity a, .finite q => if q = 0 then .nan else .infinity (a != decide (q < 0))
  | .infinity a, .infinity b => .infinity (a != b)
  | _, _ => .nan

def isLess : PyFloat → PyFloat → Bool
  | .finite p, .finite q => p < q
  | .finite _, .infinity negative => !negative
  | .infinity negative, .finite _ => negative
  | .infinity a, .infinity b => a && !b
  | _, _ => false

def atMost (bound : ℚ) : PyFloat → PyFloat
  | .finite q => .finite (if bound < q then bound else q)
  | .infinity false => .finite bound
  | x => x

def exceeds (bound : ℚ) : PyFloat → Bool
  | .finite q => bound < q
  | .infinity negative => !negative
  | .nan => false

def toRat : PyFloat → Option ℚ
  | .finite q => some q
  | _ => none

end PyFloat

inductive Number where
  | int (n : ℤ)
  | float (x : PyFloat)
  deriving DecidableEq

namespace Number

def toFloat : Number → Except PyError PyFloat
  | .int n => PyFloat.ofInt n
  | .float x => .ok x

def add : Number → Number → Except PyError Number
  | .int m, .int n => .ok (.int (m + n))
  | x, y => do return .float ((← x.toFloat).add (← y.toFloat))

def mul : Number → Number → Except PyError Number
  | .int m, .int n => .ok (.int (m * n))
  | x, y => do return .float ((← x.toFloat).mul (← y.toFloat))

def toRat : Number → Option ℚ
  | .int n => some n
  | .float x => x.toRat

def exceeds (bound : ℤ) : Number → Bool
  | .int n => bound < n
  | .float x => x.exceeds bound

def item {α : Type} (items : List α) : Number → Except PyError α
  | .int n => (items[n.toNat]?).elim (.error .indexError) .ok
  | .float _ => .error .typeError

end Number

section

open BinaryRounding

variable {x : ℚ} {n k : ℤ}

theorem binary64_neg (x : ℚ) : binary64 (-x) = -binary64 x := round_neg x

theorem le_binary64 (hx : 0 < x) (hk : -1074 ≤ k) (hn : |n| ≤ 2 ^ 53) (h : n * 2 ^ k ≤ x) :
    n * 2 ^ k ≤ binary64 x := by
  rw [binary64, round_of_nonneg hx.le]
  exact le_roundPositive hx (by decide) hk hn h

theorem binary64_le (hx : 0 < x) (hk : -1074 ≤ k) (hn : |n| ≤ 2 ^ 53) (h : x ≤ n * 2 ^ k) :
    binary64 x ≤ n * 2 ^ k := by
  rw [binary64, round_of_nonneg hx.le]
  exact roundPositive_le hx (by decide) hk hn h

theorem binary64_zero : binary64 0 = 0 := by
  have h := binary64_neg 0
  rw [neg_zero] at h
  linarith

theorem binary64_nonneg (hx : 0 ≤ x) : 0 ≤ binary64 x := by
  rcases hx.eq_or_lt with rfl | hx
  · exact binary64_zero.ge
  · simpa using le_binary64 (n := 0) (k := 0) hx (by decide) (by decide) (by simpa using hx.le)

theorem binary64_lt_one_iff (hx : 0 < x) : binary64 x < 1 ↔ x < 1 - 1 / 2 ^ 54 := by
  rcases lt_or_ge x 1 with hone | hone
  · rcases lt_or_ge x (1 / 2) with hhalf | hhalf
    · have hle : binary64 x ≤ 1 / 2 := by
        have := binary64_le (n := 1) (k := -1) hx (by decide) (by decide)
          (by norm_num; exact hhalf.le)
        norm_num at this ⊢
        exact this
      constructor
      · intro _
        norm_num
        linarith
      · intro _
        linarith
    · have hiff : (1 : ℚ) ≤ binary64 x ↔ 1 ≤ x + 1 / 2 ^ 54 := by
        have : ((2 ^ 53 : ℤ) : ℚ) * 2 ^ (-53 : ℤ) ≤ roundPositive 53 (-1074) x ↔ _ :=
          le_roundPositive_iff (by decide) (by norm_num; exact hhalf) (by norm_num; exact hone)
            (by decide)
        rw [binary64, round_of_nonneg hx.le]
        norm_num at this ⊢
        exact this
      rw [← not_le, hiff, not_le]
      constructor <;> intro h <;> linarith
  · have hle : (1 : ℚ) ≤ binary64 x := by
      have := le_binary64 (n := 1) (k := 0) hx (by decide) (by decide) (by simpa using hone)
      simpa using this
    apply iff_of_false hle.not_gt
    norm_num
    linarith

end

theorem PyFloat.exceeds_neg_one_add (x : PyFloat) :
    (PyFloat.add (.finite (-1)) x).exceeds (-1) = x.exceeds (1 / 2 ^ 54) := by
  cases x with
  | finite q =>
    rw [PyFloat.add, PyFloat.ofRat]
    rcases lt_or_ge 0 (1 - q) with hq | hq
    · have hneg : binary64 (-1 + q) = -binary64 (1 - q) := by
        rw [← binary64_neg]
        congr 1
        ring
      have hlt : -1 < -binary64 (1 - q) ↔ 1 / 2 ^ 54 < q := by
        rw [neg_lt_neg_iff, binary64_lt_one_iff hq]
        constructor <;> intro h <;> linarith
      split_ifs with hfits
      · simp only [exceeds, hneg, hlt]
      · -- what is too far below for a float is below minus one
        have hlarge : 1 ≤ binary64 (1 - q) := by
          have hle : (1 : ℚ) ≤ 2 ^ 1024 := one_le_pow₀ one_le_two
          simp only [fitsFloat, hneg, abs_neg, abs_of_nonneg (binary64_nonneg hq.le),
            decide_eq_true_eq, not_lt] at hfits
          exact hle.trans hfits
        have hsmall : ¬ 1 / 2 ^ 54 < q := by
          rw [← hlt, neg_lt_neg_iff]
          exact hlarge.not_gt
        have hbelow : -1 + q < 0 := by linarith
        simp only [exceeds, hsmall, hbelow, decide_true, decide_false, Bool.not_true]
    · have habove : 1 / 2 ^ 54 < q := by
        have : (1 : ℚ) / 2 ^ 54 < 1 := by norm_num
        linarith
      have hnonneg : 0 ≤ -1 + q := by linarith
      have hlt : -1 < binary64 (-1 + q) := by
        have := binary64_nonneg hnonneg
        linarith
      split_ifs
      · simp only [exceeds, hlt, habove]
      · simp only [exceeds, hnonneg.not_gt, habove, decide_true, decide_false, Bool.not_false]
  | infinity negative => rfl
  | nan => rfl

end GcpMonitor.Python
