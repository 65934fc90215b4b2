import Mathlib.Algebra.Order.Round
import Mathlib.Data.Int.Log
import Mathlib.Tactic.FieldSimp
import Mathlib.Tactic.Linarith
import Mathlib.Tactic.Ring

namespace GcpMonitor.BinaryRounding

variable {K : Type} [Field K] [LinearOrder K] [IsStrictOrderedRing K] [FloorRing K]

def roundHalfEven (x : K) : ℤ :=
  if x - ⌊x⌋ < 1 / 2 then ⌊x⌋
  else if 1 / 2 < x - ⌊x⌋ then ⌊x⌋ + 1
  else ⌊x⌋ + ⌊x⌋ % 2

theorem le_roundHalfEven_iff {x : K} {n : ℤ} (hn : Even n) :
    n ≤ roundHalfEven x ↔ (n : K) - 1 / 2 ≤ x := by
  have hfloor := Int.floor_le x
  have hlt := Int.lt_floor_add_one x
  have hcast : ∀ m : ℤ, n ≤ m ↔ (n : K) ≤ m := fun m => Int.cast_le.symm
  rw [roundHalfEven]
  generalize ⌊x⌋ = floor at hfloor hlt ⊢
  split_ifs with hbelow habove
  · constructor
    · intro h
      have := (hcast floor).mp h
      linarith
    · intro h
      have : (n : K) < (floor + 1 : ℤ) := by
        push_cast
        linarith
      exact Int.lt_add_one_iff.mp (Int.cast_lt.mp this)
  · constructor
    · intro h
      have := (hcast (floor + 1)).mp h
      push_cast at this
      linarith
    · intro h
      have : (n : K) < (floor + 1 + 1 : ℤ) := by
        push_cast
        linarith
      exact Int.lt_add_one_iff.mp (Int.cast_lt.mp this)
  · have hmiddle : (n : K) - 1 / 2 ≤ x ↔ n ≤ floor + 1 := by
      rw [hcast (floor + 1)]
      push_cast
      constructor <;> intro h <;> linarith
    rw [hmiddle]
    obtain ⟨m, rfl⟩ := hn
    omega

theorem roundHalfEven_eq {x : K} {n : ℤ} (h : |x - n| < 1 / 2) : roundHalfEven x = n := by
  obtain ⟨hlow, hhigh⟩ := abs_lt.mp h
  rw [roundHalfEven]
  by_cases hn : (n : K) ≤ x
  · have hfloor : ⌊x⌋ = n := Int.floor_eq_iff.mpr ⟨hn, by linarith⟩
    rw [hfloor, if_pos hhigh]
  · have hfloor : ⌊x⌋ = n - 1 := by
      rw [Int.floor_eq_iff]
      push_cast
      constructor <;> linarith
    rw [hfloor, if_neg, if_pos]
    · omega
    · push_cast
      linarith
    · push_cast
      linarith

omit [IsStrictOrderedRing K] in
theorem le_roundHalfEven {x : K} {n : ℤ} (h : (n : K) ≤ x) : n ≤ roundHalfEven x := by
  have hfloor : n ≤ ⌊x⌋ := Int.le_floor.mpr h
  rw [roundHalfEven]
  split_ifs
  · exact hfloor
  · omega
  · omega

theorem roundHalfEven_le {x : K} {n : ℤ} (h : x ≤ n) : roundHalfEven x ≤ n := by
  have hfloor : ⌊x⌋ ≤ n := Int.cast_le.mp ((Int.floor_le x).trans h)
  rw [roundHalfEven]
  split_ifs with hbelow
  · exact hfloor
  · -- half a unit above its floor, the number is below the next whole one
    have hlt : ((⌊x⌋ : ℤ) : K) < n := by linarith
    have := Int.cast_lt.mp hlt
    omega
  · have hlt : ((⌊x⌋ : ℤ) : K) < n := by linarith
    have := Int.cast_lt.mp hlt
    omega

variable (precision : ℕ) (minExponent : ℤ)

/-- The place of the last digit that is kept: so many digits from the first one, but never below
the least exponent. -/
def lastPlace (x : K) : ℤ := max (Int.log 2 x + 1 - precision) minExponent

def roundPositive (x : K) : K :=
  roundHalfEven (x / 2 ^ lastPlace precision minExponent x) *
    2 ^ lastPlace precision minExponent x

/-- The number of the binary format that is the nearest one, where the exponent has no upper
limit. -/
def round (x : K) : K :=
  if x < 0 then -roundPositive precision minExponent (-x) else roundPositive precision minExponent x

section

variable {precision minExponent} {x : K} {k : ℤ}

theorem lastPlace_eq (hk : minExponent ≤ k) (hlow : (2 : K) ^ (k + precision - 1) ≤ x)
    (hhigh : x < 2 ^ (k + precision)) : lastPlace precision minExponent x = k := by
  have hpos : 0 < x := lt_of_lt_of_le (zpow_pos two_pos _) hlow
  have hle : k + precision - 1 ≤ Int.log 2 x :=
    (Int.zpow_le_iff_le_log Nat.one_lt_two hpos).mp (by exact_mod_cast hlow)
  have hlt : Int.log 2 x < k + precision :=
    (Int.lt_zpow_iff_log_lt Nat.one_lt_two hpos).mp (by exact_mod_cast hhigh)
  rw [lastPlace]
  omega

theorem roundPositive_eq (hk : minExponent ≤ k) (hlow : (2 : K) ^ (k + precision - 1) ≤ x)
    (hhigh : x < 2 ^ (k + precision)) :
    roundPositive precision minExponent x = roundHalfEven (x / 2 ^ k) * 2 ^ k := by
  rw [roundPositive, lastPlace_eq hk hlow hhigh]

theorem roundPositive_of_near (hk : minExponent ≤ k) (hlow : (2 : K) ^ (k + precision - 1) ≤ x)
    (hhigh : x < 2 ^ (k + precision)) {n : ℤ} (hn : |x / 2 ^ k - n| < 1 / 2) :
    roundPositive precision minExponent x = n * 2 ^ k := by
  rw [roundPositive_eq hk hlow hhigh, roundHalfEven_eq hn]

theorem le_roundPositive_iff (hk : minExponent ≤ k) (hlow : (2 : K) ^ (k + precision - 1) ≤ x)
    (hhigh : x < 2 ^ (k + precision)) {n : ℤ} (hn : Even n) :
    n * 2 ^ k ≤ roundPositive precision minExponent x ↔ n * 2 ^ k ≤ x + 2 ^ k / 2 := by
  have hpow : (0 : K) < 2 ^ k := zpow_pos two_pos k
  rw [roundPositive_eq hk hlow hhigh, mul_le_mul_iff_left₀ hpow, Int.cast_le,
    le_roundHalfEven_iff hn, le_div_iff₀ hpow, sub_mul, sub_le_iff_le_add, one_div,
    inv_mul_eq_div]

theorem zpow_lastPlace_le (hx : 0 < x) (hmin : minExponent < lastPlace precision minExponent x) :
    (2 : K) ^ (lastPlace precision minExponent x + precision - 1) ≤ x := by
  apply (Int.zpow_le_iff_le_log Nat.one_lt_two hx).mpr
  rw [lastPlace] at hmin ⊢
  omega

theorem representable_cases (hx : 0 < x) (hprecision : 0 < precision) (hk : minExponent ≤ k)
    {n : ℤ} (hn : |n| ≤ 2 ^ precision) :
    (∃ m : ℤ, (n : K) * 2 ^ k = m * 2 ^ lastPlace precision minExponent x) ∨
      ∃ m : ℤ, (m : K) * 2 ^ lastPlace precision minExponent x ≤ x ∧
        (n : K) * 2 ^ k ≤ m * 2 ^ lastPlace precision minExponent x := by
  rcases le_or_gt (lastPlace precision minExponent x) k with hle | hlt
  · obtain ⟨d, hd⟩ := Int.le.dest hle
    refine .inl ⟨n * 2 ^ d, ?_⟩
    rw [← hd, zpow_add₀ two_ne_zero]
    push_cast
    rw [zpow_natCast]
    ring
  · refine .inr ⟨2 ^ (precision - 1), ?_⟩
    have hpow : ((2 ^ (precision - 1) : ℤ) : K) * 2 ^ lastPlace precision minExponent x =
        2 ^ (lastPlace precision minExponent x + precision - 1) := by
      push_cast
      rw [← zpow_natCast, ← zpow_add₀ two_ne_zero]
      congr 1
      omega
    rw [hpow]
    refine ⟨zpow_lastPlace_le hx (hk.trans_lt hlt), ?_⟩
    have hn' : (n : K) ≤ 2 ^ precision := by
      have := (le_abs_self n).trans hn
      exact_mod_cast this
    calc (n : K) * 2 ^ k ≤ 2 ^ precision * 2 ^ k :=
          mul_le_mul_of_nonneg_right hn' (zpow_pos two_pos k).le
      _ = 2 ^ (precision + k) := by rw [← zpow_natCast, ← zpow_add₀ two_ne_zero]
      _ ≤ 2 ^ (lastPlace precision minExponent x + precision - 1) :=
          zpow_le_zpow_right₀ one_le_two (by omega)

theorem le_roundPositive (hx : 0 < x) (hprecision : 0 < precision) (hk : minExponent ≤ k)
    {n : ℤ} (hn : |n| ≤ 2 ^ precision) (h : n * 2 ^ k ≤ x) :
    n * 2 ^ k ≤ roundPositive precision minExponent x := by
  have hpow : (0 : K) < 2 ^ lastPlace precision minExponent x := zpow_pos two_pos _
  have hle : ∀ m : ℤ, (m : K) * 2 ^ lastPlace precision minExponent x ≤ x →
      (m : K) * 2 ^ lastPlace precision minExponent x ≤ roundPositive precision minExponent x := by
    intro m hm
    rw [roundPositive, mul_le_mul_iff_left₀ hpow, Int.cast_le]
    exact le_roundHalfEven ((le_div_iff₀ hpow).mpr hm)
  rcases representable_cases hx hprecision hk hn with ⟨m, hm⟩ | ⟨m, hm, hnm⟩
  · rw [hm] at h ⊢
    exact hle m h
  · exact hnm.trans (hle m hm)

theorem roundPositive_le (hx : 0 < x) (hprecision : 0 < precision) (hk : minExponent ≤ k)
    {n : ℤ} (hn : |n| ≤ 2 ^ precision) (h : x ≤ n * 2 ^ k) :
    roundPositive precision minExponent x ≤ n * 2 ^ k := by
  have hpow : (0 : K) < 2 ^ lastPlace precision minExponent x := zpow_pos two_pos _
  have hle : ∀ m : ℤ, x ≤ (m : K) * 2 ^ lastPlace precision minExponent x →
      roundPositive precision minExponent x ≤ (m : K) * 2 ^ lastPlace precision minExponent x := by
    intro m hm
    rw [roundPositive, mul_le_mul_iff_left₀ hpow, Int.cast_le]
    exact roundHalfEven_le ((div_le_iff₀ hpow).mpr hm)
  rcases representable_cases hx hprecision hk hn with ⟨m, hm⟩ | ⟨m, hm, hnm⟩
  · rw [hm] at h ⊢
    exact hle m h
  · -- the number is that power of two itself
    exact (hle m (h.trans hnm)).trans (hm.trans h)

omit [IsStrictOrderedRing K] in
theorem round_of_nonneg (hx : 0 ≤ x) :
    round precision minExponent x = roundPositive precision minExponent x :=
  if_neg hx.not_gt

omit [IsStrictOrderedRing K] in
theorem round_of_neg (hx : x < 0) :
    round precision minExponent x = -roundPositive precision minExponent (-x) :=
  if_pos hx

theorem round_neg (x : K) : round precision minExponent (-x) = -round precision minExponent x := by
  rcases lt_trichotomy x 0 with hx | rfl | hx
  · rw [round_of_neg hx, round_of_nonneg (neg_nonneg.mpr hx.le), neg_neg]
  · simp [round, roundPositive, roundHalfEven]
  · rw [round_of_neg (neg_lt_zero.mpr hx), round_of_nonneg hx.le, neg_neg]

end

end GcpMonitor.BinaryRounding
