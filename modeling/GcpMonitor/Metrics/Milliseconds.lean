import GcpMonitor.Python.Datetime
import Mathlib.Tactic.Positivity

namespace GcpMonitor.Metrics

open Python BinaryRounding

/-- `int(t.timestamp() * 1000)` for an instant in microseconds from 1970 on. -/
def floatMillis (q : ℤ) : ℤ := truncate (binary64 (binary64 (q / 1000000) * 1000))

/-- How often the seconds of so many microseconds are to be doubled until 53 binary digits stand
before the point. -/
def doublings (a : ℕ) : ℕ := 72 - Nat.log 2 (a * 2 ^ 20 / 1000000)

def scaled (a : ℕ) : ℤ := a * 2 ^ doublings a

/-- What is taken off the instant when its seconds are cut to 53 binary digits. -/
def takenOff (a : ℕ) : ℤ := (scaled a).bmod 1000000

def halfUnit (a : ℕ) : ℤ :=
  if scaled a - takenOff a < 1000 * 2 ^ 62 then 1000 * 2 ^ 8 else 1000 * 2 ^ 9

/-- Neither of the two roundings takes the instant to another millisecond. Before 1970 the
millisecond is the one that the instant is cut to, towards 1970. -/
def KeepsMillisecond (q : ℤ) : Prop :=
  let a := q.natAbs
  let rounded := scaled a - takenOff a + halfUnit a
  1000 * ((q / 1000).natAbs * 2 ^ doublings a) ≤ rounded ∧
    rounded < 1000 * (((q / 1000).natAbs + 1) * 2 ^ doublings a)

instance (q : ℤ) : Decidable (KeepsMillisecond q) := inferInstanceAs (Decidable (_ ∧ _))

section

variable {a : ℕ}

theorem doublings_bounds (ha : 0 < a) (hlt : a < 2 ^ 41 * 1000000) :
    12 ≤ doublings a ∧ doublings a ≤ 72 ∧ 2 ^ 52 * 1000000 ≤ scaled a ∧
      scaled a < 2 ^ 53 * 1000000 := by
  have hne : a * 2 ^ 20 / 1000000 ≠ 0 := by omega
  have hlow := Nat.pow_log_le_self 2 hne
  have hhigh := Nat.lt_pow_succ_log_self Nat.one_lt_two (a * 2 ^ 20 / 1000000)
  have hlog : Nat.log 2 (a * 2 ^ 20 / 1000000) < 61 :=
    Nat.log_lt_of_lt_pow hne (by omega)
  rw [scaled, doublings]
  generalize hl : Nat.log 2 (a * 2 ^ 20 / 1000000) = l at *
  have hpow : (2 : ℤ) ^ (72 - l) * 2 ^ l = 2 ^ 72 := by
    rw [← pow_add]
    congr 1
    omega
  have hpos : (0 : ℤ) < 2 ^ l := by positivity
  have hlow' : (2 : ℤ) ^ l * 1000000 ≤ a * 2 ^ 20 := by
    have : 2 ^ l * 1000000 ≤ a * 2 ^ 20 := by omega
    exact_mod_cast this
  have hhigh' : (a : ℤ) * 2 ^ 20 < 2 ^ l * 2 * 1000000 := by
    rw [pow_succ] at hhigh
    have : a * 2 ^ 20 < 2 ^ l * 2 * 1000000 := by omega
    exact_mod_cast this
  refine ⟨by omega, by omega, ?_, ?_⟩
  · refine le_of_mul_le_mul_right ?_ hpos
    rw [mul_assoc (a : ℤ), hpow]
    linarith
  · refine lt_of_mul_lt_mul_right ?_ hpos.le
    rw [mul_assoc (a : ℤ), hpow]
    linarith

theorem abs_takenOff_lt (h : 12 ≤ doublings a) : |takenOff a| < 500000 := by
  obtain ⟨c, hc⟩ : (64 : ℤ) ∣ scaled a := by
    refine Dvd.dvd.mul_left ?_ _
    exact pow_dvd_pow 2 (show 6 ≤ doublings a by omega)
  have hlow := Int.le_bmod (x := scaled a) (m := 1000000) (by omega)
  have hhigh := Int.bmod_lt (x := scaled a) (m := 1000000) (by omega)
  have hdiv := Int.bmod_add_bdiv (scaled a) 1000000
  -- sixty-four divides the scaled seconds, but not five hundred thousand
  rw [abs_lt, takenOff]
  push_cast at hdiv
  omega

theorem takenOff_add (a : ℕ) : takenOff a + 1000000 * (scaled a).bdiv 1000000 = scaled a :=
  Int.bmod_add_bdiv _ _

theorem scaled_eq (a : ℕ) : (a : ℚ) / 1000000 / 2 ^ (-(doublings a : ℤ)) = scaled a / 1000000 := by
  rw [zpow_neg, zpow_natCast, div_inv_eq_mul, scaled]
  push_cast
  ring

theorem two_zpow_neg_add (s k : ℕ) : (2 : ℚ) ^ (-(s : ℤ) + k) = 2 ^ k / 2 ^ s := by
  rw [zpow_add₀ two_ne_zero, zpow_neg, zpow_natCast, zpow_natCast, inv_mul_eq_div]

theorem binary64_seconds (ha : 0 < a) (hlt : a < 2 ^ 41 * 1000000) :
    binary64 ((a : ℚ) / 1000000) = (scaled a).bdiv 1000000 / 2 ^ doublings a := by
  obtain ⟨hmin, hmax, hlow, hhigh⟩ := doublings_bounds ha hlt
  have hpow : (0 : ℚ) < 2 ^ doublings a := by positivity
  have hscaled : (scaled a : ℚ) = a * 2 ^ doublings a := by
    rw [scaled]
    push_cast
    rfl
  have hnear :
      |(a : ℚ) / 1000000 / 2 ^ (-(doublings a : ℤ)) - (scaled a).bdiv 1000000| < 1 / 2 := by
    have hdiv : (takenOff a : ℚ) + 1000000 * (scaled a).bdiv 1000000 = scaled a := by
      exact_mod_cast takenOff_add a
    have habs : |(takenOff a : ℚ)| < 500000 := by exact_mod_cast abs_takenOff_lt hmin
    have heq : (scaled a : ℚ) / 1000000 - (scaled a).bdiv 1000000 = takenOff a / 1000000 := by
      rw [← hdiv]
      ring
    rw [scaled_eq, heq, abs_div, abs_of_pos (show (0 : ℚ) < 1000000 by norm_num)]
    linarith
  rw [binary64, round_of_nonneg (by positivity), roundPositive_of_near _ _ _ hnear, zpow_neg,
    zpow_natCast, div_eq_mul_inv]
  · omega
  · have hexp : -(doublings a : ℤ) + (53 : ℕ) - 1 = -(doublings a : ℤ) + (52 : ℕ) := by
      push_cast
      ring
    rw [hexp, two_zpow_neg_add, div_le_div_iff₀ hpow (by norm_num), ← hscaled]
    exact_mod_cast hlow
  · rw [two_zpow_neg_add, div_lt_div_iff₀ (by norm_num) hpow, ← hscaled]
    exact_mod_cast hhigh

theorem le_binary64_thousandfold {n : ℤ} {s g : ℕ} (hg : g + 1 < s) (hs : s ≤ 72)
    (hlow : 2 ^ (53 + g) ≤ 1000 * n) (hhigh : 1000 * n < 2 ^ (54 + g)) (t : ℤ) :
    (t : ℚ) ≤ binary64 (n / 2 ^ s * 1000) ↔ t * 2 ^ s ≤ 1000 * n + 2 ^ g := by
  have hpow : (0 : ℚ) < 2 ^ s := by positivity
  have hn : (0 : ℚ) ≤ n / 2 ^ s * 1000 := by
    have : 0 ≤ n := by
      have : (0 : ℤ) < 2 ^ (53 + g) := by positivity
      omega
    positivity
  have hmul : (n : ℚ) / 2 ^ s * 1000 = (1000 * n : ℤ) / 2 ^ s := by
    push_cast
    ring
  have hunit : (t * 2 ^ (s - (g + 1)) : ℤ) * (2 : ℚ) ^ (-(s : ℤ) + (g + 1 : ℕ)) = t := by
    have hsplit : (2 : ℚ) ^ (s - (g + 1)) * 2 ^ (g + 1) = 2 ^ s := by
      rw [← pow_add]
      congr 1
      omega
    rw [two_zpow_neg_add]
    push_cast
    rw [mul_assoc, mul_div_assoc', hsplit, div_self hpow.ne', mul_one]
  have heven : Even (t * 2 ^ (s - (g + 1)) : ℤ) := by
    refine Even.mul_left ?_ t
    exact Even.pow_of_ne_zero even_two (by omega)
  have hstep : (t : ℚ) ≤ (1000 * n : ℤ) / 2 ^ s + 2 ^ (-(s : ℤ) + (g + 1 : ℕ)) / 2 ↔
      t * 2 ^ s ≤ 1000 * n + 2 ^ g := by
    rw [two_zpow_neg_add, pow_succ, div_right_comm, mul_div_cancel_right₀ _ two_ne_zero,
      ← add_div, le_div_iff₀ hpow]
    exact_mod_cast Iff.rfl
  rw [← hstep, binary64, round_of_nonneg hn, hmul]
  conv_lhs => rw [← hunit]
  rw [le_roundPositive_iff _ _ _ heven, hunit]
  · omega
  · have hexp : -(s : ℤ) + (g + 1 : ℕ) + (53 : ℕ) - 1 = -(s : ℤ) + (53 + g : ℕ) := by
      push_cast
      ring
    rw [hexp, two_zpow_neg_add]
    gcongr
    exact_mod_cast hlow
  · have hexp : -(s : ℤ) + (g + 1 : ℕ) + (53 : ℕ) = -(s : ℤ) + (54 + g : ℕ) := by
      push_cast
      ring
    rw [hexp, two_zpow_neg_add]
    gcongr
    exact_mod_cast hhigh

theorem le_binary64_millis (ha : 0 < a) (hlt : a < 2 ^ 41 * 1000000) (t : ℤ) :
    (t : ℚ) ≤ binary64 (binary64 ((a : ℚ) / 1000000) * 1000) ↔
      1000 * (t * 2 ^ doublings a) ≤ scaled a - takenOff a + halfUnit a := by
  obtain ⟨hmin, hmax, hlow, hhigh⟩ := doublings_bounds ha hlt
  have hdiv := takenOff_add a
  have habs := abs_lt.mp (abs_takenOff_lt hmin)
  rw [binary64_seconds ha hlt, halfUnit]
  generalize (scaled a).bdiv 1000000 = n at hdiv ⊢
  have hn : 2 ^ 52 ≤ n ∧ n ≤ 2 ^ 53 := by omega
  split_ifs with hunit
  · rw [le_binary64_thousandfold (g := 8) (by omega) hmax (by omega) (by omega)]
    omega
  · rw [le_binary64_thousandfold (g := 9) (by omega) hmax (by omega) (by omega)]
    omega

theorem truncate_neg (x : ℚ) : truncate (-x) = -truncate x := by
  rw [truncate, truncate]
  rcases lt_trichotomy x 0 with h | rfl | h
  · rw [if_neg (by linarith), if_pos h, neg_neg]
  · simp
  · rw [if_pos (by linarith), if_neg h.not_gt, neg_neg]

theorem truncate_eq_iff {x : ℚ} (hx : 0 ≤ x) (t : ℤ) :
    truncate x = t ↔ (t : ℚ) ≤ x ∧ ¬ ((t + 1 : ℤ) : ℚ) ≤ x := by
  rw [truncate, if_neg hx.not_gt, Int.floor_eq_iff, not_le]
  push_cast
  rfl

theorem floatMillis_neg (q : ℤ) : floatMillis (-q) = -floatMillis q := by
  rw [floatMillis, floatMillis]
  push_cast
  rw [neg_div, binary64, binary64, round_neg, neg_mul, round_neg, truncate_neg]
  rfl

theorem floatMillis_natCast_eq_iff (ha : 0 < a) (hlt : a < 2 ^ 41 * 1000000) (t : ℤ) :
    floatMillis a = t ↔
      1000 * (t * 2 ^ doublings a) ≤ scaled a - takenOff a + halfUnit a ∧
        scaled a - takenOff a + halfUnit a < 1000 * ((t + 1) * 2 ^ doublings a) := by
  have hle := le_binary64_millis ha hlt
  have hnonneg : (0 : ℚ) ≤ binary64 (binary64 ((a : ℚ) / 1000000) * 1000) := by
    obtain ⟨hmin, -, hlow, -⟩ := doublings_bounds ha hlt
    have habs := abs_lt.mp (abs_takenOff_lt hmin)
    have hunit : 0 ≤ halfUnit a := by
      rw [halfUnit]
      split_ifs <;> norm_num
    have := (hle 0).mpr (by omega)
    exact_mod_cast this
  rw [floatMillis, Int.cast_natCast, truncate_eq_iff hnonneg, hle, hle, not_le]

end

theorem floatMillis_eq_iff {q : ℤ} (hq : q.natAbs < 2 ^ 41 * 1000000) :
    floatMillis q = q / 1000 ↔ KeepsMillisecond q := by
  rcases lt_trichotomy q 0 with h | rfl | h
  · have hpos : 0 < q.natAbs := by omega
    have habs : q = -(q.natAbs : ℤ) := by omega
    have hmillis : ((q / 1000).natAbs : ℤ) = -(q / 1000) := by omega
    rw [KeepsMillisecond, ← floatMillis_natCast_eq_iff hpos hq, hmillis]
    conv_lhs => rw [habs, floatMillis_neg]
    omega
  · decide +kernel
  · have hpos : 0 < q.natAbs := by omega
    have habs : (q.natAbs : ℤ) = q := by omega
    have hmillis : ((q / 1000).natAbs : ℤ) = q / 1000 := by omega
    rw [KeepsMillisecond, ← floatMillis_natCast_eq_iff hpos hq, hmillis, habs]

theorem keepsMillisecond_of_second {n : ℤ} (hn : n.natAbs < 2 ^ 41) :
    KeepsMillisecond (n * 1000000) := by
  rcases eq_or_ne n 0 with rfl | hne
  · decide +kernel
  · have hmin := (doublings_bounds (a := (n * 1000000).natAbs) (by omega) (by omega)).1
    have hpow : (2 : ℤ) ^ 12 ≤ 2 ^ doublings (n * 1000000).natAbs :=
      pow_le_pow_right₀ (by norm_num) hmin
    have hmillis : (n * 1000000 / 1000).natAbs = n.natAbs * 1000 := by omega
    have hscaled : scaled (n * 1000000).natAbs =
        1000000 * (n.natAbs * 2 ^ doublings (n * 1000000).natAbs) := by
      rw [scaled, Int.natAbs_mul]
      push_cast
      ring
    have htaken : takenOff (n * 1000000).natAbs = 0 := by
      rw [takenOff, hscaled]
      exact Int.bmod_eq_zero_of_dvd (Dvd.intro _ rfl)
    have hunit : 0 ≤ halfUnit (n * 1000000).natAbs ∧
        halfUnit (n * 1000000).natAbs ≤ 1000 * 2 ^ 9 := by
      rw [halfUnit]
      split_ifs <;> norm_num
    rw [KeepsMillisecond, hmillis, htaken, hscaled]
    generalize (2 : ℤ) ^ doublings (n * 1000000).natAbs = p at hpow ⊢
    push_cast
    constructor <;> linarith

theorem keepsMillisecond_of_recent {q : ℤ} (hlow : 1099511628 * 1000000 ≤ q)
    (hhigh : q < 2 ^ 31 * 1000000) : KeepsMillisecond q := by
  have hdoublings : doublings q.natAbs = 22 := by
    rw [doublings, Nat.log_eq_of_pow_le_of_lt_pow (m := 50) (by omega) (by omega)]
  have habs := abs_lt.mp (abs_takenOff_lt (a := q.natAbs) (by omega))
  have hdiv := takenOff_add q.natAbs
  have hscaled : scaled q.natAbs = q * 4194304 := by
    rw [scaled, hdoublings]
    omega
  rw [hscaled] at hdiv
  -- from this instant on half a unit of the product is more than a thousand times that of the
  -- seconds, so that the product is rounded back to the millisecond
  rw [KeepsMillisecond, halfUnit, hscaled, hdoublings, if_neg (by omega)]
  omega

example : floatMillis 1001000 = 1000 := by decide +kernel

end GcpMonitor.Metrics
