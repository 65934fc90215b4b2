import GcpMonitor.Python.Float
import Mathlib.Algebra.Order.BigOperators.Group.List
import Mathlib.Data.List.GetD
import Mathlib.Data.Rat.Floor
import Mathlib.Tactic.IntervalCases
import Mathlib.Tactic.MkIffOfInductiveProp

namespace GcpMonitor.Python

def truncate (x : ℚ) : ℤ := if x < 0 then -⌊-x⌋ else ⌊x⌋

def isLeap (year : ℕ) : Bool := year % 4 = 0 && (year % 100 ≠ 0 || year % 400 = 0)

def daysInMonth (year month : ℕ) : ℕ :=
  if month = 2 && isLeap year then 29
  else [31, 28, 31, 30, 31, 30, 31, 31, 30, 31, 30, 31].getD (month - 1) 0

def daysBeforeYear (year : ℕ) : ℕ :=
  let y := year - 1
  y * 365 + y / 4 - y / 100 + y / 400

def daysBeforeMonth (year month : ℕ) : ℕ :=
  ((List.range' 1 (month - 1)).map (daysInMonth year)).sum

@[mk_iff]
structure IsDatetime (year month day hour minute second microsecond : ℕ) : Prop where
  year_pos : 1 ≤ year
  year_le : year ≤ 9999
  month_pos : 1 ≤ month
  month_le : month ≤ 12
  day_pos : 1 ≤ day
  day_le : day ≤ daysInMonth year month
  hour_lt : hour < 24
  minute_lt : minute < 60
  second_lt : second < 60
  microsecond_lt : microsecond < 1000000

structure Datetime where
  year : ℕ
  month : ℕ
  day : ℕ
  hour : ℕ
  minute : ℕ
  second : ℕ
  microsecond : ℕ
  valid : IsDatetime year month day hour minute second microsecond

instance (year month day hour minute second microsecond : ℕ) :
    Decidable (IsDatetime year month day hour minute second microsecond) :=
  decidable_of_iff _ (isDatetime_iff ..).symm

namespace Datetime

def init (year month day hour minute second microsecond : ℕ) : Except PyError Datetime :=
  if h : IsDatetime year month day hour minute second microsecond then
    .ok ⟨year, month, day, hour, minute, second, microsecond, h⟩
  else .error (.valueError none)

def toordinal (t : Datetime) : ℕ :=
  daysBeforeYear t.year + daysBeforeMonth t.year t.month + t.day

def sinceEpoch (t : Datetime) : ℤ :=
  ((((t.toordinal : ℤ) - 719163) * 86400 + t.hour * 3600 + t.minute * 60 + t.second)) * 1000000 +
    t.microsecond

def timestamp (t : Datetime) : ℚ := binary64 (t.sinceEpoch / 1000000)

end Datetime

example : daysBeforeYear 1970 + daysBeforeMonth 1970 1 + 1 = 719163 := by decide

theorem daysInMonth_le (year month : ℕ) : daysInMonth year month ≤ 31 := by
  rw [daysInMonth]
  split_ifs
  · decide
  · generalize month - 1 = i
    by_cases hi : i < 12
    · interval_cases i <;> decide
    · rw [List.getD_eq_default _ _ (by simpa using hi)]
      decide

theorem daysBeforeMonth_le (year month : ℕ) : daysBeforeMonth year month ≤ (month - 1) * 31 := by
  have h := List.sum_le_card_nsmul ((List.range' 1 (month - 1)).map (daysInMonth year)) 31
    (List.forall_mem_map.mpr fun other _ => daysInMonth_le year other)
  rwa [List.length_map, List.length_range', nsmul_eq_mul] at h

theorem Datetime.natAbs_sinceEpoch_lt (t : Datetime) :
    t.sinceEpoch.natAbs < 2 ^ 41 * 1000000 := by
  obtain ⟨-, hyear, -, hmonth, -, hday, hhour, hminute, hsecond, hmicrosecond⟩ := t.valid
  have hdays := daysInMonth_le t.year t.month
  have hbefore := daysBeforeMonth_le t.year t.month
  rw [sinceEpoch, toordinal, daysBeforeYear]
  omega

end GcpMonitor.Python
