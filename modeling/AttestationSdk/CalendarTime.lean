import Mathlib.Tactic.Common

/-! Calendar times of the years 0 to 9999 and their place on the 64-bit second
count from 1970, as `timegm` computes it. -/
namespace CalendarTime

/-- Broken-down time. Days past the end of a month spill into the next one. -/
structure Tm where
  year : Nat
  mon : Nat
  mday : Nat
  hour : Nat
  min : Nat
  sec : Nat
  year_le : year ≤ 9999
  mon_lt : mon < 12
  mday_pos : 1 ≤ mday
  mday_le : mday ≤ 31
  hour_lt : hour < 24
  min_lt : min < 60
  sec_lt : sec < 60
  deriving Repr, DecidableEq

def leapYear (year : Nat) : Bool :=
  year % 4 = 0 && (year % 100 ≠ 0 || year % 400 = 0)

/-- Days of a common year before each month, counted from January as 0. -/
def daysBeforeMonth : Nat → Nat
  | 0 => 0 | 1 => 31 | 2 => 59 | 3 => 90 | 4 => 120 | 5 => 151
  | 6 => 181 | 7 => 212 | 8 => 243 | 9 => 273 | 10 => 304 | _ => 334

def dayOfYear (tm : Tm) : Nat :=
  daysBeforeMonth tm.mon + (if leapYear tm.year && 2 ≤ tm.mon then 1 else 0) + (tm.mday - 1)

/-- Days from the first of January of the year 0. -/
def dayNumber (tm : Tm) : Nat :=
  365 * tm.year + (tm.year + 3) / 4 - (tm.year + 99) / 100 + (tm.year + 399) / 400 + dayOfYear tm

def timegm (tm : Tm) : Int :=
  ((dayNumber tm : Int) - 719528) * 86400 + (tm.hour * 3600 + tm.min * 60 + tm.sec : Nat)

/-- The range of a signed 64-bit second count. -/
def InTimeT (t : Int) : Prop := -9223372036854775808 ≤ t ∧ t ≤ 9223372036854775807

instance (t : Int) : Decidable (InTimeT t) := inferInstanceAs (Decidable (_ ∧ _))

theorem daysBeforeMonth_le (m : Nat) : daysBeforeMonth m ≤ 334 := by
  unfold daysBeforeMonth
  split <;> omega

theorem dayOfYear_le (tm : Tm) : dayOfYear tm ≤ 365 := by
  have hm := daysBeforeMonth_le tm.mon
  have hd := tm.mday_le
  unfold dayOfYear
  split <;> omega

theorem timegm_bounds (tm : Tm) : -62167219200 ≤ timegm tm ∧ timegm tm < 253402387200 := by
  have hy := tm.year_le
  have hd := dayOfYear_le tm
  have hh := tm.hour_lt
  have hm := tm.min_lt
  have hs := tm.sec_lt
  unfold timegm dayNumber
  constructor <;> omega

/-- Every representable calendar time leaves room for the sums of day-sized
offsets taken of it. -/
theorem inTimeT_timegm_add (tm : Tm) (d : Int) (h : -86400 ≤ d) (h' : d ≤ 86400) :
    InTimeT (timegm tm + d) := by
  have hb := timegm_bounds tm
  constructor <;> omega

end CalendarTime
