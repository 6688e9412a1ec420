import AttestationSdk.CalendarTime
import AttestationSdk.Gregorian

/-! The UTC conversions that stand in for the C library's on Windows: `gmtime_r`
gives the one broken-down time of every second whose year a C `int` holds, and
`timegm` is its inverse and agrees with the POSIX one. -/
namespace WindowsTime
open CalendarTime (InTimeT)
open Gregorian

/-- `struct tm`. -/
structure Tm where
  tmSec : Int
  tmMin : Int
  tmHour : Int
  tmMday : Int
  tmMon : Int
  tmYear : Int
  tmWday : Int := 0
  tmYday : Int := 0
  deriving Repr, DecidableEq

def InInt (n : Int) : Prop := -2147483648 ≤ n ∧ n ≤ 2147483647

instance (n : Int) : Decidable (InInt n) := inferInstanceAs (Decidable (_ ∧ _))

/-- What `gmtime_r` works out of the number of a day. -/
structure Civil where
  z : Int
  era : Int
  doe : Int
  yoe : Int
  doy : Int
  mp : Int
  day : Int
  month : Int
  year : Int

def civil (days : Int) : Civil :=
  let z := days + 719468
  let era := (if z ≥ 0 then z else z - 146096).tdiv 146097
  let doe := z - era * 146097
  let yoe := (doe - doe.tdiv 1460 + doe.tdiv 36524 - doe.tdiv 146096).tdiv 365
  let doy := doe - (365 * yoe + yoe.tdiv 4 - yoe.tdiv 100)
  let mp := (5 * doy + 2).tdiv 153
  let day := doy - (153 * mp + 2).tdiv 5 + 1
  let month := if mp < 10 then mp + 3 else mp - 9
  let year := yoe + era * 400 + (if month ≤ 2 then 1 else 0)
  { z, era, doe, yoe, doy, mp, day, month, year }

/-- `days_before_month`, at the index `month - 1`. -/
def daysBefore : List Int := [0, 31, 59, 90, 120, 151, 181, 212, 243, 273, 304, 334]

/-- The days from the epoch and the seconds of the last of them. -/
def dayAndSecond (timestamp : Int) : Int × Int :=
  let days := timestamp.tdiv 86400
  let seconds := timestamp.tmod 86400
  if seconds < 0 then (days - 1, seconds + 86400) else (days, seconds)

/-- The record that `gmtime_r` fills in for a day and a second of it. -/
def fields (days seconds : Int) : Tm :=
  let c := civil days
  let leap := c.year.tmod 4 = 0 ∧ (c.year.tmod 100 ≠ 0 ∨ c.year.tmod 400 = 0)
  let weekday := (days + 4).tmod 7
  { tmYear := c.year - 1900
    tmMon := c.month - 1
    tmMday := c.day
    tmHour := seconds.tdiv 3600
    tmMin := (seconds.tmod 3600).tdiv 60
    tmSec := seconds.tmod 60
    tmWday := if weekday < 0 then weekday + 7 else weekday
    tmYday := daysBefore.getD (c.month - 1).toNat 0 + c.day - 1 +
      (if leap ∧ c.month > 2 then 1 else 0) }

def gmtimeR (timestamp : Int) : Option Tm :=
  let (days, seconds) := dayAndSecond timestamp
  let year := (civil days).year
  if year - 1900 > 2147483647 ∨ year - 1900 < -2147483648 then none else some (fields days seconds)

def timegm (value : Tm) : Int :=
  let year := value.tmYear + 1900
  let month := value.tmMon + 1
  let year := if month ≤ 2 then year - 1 else year
  let era := (if year ≥ 0 then year else year - 399).tdiv 400
  let yoe := year - era * 400
  let doy := (153 * (if month > 2 then month - 3 else month + 9) + 2).tdiv 5 + value.tmMday - 1
  let doe := yoe * 365 + yoe.tdiv 4 - yoe.tdiv 100 + doy
  let days := era * 146097 + doe - 719468
  days * 86400 + value.tmHour * 3600 + value.tmMin * 60 + value.tmSec

example : gmtimeR 253402300799 = some ⟨59, 59, 23, 31, 11, 8099, 5, 364⟩ := by decide
example : gmtimeR (-1) = some ⟨59, 59, 23, 31, 11, 69, 3, 364⟩ := by decide

/-- The division that the code rounds down by hand. -/
theorem tdiv_floor {n d k : Int} (hd : 0 < d) (hk : k = d - 1) :
    (if n ≥ 0 then n else n - k).tdiv d = n / d := by
  subst hk
  split
  next h => exact Int.tdiv_eq_ediv_of_nonneg h
  next h =>
    rw [show n - (d - 1) = -(-n + (d - 1)) by omega, Int.neg_tdiv,
      Int.tdiv_eq_ediv_of_nonneg (by omega)]
    have hl := Int.ediv_mul_le (-n + (d - 1)) (Int.ne_of_gt hd)
    have hu := Int.lt_ediv_add_one_mul_self (-n + (d - 1)) hd
    symm
    rw [Int.ediv_eq_iff_of_pos hd]
    constructor <;> linarith

/-- The remainder that the code brings above zero by hand. -/
theorem tmod_floor {n d : Int} (hd : 0 < d) :
    (if n.tmod d < 0 then n.tmod d + d else n.tmod d) = n % d := by
  have hlt := Int.tmod_lt_of_pos n hd
  have hmod := Int.tmod_add_mul_tdiv n d
  have hgt : -d < n.tmod d := by
    have := Int.tmod_lt_of_pos (-n) hd
    rw [Int.neg_tmod] at this
    omega
  split
  next h =>
    refine ((Int.ediv_emod_unique (q := n.tdiv d - 1) hd).2 ⟨?_, by omega, by omega⟩).2.symm
    linarith
  next h =>
    exact ((Int.ediv_emod_unique (q := n.tdiv d) hd).2 ⟨hmod, by omega, by omega⟩).2.symm

/-- The years of an era come from its division into centuries, groups of four years and years,
of which only the last may be longer. -/
theorem yearOfEra {c q s e doe : Int} (hc : 0 ≤ c) (hc' : c ≤ 3) (hq : 0 ≤ q) (hq' : q ≤ 24)
    (hs : 0 ≤ s) (hs' : s ≤ 3) (he : 0 ≤ e) (he' : e ≤ 365)
    (hl : e = 365 → s = 3 ∧ (q = 24 → c = 3)) (hD : doe = 36524 * c + 1461 * q + 365 * s + e) :
    (doe - doe / 1460 + doe / 36524 - doe / 146096) / 365 = 100 * c + 4 * q + s := by
  have hf : doe / 146096 = 0 ∧ doe / 36524 = c ∧ doe < 146096 ∨ doe = 146096 := by omega
  have hk : doe / 1460 = 25 * c + q ∧ e ≤ 364 ∨ doe / 1460 = 25 * c + q + 1 ∧ 1 ≤ e := by omega
  rcases hf with ⟨hf, hd, -⟩ | rfl
  · rcases hk with ⟨hk, -⟩ | ⟨hk, -⟩ <;> rw [hf, hd, hk] <;> omega
  · omega

theorem exists_century {doe : Int} (h : 0 ≤ doe) (h' : doe < 146097) :
    ∃ c r : Int, 0 ≤ c ∧ c ≤ 3 ∧ 0 ≤ r ∧ (r < 36524 ∨ r = 36524 ∧ c = 3) ∧ doe = 36524 * c + r := by
  rcases Int.lt_or_le doe 146096 with hlt | hle
  · exact ⟨doe / 36524, doe % 36524, by omega, by omega, by omega, by omega, by omega⟩
  · exact ⟨3, 36524, by omega, by omega, by omega, by omega, by omega⟩

theorem exists_group {r : Int} (h : 0 ≤ r) (h' : r ≤ 36524) :
    ∃ q r' : Int, 0 ≤ q ∧ q ≤ 24 ∧ 0 ≤ r' ∧ r' < 1461 ∧ r = 1461 * q + r' :=
  ⟨r / 1461, r % 1461, by omega, by omega, by omega, by omega, by omega⟩

theorem exists_year {r : Int} (h : 0 ≤ r) (h' : r < 1461) :
    ∃ s e : Int, 0 ≤ s ∧ s ≤ 3 ∧ 0 ≤ e ∧ (e < 365 ∨ e = 365 ∧ s = 3) ∧ r = 365 * s + e := by
  rcases Int.lt_or_le r 1460 with hlt | hle
  · exact ⟨r / 365, r % 365, by omega, by omega, by omega, by omega, by omega⟩
  · exact ⟨3, 365, by omega, by omega, by omega, by omega, by omega⟩

theorem dayOfEra {c q s : Int} (e : Int) (hq : 0 ≤ q) (hq' : q ≤ 24) (hs : 0 ≤ s) (hs' : s ≤ 3) :
    36524 * c + 1461 * q + 365 * s + e = 365 * (100 * c + 4 * q + s) +
      (100 * c + 4 * q + s) / 4 - (100 * c + 4 * q + s) / 100 + e := by
  have : (100 * c + 4 * q + s) / 4 = 25 * c + q := by omega
  have : (100 * c + 4 * q + s) / 100 = c := by omega
  omega

theorem leap_lastYear {c q : Int} (hq : 0 ≤ q) (hq' : q ≤ 24) (h : q = 24 → c = 3) :
    Leap (100 * c + 4 * q + 3 + 1) := by
  unfold Leap
  omega

/-- Every day of an era is a day of one of its years. -/
theorem exists_yearOfEra {doe : Int} (h : 0 ≤ doe) (h' : doe < 146097) :
    ∃ yoe : Int, ∃ doy : Nat, 0 ≤ yoe ∧ yoe ≤ 399 ∧
      (doe - doe / 1460 + doe / 36524 - doe / 146096) / 365 = yoe ∧
      doe = 365 * yoe + yoe / 4 - yoe / 100 + doy ∧ (doy < 365 ∨ doy = 365 ∧ Leap (yoe + 1)) := by
  obtain ⟨c, r, hc, hc', hr, hr', hD⟩ := exists_century h h'
  obtain ⟨q, r', hq, hq', hr1, hr2, rfl⟩ := exists_group hr (by rcases hr' with h | h <;> omega)
  obtain ⟨s, e, hs, hs', he, hl, rfl⟩ := exists_year hr1 hr2
  replace hD : doe = 36524 * c + 1461 * q + 365 * s + e := by
    rw [hD]
    simp only [add_assoc]
  clear h h'
  have hlast : e = 365 → s = 3 ∧ (q = 24 → c = 3) := by
    clear hD
    omega
  have hle : e ≤ 365 := by rcases hl with h | ⟨h, -⟩ <;> omega
  have hy := yearOfEra hc hc' hq hq' hs hs' he hle hlast hD
  obtain ⟨k, rfl⟩ := Int.eq_ofNat_of_zero_le he
  refine ⟨100 * c + 4 * q + s, k, by omega, by omega, hy, hD.trans (dayOfEra k hq hq' hs hs'), ?_⟩
  rcases hl with hl | ⟨hl, rfl⟩
  · exact .inl (by omega)
  · exact .inr ⟨by omega, leap_lastYear hq hq' (hlast hl).2⟩

/-- What the first divisions come to, below the era's first day. -/
theorem civil_eq {days z doe yoe : Int} {doy : Nat} (hz : z = days + 719468)
    (hdoe : doe = z - z / 146097 * 146097)
    (hyoe : (doe - doe / 1460 + doe / 36524 - doe / 146096) / 365 = yoe) (hy : 0 ≤ yoe)
    (hdoy : doe = 365 * yoe + yoe / 4 - yoe / 100 + doy) :
    (civil days).era = z / 146097 ∧ (civil days).yoe = yoe ∧ (civil days).doy = doy ∧
      (civil days).mp = Date.marchMonth doy := by
  obtain ⟨c, hc⟩ : ∃ c, c = civil days := ⟨_, rfl⟩
  have h0 : 0 ≤ doe := by omega
  have hera : c.era = z / 146097 := by
    rw [hc, ← tdiv_floor (n := z) (k := 146096) (by decide) (by decide), hz]
    rfl
  have hd : c.doe = doe := by
    rw [hdoe, ← hera, hz, hc]
    rfl
  have hyoe' : c.yoe = yoe := by
    have heq : c.yoe = (c.doe - c.doe.tdiv 1460 + c.doe.tdiv 36524 - c.doe.tdiv 146096).tdiv 365 :=
      hc ▸ rfl
    rw [heq, hd, Int.tdiv_eq_ediv_of_nonneg h0, Int.tdiv_eq_ediv_of_nonneg h0,
      Int.tdiv_eq_ediv_of_nonneg h0, Int.tdiv_eq_ediv_of_nonneg (by omega), hyoe]
  have hdoy' : c.doy = doy := by
    have heq : c.doy = c.doe - (365 * c.yoe + c.yoe.tdiv 4 - c.yoe.tdiv 100) := hc ▸ rfl
    rw [heq, hd, hyoe', Int.tdiv_eq_ediv_of_nonneg hy, Int.tdiv_eq_ediv_of_nonneg hy]
    omega
  have hmp : c.mp = Date.marchMonth doy := by
    have heq : c.mp = (5 * c.doy + 2).tdiv 153 := hc ▸ rfl
    rw [heq, hdoy', Int.tdiv_eq_ediv_of_nonneg (by omega), Date.marchMonth]
    omega
  rw [← hc]
  exact ⟨hera, hyoe', hdoy', hmp⟩

/-- `gmtime_r` finds the date of the day. -/
theorem civil_date (days : Int) : ∃ date : Date, date.number = days + 719528 ∧
    (civil days).year = date.year ∧ (civil days).month = date.month + 1 ∧
    (civil days).day = date.day := by
  obtain ⟨z, hz⟩ : ∃ z, z = days + 719468 := ⟨_, rfl⟩
  obtain ⟨doe, hdoe⟩ : ∃ doe, doe = z - z / 146097 * 146097 := ⟨_, rfl⟩
  have h0 : 0 ≤ doe := by omega
  obtain ⟨yoe, doy, hy, hy', hyoe, hdoy, hleap⟩ := exists_yearOfEra h0 (by omega)
  obtain ⟨hera, hyoe', hdoy', hmp⟩ := civil_eq hz hdoe hyoe hy hdoy
  have hleap' : doy < 365 ∨ doy = 365 ∧ Leap (yoe + z / 146097 * 400 + 1) := by
    unfold Leap at hleap ⊢
    omega
  have hyear : (civil days).year = (civil days).yoe + (civil days).era * 400 +
      if (civil days).month ≤ 2 then 1 else 0 := rfl
  have hmonth : (civil days).month =
      if (civil days).mp < 10 then (civil days).mp + 3 else (civil days).mp - 9 := rfl
  have hday : (civil days).day =
      (civil days).doy - (153 * (civil days).mp + 2).tdiv 5 + 1 := rfl
  rw [hmp, hdoy', Int.tdiv_eq_ediv_of_nonneg (by omega)] at hday
  rw [hmp] at hmonth
  rw [hyoe', hera] at hyear
  have hle : (153 * Date.marchMonth doy + 2) / 5 ≤ doy := by
    unfold Date.marchMonth
    omega
  refine ⟨Date.ofMarch (yoe + z / 146097 * 400) doy hleap', ?_, ?_⟩
  · rw [Date.number_ofMarch, marchStart_era, marchStart]
    omega
  · unfold Date.ofMarch
    split
    next h =>
      rw [if_pos (by omega)] at hmonth
      rw [if_neg (by omega)] at hyear
      simp only [Date.marchDay]
      omega
    next h =>
      rw [if_neg (by omega)] at hmonth
      rw [if_pos (by have := Date.marchDay_le_winter hleap' (by omega); omega)] at hyear
      simp only [Date.marchDay]
      omega

theorem january_lt : 0 < 12 := Nat.succ_pos 11

theorem first_pos : 1 ≤ 1 := Nat.le_refl 1

theorem first_le : 1 ≤ monthLength 1970 0 :=
  Nat.le_trans (Nat.succ_pos 27) (monthLength_pos 1970 0)

def epoch : Date := ⟨1970, 0, 1, january_lt, first_pos, first_le⟩

theorem epoch_number : epoch.number = 719528 := by decide

/-- The fields of a second of the calendar. -/
def ofMoment (m : Moment) : Tm where
  tmSec := m.second % 60
  tmMin := m.second % 3600 / 60
  tmHour := m.second / 3600
  tmMday := m.date.day
  tmMon := m.date.month
  tmYear := m.date.year - 1900
  tmWday := (m.date.number - epoch.number + 4) % 7
  tmYday := m.date.yearDay

theorem leap_iff (year : Int) :
    (year.tmod 4 = 0 ∧ (year.tmod 100 ≠ 0 ∨ year.tmod 400 = 0)) ↔ Leap year := by
  unfold Leap
  simp only [ne_eq, ← Int.dvd_iff_tmod_eq_zero, ← Int.dvd_iff_emod_eq_zero]

theorem daysBefore_get (year : Int) {m : Nat} (h : m < 12) :
    daysBefore.getD m 0 + (if Leap year ∧ 2 ≤ m then 1 else 0) = daysBeforeMonth year m := by
  have hm : m = 0 ∨ m = 1 ∨ m = 2 ∨ m = 3 ∨ m = 4 ∨ m = 5 ∨ m = 6 ∨ m = 7 ∨ m = 8 ∨ m = 9 ∨
      m = 10 ∨ m = 11 := by omega
  by_cases hl : Leap year <;>
  rcases hm with rfl | rfl | rfl | rfl | rfl | rfl | rfl | rfl | rfl | rfl | rfl | rfl <;>
    simp [daysBefore, daysBeforeMonth, monthLength, hl]

theorem dayAndSecond_eq (t : Int) : dayAndSecond t = (t / 86400, t % 86400) := by
  have hs := tmod_floor (n := t) (d := 86400) (by decide)
  have hm := Int.tmod_add_mul_tdiv t 86400
  unfold dayAndSecond
  split at hs
  next h =>
    rw [if_pos h, hs]
    congr 1
    omega
  next h =>
    rw [if_neg h, hs]
    congr 1
    omega

theorem fields_eq {days : Int} {m : Moment} (hn : m.date.number = days + 719528) :
    (civil days).year = m.date.year ∧ fields days m.second = ofMoment m := by
  obtain ⟨date, hn', hy, hm, hd⟩ := civil_date days
  obtain rfl : date = m.date := Date.number_injective (hn'.trans hn.symm)
  have hp := m.date.day_pos
  have h0 : (0 : Int) ≤ m.second := by omega
  have hb := daysBefore_get m.date.year m.date.month_lt
  refine ⟨hy, ?_⟩
  unfold fields ofMoment
  simp only [hy, hm, hd, leap_iff]
  congr 1
  · omega
  · rw [tmod_floor (by decide), hn, epoch_number]
    congr 1
    omega
  · rw [show ((m.date.month : Int) + 1 - 1).toNat = m.date.month by omega, Date.yearDay]
    have hc : (m.date.month : Int) + 1 > 2 ↔ 2 ≤ m.date.month := by omega
    simp only [hc]
    omega

/-- Every second has its moment of the calendar, whose fields `gmtime_r` gives. -/
theorem exists_moment (t : Int) : ∃ m : Moment, m.since epoch = t ∧
    gmtimeR t = if InInt (m.date.year - 1900) then some (ofMoment m) else none := by
  obtain ⟨date, hn, -⟩ := civil_date (t / 86400)
  obtain ⟨m, hm, hd, hs⟩ : ∃ m : Moment,
      m.since epoch = t ∧ m.date = date ∧ (m.second : Int) = t % 86400 := by
    refine ⟨⟨date, (t % 86400).toNat, by omega⟩, ?_, rfl, by simp only; omega⟩
    rw [Moment.since, epoch_number, hn]
    simp only
    omega
  subst hd
  obtain ⟨hy, hf⟩ := fields_eq hn
  refine ⟨m, hm, ?_⟩
  unfold gmtimeR
  simp only [dayAndSecond_eq, hy, ← hs, hf]
  split
  · rw [if_neg (by unfold InInt; omega)]
  · rw [if_pos (by unfold InInt; omega)]

/-- `gmtime_r` gives the fields of the one second of the calendar counted so, when an `int` holds
its year, and nothing otherwise. -/
theorem gmtimeR_iff {t : Int} {tm : Tm} : gmtimeR t = some tm ↔
    ∃ m : Moment, m.since epoch = t ∧ InInt (m.date.year - 1900) ∧ tm = ofMoment m := by
  obtain ⟨m, hm, hrun⟩ := exists_moment t
  rw [hrun]
  constructor
  · split
    next hi =>
      rintro ⟨⟩
      exact ⟨m, hm, hi, rfl⟩
    · rintro ⟨⟩
  · rintro ⟨n, hn, hi, rfl⟩
    obtain rfl : n = m := Moment.since_injective (hn.trans hm.symm)
    rw [if_pos hi]

/-- The month of a date and how far its year has run, from March. -/
theorem yearStart_march (year : Int) {m : Nat} (h : m < 12) :
    yearStart year + daysBeforeMonth year m =
      marchStart (if m < 2 then year - 1 else year) +
        ((153 * (if m < 2 then m + 10 else m - 2) + 2) / 5 : Nat) := by
  split
  next hm => exact daysBeforeMonth_winter year hm
  next hm =>
    rw [daysBeforeMonth_march year (by omega) h, marchStart_eq]
    omega

/-- The day that `timegm` counts up to, in a year from March and its months. -/
theorem timegm_day {y k : Int} (hk : 0 ≤ k) (d : Int) :
    (if y ≥ 0 then y else y - 399).tdiv 400 * 146097 +
      ((y - (if y ≥ 0 then y else y - 399).tdiv 400 * 400) * 365 +
        (y - (if y ≥ 0 then y else y - 399).tdiv 400 * 400).tdiv 4 -
        (y - (if y ≥ 0 then y else y - 399).tdiv 400 * 400).tdiv 100 +
        ((153 * k + 2).tdiv 5 + d - 1)) - 719468 =
      marchStart y + (153 * k + 2) / 5 + d - 1 - 719528 := by
  rw [tdiv_floor (by decide) (by decide)]
  have hyoe : 0 ≤ y - y / 400 * 400 := by omega
  have hs := marchStart_era (y - y / 400 * 400) (y / 400)
  have h400 : (y - y / 400 * 400) / 400 = 0 := by omega
  rw [Int.sub_add_cancel] at hs
  rw [hs, marchStart, h400, Int.tdiv_eq_ediv_of_nonneg hyoe, Int.tdiv_eq_ediv_of_nonneg hyoe,
    Int.tdiv_eq_ediv_of_nonneg (by omega)]
  omega

/-- `timegm` counts the days of the calendar for every month, whatever the other fields are. -/
theorem timegm_eq {tm : Tm} {m : Nat} (hm : tm.tmMon = m) (h : m < 12) :
    timegm tm = (yearStart (tm.tmYear + 1900) + daysBeforeMonth (tm.tmYear + 1900) m +
      tm.tmMday - 1 - 719528) * 86400 + tm.tmHour * 3600 + tm.tmMin * 60 + tm.tmSec := by
  rw [yearStart_march _ h]
  unfold timegm
  rcases Nat.lt_or_ge m 2 with hlt | hge
  · simp only [hm, if_pos hlt, show (m : Int) + 1 ≤ 2 by omega, if_true,
      show ¬ (m : Int) + 1 > 2 by omega, if_false]
    rw [timegm_day (by omega)]
    push_cast
    congr 5
  · simp only [hm, if_neg (Nat.not_lt.2 hge), show ¬ (m : Int) + 1 ≤ 2 by omega, if_false,
      show (m : Int) + 1 > 2 by omega, if_true]
    rw [timegm_day (by omega)]
    have hcast : ((153 * (m - 2) + 2) / 5 : Nat) = (153 * ((m : Int) + 1 - 3) + 2) / 5 := by omega
    rw [hcast]

theorem timegm_ofMoment (m : Moment) : timegm (ofMoment m) = m.since epoch := by
  have hp := m.date.day_pos
  rw [timegm_eq (m := m.date.month) rfl m.date.month_lt, Moment.since, epoch_number, Date.number,
    Date.yearDay]
  simp only [ofMoment, Int.sub_add_cancel]
  omega

/-- Day after day `gmtime_r` goes through the calendar, from any second on. -/
theorem gmtimeR_iterate (m : Moment) (n : Nat) : gmtimeR (m.since epoch + n * 86400) =
    if InInt ((Date.next^[n] m.date).year - 1900) then
      some (ofMoment ⟨Date.next^[n] m.date, m.second, m.second_lt⟩)
    else none := by
  obtain ⟨m', hm', hrun⟩ := exists_moment (m.since epoch + n * 86400)
  have hsince : (⟨Date.next^[n] m.date, m.second, m.second_lt⟩ : Moment).since epoch =
      m.since epoch + n * 86400 := by
    rw [Moment.since, Date.number_iterate_next, Moment.since]
    simp only
    omega
  rw [hrun, Moment.since_injective (hm'.trans hsince.symm)]

theorem gmtimeR_calendar :
    (∀ t tm, gmtimeR t = some tm ↔
      ∃ m : Moment, m.since epoch = t ∧ InInt (m.date.year - 1900) ∧ tm = ofMoment m) ∧
    ∀ (m : Moment) (n : Nat), gmtimeR (m.since epoch + n * 86400) =
      if InInt ((Date.next^[n] m.date).year - 1900) then
        some (ofMoment ⟨Date.next^[n] m.date, m.second, m.second_lt⟩)
      else none :=
  ⟨fun _ _ => gmtimeR_iff, gmtimeR_iterate⟩

/-- What `gmtime_r` computes on the way stays in the 64 bits of its `long long`s. -/
theorem civil_fits {t : Int} (h : InTimeT t) : ∃ c, c = civil (t / 86400) ∧
    InTimeT (c.z - 146096) ∧ InTimeT (c.era * 146097) ∧ InTimeT (c.yoe + c.era * 400) ∧
    0 ≤ c.yoe ∧ c.yoe ≤ 399 ∧ 0 ≤ c.doy ∧ c.doy ≤ 365 ∧ 0 ≤ c.mp ∧ c.mp ≤ 11 := by
  obtain ⟨z, hz⟩ : ∃ z, z = t / 86400 + 719468 := ⟨_, rfl⟩
  have hlow : 0 ≤ z - z / 146097 * 146097 := by omega
  have hhigh : z - z / 146097 * 146097 < 146097 := by omega
  obtain ⟨yoe, doy, hy, hy', hyoe, hdoy, hleap⟩ := exists_yearOfEra hlow hhigh
  obtain ⟨hera, hyoe', hdoy', hmp⟩ := civil_eq hz rfl hyoe hy hdoy
  have hdoy : doy ≤ 365 := by rcases hleap with h | ⟨h, -⟩ <;> omega
  have hz' : (civil (t / 86400)).z = z := hz ▸ rfl
  refine ⟨_, rfl, ?_⟩
  rw [hz', hera, hyoe', hdoy', hmp]
  unfold InTimeT at h ⊢
  unfold Date.marchMonth
  omega

/-- Fields that fit in `int`s are counted without leaving 64 bits. -/
theorem inTimeT_timegm {tm : Tm} {m : Nat} (hm : tm.tmMon = m) (h : m < 12) (hy : InInt tm.tmYear)
    (hd : InInt tm.tmMday) (hh : InInt tm.tmHour) (hi : InInt tm.tmMin) (hs : InInt tm.tmSec) :
    InTimeT (timegm tm) := by
  have hb : daysBeforeMonth (tm.tmYear + 1900) m ≤ 366 := by
    have hle := daysBeforeMonth_mono (tm.tmYear + 1900) (Nat.le_of_lt h)
    rw [daysBeforeMonth_year] at hle
    unfold yearLength at hle
    split at hle <;> omega
  rw [timegm_eq hm h]
  unfold InTimeT yearStart
  unfold InInt at hy hd hh hi hs
  omega

/-- The record of a certificate's or a response's time. -/
def ofPosix (tm : CalendarTime.Tm) : Tm where
  tmSec := tm.sec
  tmMin := tm.min
  tmHour := tm.hour
  tmMday := tm.mday
  tmMon := tm.mon
  tmYear := tm.year - 1900

theorem dayOfYear_eq (tm : CalendarTime.Tm) :
    CalendarTime.dayOfYear tm = daysBeforeMonth tm.year tm.mon + (tm.mday - 1) := by
  have hl : CalendarTime.leapYear tm.year = true ↔ Leap tm.year := by
    unfold CalendarTime.leapYear Leap
    simp only [Bool.and_eq_true, Bool.or_eq_true, decide_eq_true_eq]
    omega
  have hb := daysBefore_get tm.year tm.mon_lt
  have ht : ∀ m < 12, (CalendarTime.daysBeforeMonth m : Int) = daysBefore.getD m 0 := by decide
  have ht := ht tm.mon tm.mon_lt
  unfold CalendarTime.dayOfYear
  simp only [Bool.and_eq_true, hl, decide_eq_true_eq]
  by_cases hc : Leap tm.year ∧ 2 ≤ tm.mon
  · rw [if_pos hc] at hb ⊢
    omega
  · rw [if_neg hc] at hb ⊢
    omega

/-- The times of certificates and responses come out as they do elsewhere, days past the end of
a month included. -/
theorem timegm_ofPosix (tm : CalendarTime.Tm) : timegm (ofPosix tm) = CalendarTime.timegm tm := by
  have hp := tm.mday_pos
  rw [timegm_eq (m := tm.mon) rfl tm.mon_lt, CalendarTime.timegm, CalendarTime.dayNumber,
    dayOfYear_eq]
  simp only [ofPosix, Int.sub_add_cancel, yearStart]
  push_cast
  omega

theorem timegm_gmtimeR {t : Int} {tm : Tm} (h : gmtimeR t = some tm) : timegm tm = t := by
  obtain ⟨m, rfl, -, rfl⟩ := gmtimeR_iff.1 h
  exact timegm_ofMoment m

/-- The two conversions are each other's inverse, and `timegm` agrees with the POSIX one. -/
theorem timegm_inverse :
    (∀ t tm, gmtimeR t = some tm → timegm tm = t) ∧
    (∀ m : Moment, InInt (m.date.year - 1900) →
      gmtimeR (timegm (ofMoment m)) = some (ofMoment m)) ∧
    ∀ tm : CalendarTime.Tm, timegm (ofPosix tm) = CalendarTime.timegm tm := by
  refine ⟨fun _ _ => timegm_gmtimeR, fun m hi => ?_, timegm_ofPosix⟩
  rw [timegm_ofMoment]
  exact gmtimeR_iff.2 ⟨m, rfl, hi, rfl⟩

end WindowsTime
