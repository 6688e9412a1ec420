import Mathlib.Tactic.Linarith
import Mathlib.Logic.Function.Iterate

/-! The proleptic Gregorian calendar: dates of every integer year, the day that
follows each, and their numbering from the first of January of the year 0. -/
namespace Gregorian

def Leap (year : Int) : Prop := year % 4 = 0 ∧ (year % 100 ≠ 0 ∨ year % 400 = 0)

instance (year : Int) : Decidable (Leap year) := inferInstanceAs (Decidable (_ ∧ _))

def yearLength (year : Int) : Nat := if Leap year then 366 else 365

/-- Months are counted from January as 0. -/
def monthLength (year : Int) : Nat → Nat
  | 1 => if Leap year then 29 else 28
  | 3 | 5 | 8 | 10 => 30
  | _ => 31

def daysBeforeMonth (year : Int) : Nat → Nat
  | 0 => 0
  | m+1 => daysBeforeMonth year m + monthLength year m

/-- Days from the first of January of the year 0. -/
def yearStart (year : Int) : Int :=
  365 * year + (year + 3) / 4 - (year + 99) / 100 + (year + 399) / 400

structure Date where
  year : Int
  month : Nat
  day : Nat
  month_lt : month < 12
  day_pos : 1 ≤ day
  day_le : day ≤ monthLength year month

theorem monthLength_pos (year : Int) (m : Nat) : 28 ≤ monthLength year m := by
  unfold monthLength
  split
  · split <;> omega
  all_goals omega

theorem daysBeforeMonth_year (year : Int) : daysBeforeMonth year 12 = yearLength year := by
  by_cases h : Leap year <;> simp [daysBeforeMonth, monthLength, yearLength, h]

theorem daysBeforeMonth_mono (year : Int) {m n : Nat} (h : m ≤ n) :
    daysBeforeMonth year m ≤ daysBeforeMonth year n := by
  induction h with
  | refl => exact le_refl _
  | step _ ih => exact le_trans ih (Nat.le_add_right _ _)

theorem yearStart_succ (year : Int) : yearStart (year + 1) = yearStart year + yearLength year := by
  have hl : Leap year ∧ yearLength year = 366 ∨ ¬ Leap year ∧ yearLength year = 365 := by
    by_cases h : Leap year <;> simp [yearLength, h]
  unfold Leap at hl
  unfold yearStart
  omega

/-- The first of March, counted as the years are. -/
def marchStart (year : Int) : Int := 365 * year + year / 4 - year / 100 + year / 400 + 60

/-- The calendar repeats after four centuries. -/
theorem marchStart_era (year era : Int) :
    marchStart (year + era * 400) = marchStart year + era * 146097 := by
  have h4 : (year + era * 400) / 4 = year / 4 + era * 100 := by omega
  have h100 : (year + era * 400) / 100 = year / 100 + era * 4 := by omega
  have h400 : (year + era * 400) / 400 = year / 400 + era := by omega
  unfold marchStart
  omega

theorem marchStart_eq (year : Int) : marchStart year = yearStart year + daysBeforeMonth year 2 := by
  have hd : Leap year ∧ daysBeforeMonth year 2 = 60 ∨ ¬ Leap year ∧ daysBeforeMonth year 2 = 59 := by
    by_cases h : Leap year <;> simp [daysBeforeMonth, monthLength, h]
  unfold Leap at hd
  unfold marchStart yearStart
  omega

/-- From March on the lengths of the months follow one line, which the leap day does not enter. -/
theorem daysBeforeMonth_march (year : Int) {m : Nat} (h : 2 ≤ m) (h' : m < 12) :
    daysBeforeMonth year m = daysBeforeMonth year 2 + (153 * (m - 2) + 2) / 5 := by
  have hm : m = 2 ∨ m = 3 ∨ m = 4 ∨ m = 5 ∨ m = 6 ∨ m = 7 ∨ m = 8 ∨ m = 9 ∨ m = 10 ∨ m = 11 := by
    omega
  rcases hm with rfl | rfl | rfl | rfl | rfl | rfl | rfl | rfl | rfl | rfl <;>
    simp [daysBeforeMonth, monthLength]

/-- January and February end the year that began the March before. -/
theorem daysBeforeMonth_winter (year : Int) {m : Nat} (h : m < 2) :
    yearStart year + daysBeforeMonth year m =
      marchStart (year - 1) + ((153 * (m + 10) + 2) / 5 : Nat) := by
  have hm : m = 0 ∨ m = 1 := by omega
  unfold yearStart marchStart
  rcases hm with rfl | rfl <;> simp [daysBeforeMonth, monthLength] <;> omega

theorem yearStart_mono {y z : Int} (h : y ≤ z) : yearStart y ≤ yearStart z := by
  unfold yearStart
  omega

namespace Date

/-- Days since the first of January of the same year. -/
def yearDay (d : Date) : Nat := daysBeforeMonth d.year d.month + (d.day - 1)

def number (d : Date) : Int := yearStart d.year + d.yearDay

/-- The day after. -/
def next (d : Date) : Date :=
  if h : d.day < monthLength d.year d.month then
    ⟨d.year, d.month, d.day + 1, d.month_lt, by omega, h⟩
  else if h' : d.month + 1 < 12 then
    ⟨d.year, d.month + 1, 1, h', le_refl _, by have := monthLength_pos d.year (d.month + 1); omega⟩
  else
    ⟨d.year + 1, 0, 1, by omega, le_refl _, by have := monthLength_pos (d.year + 1) 0; omega⟩

/-- Dates in the order of year, month and day. -/
def Before (d e : Date) : Prop :=
  d.year < e.year ∨ d.year = e.year ∧ (d.month < e.month ∨ d.month = e.month ∧ d.day < e.day)

instance (d e : Date) : Decidable (Before d e) := inferInstanceAs (Decidable (_ ∨ _))

/-- A date's day of the year lies inside its month. -/
theorem yearDay_lt_month (d : Date) : d.yearDay < daysBeforeMonth d.year (d.month + 1) := by
  have hp := d.day_pos
  have hd := d.day_le
  rw [yearDay, daysBeforeMonth]
  omega

theorem yearDay_lt (d : Date) : d.yearDay < yearLength d.year :=
  calc d.yearDay < daysBeforeMonth d.year (d.month + 1) := d.yearDay_lt_month
    _ ≤ daysBeforeMonth d.year 12 := daysBeforeMonth_mono d.year d.month_lt
    _ = yearLength d.year := daysBeforeMonth_year d.year

theorem number_next (d : Date) : d.next.number = d.number + 1 := by
  have hp := d.day_pos
  have hd := d.day_le
  unfold next
  split
  · simp only [number, yearDay]
    omega
  next h =>
    split
    · simp only [number, yearDay, daysBeforeMonth]
      omega
    next h' =>
      have hm : d.month = 11 := by have := d.month_lt; omega
      have hy := daysBeforeMonth_year d.year
      rw [daysBeforeMonth, ← hm] at hy
      simp only [number, yearDay, daysBeforeMonth, yearStart_succ]
      omega

theorem number_iterate_next (n : Nat) (d : Date) : (next^[n] d).number = d.number + n := by
  induction n generalizing d with
  | zero => simp
  | succ n ih =>
    rw [Function.iterate_succ_apply, ih, number_next]
    push_cast
    omega

theorem number_lt {d e : Date} (h : Before d e) : d.number < e.number := by
  have hd := d.yearDay_lt
  have hm := d.yearDay_lt_month
  have hp := d.day_pos
  unfold number
  obtain hy | ⟨hy, h⟩ := h
  · have := yearStart_mono (y := d.year + 1) (z := e.year) (by omega)
    rw [yearStart_succ] at this
    omega
  · rw [hy] at hm ⊢
    obtain h | ⟨h, hday⟩ := h
    · have hle := daysBeforeMonth_mono e.year (Nat.succ_le_of_lt h)
      have : d.yearDay < e.yearDay := lt_of_lt_of_le hm (le_trans hle (Nat.le_add_right _ _))
      omega
    · have : d.yearDay < e.yearDay := by
        unfold yearDay
        rw [hy, h]
        omega
      omega

theorem before_or (d e : Date) : Before d e ∨ d = e ∨ Before e d := by
  rcases d with ⟨y, m, k, _, _, _⟩
  rcases e with ⟨y', m', k', _, _, _⟩
  simp only [Before, mk.injEq]
  omega

theorem number_injective {d e : Date} (h : d.number = e.number) : d = e := by
  obtain hb | heq | hb := before_or d e
  · exact absurd (number_lt hb) (by omega)
  · exact heq
  · exact absurd (number_lt hb) (by omega)

/-- The months counted from March, of a day of the year that begins there. -/
def marchMonth (e : Nat) : Nat := (5 * e + 2) / 153

def marchDay (e : Nat) : Nat := e - (153 * marchMonth e + 2) / 5 + 1

theorem marchDay_le {year : Int} {e : Nat} (h : marchMonth e < 10) :
    marchDay e ≤ monthLength year (marchMonth e + 2) := by
  have hm : marchMonth e = 0 ∨ marchMonth e = 1 ∨ marchMonth e = 2 ∨ marchMonth e = 3 ∨
      marchMonth e = 4 ∨ marchMonth e = 5 ∨ marchMonth e = 6 ∨ marchMonth e = 7 ∨
      marchMonth e = 8 ∨ marchMonth e = 9 := by omega
  unfold marchDay
  rcases hm with hm | hm | hm | hm | hm | hm | hm | hm | hm | hm <;>
    rw [hm, monthLength] <;> unfold marchMonth at hm <;> omega

theorem marchDay_le_winter {year : Int} {e : Nat} (he : e < 365 ∨ e = 365 ∧ Leap year)
    (h : 10 ≤ marchMonth e) : marchMonth e < 12 ∧ marchDay e ≤ monthLength year (marchMonth e - 10) := by
  have hm : marchMonth e = 10 ∨ marchMonth e = 11 := by
    unfold marchMonth at h ⊢
    omega
  refine ⟨by omega, ?_⟩
  unfold marchDay
  rcases hm with hm | hm <;> rw [hm] <;> unfold marchMonth at hm
  · show e - (153 * 10 + 2) / 5 + 1 ≤ 31
    omega
  · show e - (153 * 11 + 2) / 5 + 1 ≤ if Leap year then 29 else 28
    obtain he | ⟨he, hl⟩ := he
    · split <;> omega
    · rw [if_pos hl]
      omega

/-- The date of a day of the year that begins in March. -/
def ofMarch (year : Int) (e : Nat) (he : e < 365 ∨ e = 365 ∧ Leap (year + 1)) : Date :=
  if h : marchMonth e < 10 then
    ⟨year, marchMonth e + 2, marchDay e, by omega, Nat.le_add_left _ _, marchDay_le h⟩
  else
    have hw := marchDay_le_winter he (by omega)
    ⟨year + 1, marchMonth e - 10, marchDay e, by omega, Nat.le_add_left _ _, hw.2⟩

theorem number_ofMarch (year : Int) (e : Nat) (he : e < 365 ∨ e = 365 ∧ Leap (year + 1)) :
    (ofMarch year e he).number = marchStart year + e := by
  have hle : (153 * marchMonth e + 2) / 5 ≤ e := by
    unfold marchMonth
    omega
  unfold ofMarch
  split
  next h =>
    have hm := daysBeforeMonth_march year (m := marchMonth e + 2) (by omega) (by omega)
    have hs := marchStart_eq year
    rw [Nat.add_sub_cancel] at hm
    simp only [number, yearDay, marchDay]
    omega
  next h =>
    have hw := marchDay_le_winter he (by omega)
    have hm := daysBeforeMonth_winter (year + 1) (m := marchMonth e - 10) (by omega)
    rw [Int.add_sub_cancel, show marchMonth e - 10 + 10 = marchMonth e by omega] at hm
    simp only [number, yearDay, marchDay]
    omega

end Date

/-- A second of a day. -/
structure Moment where
  date : Date
  second : Nat
  second_lt : second < 86400

namespace Moment

/-- Seconds from the beginning of a date. -/
def since (epoch : Date) (m : Moment) : Int := (m.date.number - epoch.number) * 86400 + m.second

theorem since_div (epoch : Date) (m : Moment) :
    m.since epoch / 86400 = m.date.number - epoch.number ∧ m.since epoch % 86400 = m.second := by
  have := m.second_lt
  unfold since
  omega

theorem since_injective {epoch : Date} {m n : Moment} (h : m.since epoch = n.since epoch) : m = n := by
  obtain ⟨hm, hm'⟩ := since_div epoch m
  obtain ⟨hn, hn'⟩ := since_div epoch n
  have hd : m.date = n.date := Date.number_injective (by omega)
  have hs : m.second = n.second := by omega
  cases m
  cases n
  simp_all

end Moment

end Gregorian
