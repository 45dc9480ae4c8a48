import Mathlib.Tactic.IntervalCases
import Mathlib.Tactic.SplitIfs
import RuleLedger.Clock

/-! The proleptic Gregorian calendar from 1970 on. A date is counted by the lengths of the years and
months before it. Main statements: the date of a day number exists in the calendar and counts that
many days; and a later date counts more days. -/
namespace RuleLedger.Date

/-! ### Lengths of years and months -/

def isLeap (year : Int) : Bool :=
  year % 4 == 0 && (year % 100 != 0 || year % 400 == 0)

def yearLength (year : Int) : Nat :=
  if isLeap year then 366 else 365

def monthLength (year : Int) : Nat → Nat
  | 2 => if isLeap year then 29 else 28
  | 4 | 6 | 9 | 11 => 30
  | _ => 31

/-- The days of so many years from 1970 on. -/
def daysOfYears : Nat → Nat
  | 0 => 0
  | k + 1 => daysOfYears k + yearLength (1970 + k)

/-- The days of the first so many months of a year. -/
def daysOfMonths (year : Int) : Nat → Nat
  | 0 => 0
  | m + 1 => daysOfMonths year m + monthLength year (m + 1)

/-- A date that exists, from 1970 on. -/
structure IsValid (d : Date) : Prop where
  year : 1970 ≤ d.year
  month : 1 ≤ d.month ∧ d.month ≤ 12
  day : 1 ≤ d.day ∧ d.day ≤ monthLength d.year d.month

/-- The days from the start of 1970 up to a date. -/
def dayNumber (d : Date) : Nat :=
  daysOfYears (d.year - 1970).toNat + daysOfMonths d.year (d.month - 1) + (d.day - 1)

variable {d e : Date} {year : Int} {month day : Nat}

theorem isValid_mk : IsValid ⟨year, month, day⟩ ↔
    1970 ≤ year ∧ (1 ≤ month ∧ month ≤ 12) ∧ 1 ≤ day ∧ day ≤ monthLength year month :=
  ⟨fun h => ⟨h.year, h.month, h.day⟩, fun ⟨hyear, hmonth, hday⟩ => ⟨hyear, hmonth, hday⟩⟩

theorem dayNumber_mk : dayNumber ⟨year, month, day⟩ =
    daysOfYears (year - 1970).toNat + daysOfMonths year (month - 1) + (day - 1) := rfl

theorem isLeap_iff : isLeap year = true ↔ year % 4 = 0 ∧ (year % 100 ≠ 0 ∨ year % 400 = 0) := by
  simp [isLeap]

theorem isLeap_eq_false_iff :
    isLeap year = false ↔ year % 4 ≠ 0 ∨ year % 100 = 0 ∧ year % 400 ≠ 0 := by
  rw [← Bool.not_eq_true, isLeap_iff]
  omega

theorem monthLength_le (year : Int) (month : Nat) : monthLength year month ≤ 31 := by
  unfold monthLength
  split
  case h_1 => split_ifs <;> decide
  case h_6 => exact Nat.le_refl 31
  all_goals exact Nat.le_succ 30

theorem daysOfYears_eq (k : Nat) :
    daysOfYears k + 477 + (1969 + k) / 100 = 365 * k + (1969 + k) / 4 + (1969 + k) / 400 := by
  induction k with
  | zero => rfl
  | succ k ih =>
    have hnext (d : Nat) : (1969 + (k + 1)) / d =
        (1969 + k) / d + if d ∣ 1969 + k + 1 then 1 else 0 := Nat.succ_div
    rw [daysOfYears, yearLength, hnext 4, hnext 100, hnext 400]
    cases hleap : isLeap (1970 + k)
    · rw [isLeap_eq_false_iff] at hleap
      simp only [Bool.false_eq_true, ↓reduceIte]
      split_ifs <;> omega
    · rw [isLeap_iff] at hleap
      simp only [↓reduceIte]
      split_ifs <;> omega

/-- The days from the first of March of the year 0 to that of another year. -/
def daysToMarch (year : Int) : Int :=
  365 * year + year / 4 - year / 100 + year / 400

theorem daysOfYears_march (h : 1970 ≤ year) :
    (daysOfYears (year - 1970).toNat + daysOfMonths year 2 : Int) = daysToMarch year - 719468 := by
  have hyears := daysOfYears_eq (year - 1970).toNat
  have hmonths : daysOfMonths year 2 = 31 + if isLeap year then 29 else 28 := rfl
  rw [hmonths, daysToMarch]
  cases hleap : isLeap year
  · rw [isLeap_eq_false_iff] at hleap
    simp only [Bool.false_eq_true, ↓reduceIte]
    omega
  · rw [isLeap_iff] at hleap
    simp only [↓reduceIte]
    omega

/-- The next year starts 306 days after the first of March. -/
theorem daysOfYears_next (h : 1969 ≤ year) :
    (daysOfYears (year + 1 - 1970).toNat : Int) = daysToMarch year - 719468 + 306 := by
  have hyears := daysOfYears_eq (year + 1 - 1970).toNat
  rw [daysToMarch]
  omega

/-! ### Days counted from March -/

/-- The date so many days after the first of March. A leap day is the last one of them. -/
def ofMarchDay (year : Int) (day : Nat) : Date :=
  let shiftedMonth := (5 * day + 2) / 153
  let month := if shiftedMonth < 10 then shiftedMonth + 3 else shiftedMonth - 9
  { year := year + (if month ≤ 2 then 1 else 0)
    month := month
    day := day - (153 * shiftedMonth + 2) / 5 + 1 }

/-- The months from March to December: 31 and 30 days take turns, but July and August have 31. -/
theorem march_months (year : Int) {s : Nat} (h : s ≤ 9) :
    monthLength year (s + 3) = (153 * (s + 1) + 2) / 5 - (153 * s + 2) / 5 ∧
      daysOfMonths year (s + 2) = daysOfMonths year 2 + (153 * s + 2) / 5 := by
  interval_cases s <;> exact ⟨rfl, rfl⟩

/-- A day from March to December. -/
theorem ofMarchDay_of_lt (h : day < 306) (hyear : 1970 ≤ year) :
    (ofMarchDay year day).IsValid ∧
      ((ofMarchDay year day).dayNumber : Int) = daysToMarch year - 719468 + day := by
  obtain ⟨s, hs⟩ : ∃ s, (5 * day + 2) / 153 = s := ⟨_, rfl⟩
  obtain ⟨hlength, hdays⟩ := march_months year (show s ≤ 9 by omega)
  have hmarch := daysOfYears_march hyear
  have hdate : ofMarchDay year day = ⟨year, s + 3, day - (153 * s + 2) / 5 + 1⟩ := by
    simp only [ofMarchDay, hs]
    rw [if_pos (show s < 10 by omega), if_neg (show ¬s + 3 ≤ 2 by omega), add_zero]
  rw [hdate, isValid_mk, dayNumber_mk, hlength, show s + 3 - 1 = s + 2 from rfl, hdays]
  exact ⟨⟨hyear, by omega, by omega⟩, by omega⟩

/-- A day of January or February, in the next year. -/
theorem ofMarchDay_of_ge (h : 306 ≤ day) (hday : day ≤ 365)
    (hlast : day = 365 → isLeap (year + 1) = true) (hyear : 1969 ≤ year) :
    (ofMarchDay year day).IsValid ∧
      ((ofMarchDay year day).dayNumber : Int) = daysToMarch year - 719468 + day := by
  have hnext := daysOfYears_next hyear
  have hs : (5 * day + 2) / 153 = 10 ∨ (5 * day + 2) / 153 = 11 := by omega
  obtain hs | hs := hs
  · have hdate : ofMarchDay year day = ⟨year + 1, 1, day - 306 + 1⟩ := by
      rw [ofMarchDay, hs]
      rfl
    have hlength : monthLength (year + 1) 1 = 31 := rfl
    have hmonths : daysOfMonths (year + 1) (1 - 1) = 0 := rfl
    rw [hdate, isValid_mk, dayNumber_mk, hlength, hmonths]
    omega
  · have hdate : ofMarchDay year day = ⟨year + 1, 2, day - 337 + 1⟩ := by
      rw [ofMarchDay, hs]
      rfl
    have hlength : monthLength (year + 1) 2 = if isLeap (year + 1) then 29 else 28 := rfl
    have hmonths : daysOfMonths (year + 1) (2 - 1) = 31 := rfl
    rw [hdate, isValid_mk, dayNumber_mk, hlength, hmonths]
    split_ifs with hleap
    · omega
    · have hne : day ≠ 365 := fun he => hleap (hlast he)
      omega

/-! ### Years of an era -/

/-- The days of the first so many years of an era. -/
def daysOfEra (years : Nat) : Nat :=
  365 * years + years / 4 - years / 100

/-- A day of an era less the leap days before it. -/
def withoutLeapDays (day : Nat) : Nat :=
  day - day / 1460 + day / 36524 - day / 146096

theorem withoutLeapDays_mono {a b : Nat} (h : a ≤ b) (hb : b < 146097) :
    withoutLeapDays a ≤ withoutLeapDays b := by
  unfold withoutLeapDays
  omega

theorem daysOfEra_div {years : Nat} (h : years < 400) :
    daysOfEra years / 1460 = years / 4 ∧ daysOfEra years / 36524 = years / 100 ∧
      daysOfEra years / 146096 = 0 := by
  unfold daysOfEra
  refine ⟨?_, ?_, ?_⟩ <;> omega

/-- Leap days aside, a year of an era starts after 365 days for each year before it. -/
theorem withoutLeapDays_daysOfEra {years : Nat} (h : years < 400) :
    withoutLeapDays (daysOfEra years) = 365 * years := by
  obtain ⟨h4, h100, h400⟩ := daysOfEra_div h
  rw [withoutLeapDays, h4, h100, h400, daysOfEra]
  omega

/-- The day before a year starts belongs to the year before. -/
theorem withoutLeapDays_lt {years : Nat} (h : years < 400) (h0 : years ≠ 0) :
    withoutLeapDays (daysOfEra years - 1) < 365 * years := by
  have h4 : (daysOfEra years - 1) / 1460 = years / 4 := by
    unfold daysOfEra
    omega
  have h100 : (daysOfEra years - 1) / 36524 ≤ years / 100 := by
    unfold daysOfEra
    omega
  rw [withoutLeapDays, h4]
  unfold daysOfEra at *
  omega

/-- The year of a day of an era. -/
theorem yearOfEra_bounds (h : day < 146097) :
    withoutLeapDays day / 365 < 400 ∧ daysOfEra (withoutLeapDays day / 365) ≤ day ∧
      (withoutLeapDays day / 365 < 399 → day < daysOfEra (withoutLeapDays day / 365 + 1)) := by
  have hlast := withoutLeapDays_mono (Nat.le_of_lt_succ h) (by decide)
  have hvalue : withoutLeapDays 146096 = 145999 := by decide
  rw [hvalue] at hlast
  generalize hyear : withoutLeapDays day / 365 = year
  refine ⟨by omega, ?_, fun hlt => ?_⟩
  · by_contra hbefore
    have h0 : year ≠ 0 := by
      rintro rfl
      exact hbefore (Nat.zero_le day)
    have hmono := withoutLeapDays_mono (Nat.le_sub_one_of_lt (Nat.lt_of_not_le hbefore))
      (show daysOfEra year - 1 < 146097 by unfold daysOfEra; omega)
    have hless := withoutLeapDays_lt (show year < 400 by omega) h0
    omega
  · by_contra hafter
    have hmono := withoutLeapDays_mono (Nat.le_of_not_lt hafter) h
    have hfirst := withoutLeapDays_daysOfEra (show year + 1 < 400 by omega)
    omega

/-- Each era has 97 leap days. -/
theorem daysToMarch_era (era : Int) {years : Nat} (h : years < 400) :
    daysToMarch (era * 400 + years) = era * 146097 + daysOfEra years := by
  have h4 : (era * 400 + years) / 4 = era * 100 + (years / 4 : Nat) := by omega
  have h100 : (era * 400 + years) / 100 = era * 4 + (years / 100 : Nat) := by omega
  have h400 : (era * 400 + years) / 400 = era := by omega
  rw [daysToMarch, daysOfEra, h4, h100, h400]
  omega

/-! ### Dates of day numbers -/

/-- A day of an era as a day of a year that starts in March. -/
theorem ofDayNumber_eq (n : Int) : ∃ year : Int, ∃ day : Nat,
    ofDayNumber n = ofMarchDay year day ∧ day ≤ 365 ∧
      (day = 365 → isLeap (year + 1) = true) ∧ daysToMarch year + day = n + 719468 := by
  obtain ⟨dayOfEra, hday⟩ : ∃ dayOfEra, ((n + 719468) % 146097).toNat = dayOfEra := ⟨_, rfl⟩
  obtain ⟨hyear, hfirst, hnext⟩ := yearOfEra_bounds (show dayOfEra < 146097 by omega)
  have hdate : ofDayNumber n = ofMarchDay
      ((n + 719468) / 146097 * 400 + (withoutLeapDays dayOfEra / 365 : Nat))
      (dayOfEra - daysOfEra (withoutLeapDays dayOfEra / 365)) := by
    rw [← hday]
    rfl
  generalize withoutLeapDays dayOfEra / 365 = yearOfEra at hyear hfirst hnext hdate
  refine ⟨_, _, hdate, ?_, ?_, ?_⟩
  · unfold daysOfEra at *
    omega
  · rw [isLeap_iff]
    unfold daysOfEra at *
    omega
  · rw [daysToMarch_era _ hyear]
    omega

/-- The date of a day number exists and counts that many days. -/
theorem ofDayNumber_spec (n : Nat) : (ofDayNumber n).IsValid ∧ (ofDayNumber n).dayNumber = n := by
  obtain ⟨year, day, hdate, hday, hlast, hdays⟩ := ofDayNumber_eq n
  have hmarch : (ofMarchDay year day).IsValid ∧
      ((ofMarchDay year day).dayNumber : Int) = daysToMarch year - 719468 + day := by
    unfold daysToMarch at hdays
    by_cases h : day < 306
    · exact ofMarchDay_of_lt h (by omega)
    · exact ofMarchDay_of_ge (by omega) hday hlast (by omega)
  rw [hdate]
  exact ⟨hmarch.1, by omega⟩

/-! ### The order of dates -/

theorem daysOfYears_mono : Monotone daysOfYears :=
  monotone_nat_of_le_succ fun _ => Nat.le_add_right _ _

theorem daysOfMonths_mono (year : Int) : Monotone (daysOfMonths year) :=
  monotone_nat_of_le_succ fun _ => Nat.le_add_right _ _

theorem daysOfMonths_year (year : Int) : daysOfMonths year 12 = yearLength year := by
  have hmonths : daysOfMonths year 12 =
      31 + (if isLeap year then 29 else 28) + 31 + 30 + 31 + 30 + 31 + 31 + 30 + 31 + 30 + 31 := by
    simp only [daysOfMonths, monthLength, Nat.zero_add]
  rw [hmonths, yearLength]
  split_ifs <;> rfl

/-- A date lies before the end of its month. -/
theorem IsValid.lt_month (h : d.IsValid) :
    daysOfMonths d.year (d.month - 1) + (d.day - 1) < daysOfMonths d.year d.month := by
  have hmonth : daysOfMonths d.year (d.month - 1 + 1) =
      daysOfMonths d.year (d.month - 1) + monthLength d.year (d.month - 1 + 1) := rfl
  rw [Nat.sub_add_cancel h.month.1] at hmonth
  have := h.day
  omega

/-- A date lies before the end of its year. -/
theorem IsValid.lt_year (h : d.IsValid) :
    d.dayNumber < daysOfYears ((d.year - 1970).toNat + 1) := by
  have hmonths := daysOfMonths_mono d.year h.month.2
  rw [daysOfMonths_year] at hmonths
  have hyear : (1970 + ((d.year - 1970).toNat : Int)) = d.year := by
    have := h.year
    omega
  rw [dayNumber, daysOfYears, hyear]
  have := h.lt_month
  omega

/-- The order of dates is that of their years, then their months, then their days. -/
def Before (d e : Date) : Prop :=
  d.year < e.year ∨ d.year = e.year ∧ (d.month < e.month ∨ d.month = e.month ∧ d.day < e.day)

theorem Before.dayNumber_lt (h : Before d e) (hd : d.IsValid) :
    d.dayNumber < e.dayNumber := by
  obtain hyear | ⟨hyear, hmonth | ⟨hmonth, hday⟩⟩ := h
  · have hnext := daysOfYears_mono (show (d.year - 1970).toNat + 1 ≤ (e.year - 1970).toNat by
      have := hd.year
      omega)
    refine hd.lt_year.trans_le (hnext.trans ?_)
    rw [dayNumber]
    omega
  · have hnext := daysOfMonths_mono d.year (Nat.le_sub_one_of_lt hmonth)
    have := hd.lt_month
    rw [dayNumber, dayNumber, ← hyear]
    omega
  · have := hd.day
    rw [dayNumber, dayNumber, ← hyear, ← hmonth]
    omega

end RuleLedger.Date
