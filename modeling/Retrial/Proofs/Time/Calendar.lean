import Mathlib
import Retrial.Time.Calendar

/-!
# The calendar and the count of days

The day of a number is a day of the calendar (`exists_ofDays`), and its number is that number
(`toDays_ofDays`).  Within an era, the years before a day are counted by correcting the number of
the day by the leap days before it; what carries the proof is that the correction is never off:
the day lies in the year found, and it is the year's 366th only if the year has a leap day
(`dayOfYear_bounds`).  Within a year that starts in March the months follow by division
(`monthFromMarch_bounds`).
-/

namespace Retrial.Time

/-! ### The year within an era -/

/-- The number of days of an era before one of its years. -/
def daysBefore (year : Int) : Int := 365 * year + year / 4 - year / 100

/-- The year of a day of an era. -/
def yearOfEra (day : Int) : Int := (day - day / 1460 + day / 36524 - day / 146096) / 365

/-- A day of an era lies in its year, and it is the last of 366 only before the end of a February
with a leap day. -/
lemma dayOfYear_bounds {day : Int} (hlow : 0 ≤ day) (hhigh : day < 146097) :
    (0 ≤ yearOfEra day ∧ yearOfEra day < 400) ∧ daysBefore (yearOfEra day) ≤ day ∧
      day ≤ daysBefore (yearOfEra day) + 365 ∧
      (day = daysBefore (yearOfEra day) + 365 → isLeapYear (yearOfEra day + 1) = true) := by
  by_cases hlast : day = 146096
  · subst hlast
    decide
  · have hera : day / 146096 = 0 := by omega
    obtain ⟨century, hcentury⟩ : ∃ century, century = day / 36524 := ⟨_, rfl⟩
    obtain ⟨cycle, hcycle⟩ : ∃ cycle, cycle = day / 1460 := ⟨_, rfl⟩
    have hrange : 0 ≤ century ∧ century ≤ 3 := by omega
    obtain ⟨year, hyear⟩ : ∃ year, year = yearOfEra day := ⟨_, rfl⟩
    have hcount : year = (day - cycle + century) / 365 := by
      rw [hyear, yearOfEra, hera, ← hcentury, ← hcycle, sub_zero]
    -- each cycle of 1460 days is short of a leap day: its first days may be of the year before
    have hfour : year = 4 * cycle - 1 ∨ year = 4 * cycle ∨ year = 4 * cycle + 1 ∨
        year = 4 * cycle + 2 ∨ year = 4 * cycle + 3 := by omega
    have hhundred : year / 100 = century := by omega
    rw [← hyear]
    unfold daysBefore isLeapYear
    rw [hhundred]
    simp only [Bool.and_eq_true, Bool.or_eq_true, beq_iff_eq, bne_iff_ne]
    omega

/-! ### The month within a year -/

/-- The month of a day of a year, both counted from March. -/
def monthFromMarch (day : Int) : Int := (5 * day + 2) / 153

/-- The days of a year before one of its months. -/
def daysBeforeMonth (month : Int) : Int := (153 * month + 2) / 5

/-- A day of a year lies in its month. -/
lemma monthFromMarch_bounds {day : Int} (hlow : 0 ≤ day) (hhigh : day ≤ 365) :
    (0 ≤ monthFromMarch day ∧ monthFromMarch day ≤ 11) ∧
      daysBeforeMonth (monthFromMarch day) ≤ day ∧
      day < daysBeforeMonth (monthFromMarch day) + 31 ∧
      (monthFromMarch day ∈ [1, 3, 6, 8] → day < daysBeforeMonth (monthFromMarch day) + 30) ∧
      (monthFromMarch day = 11 → daysBeforeMonth (monthFromMarch day) = 337) := by
  have hmonth : 0 ≤ monthFromMarch day ∧ monthFromMarch day ≤ 11 := by
    unfold monthFromMarch
    omega
  obtain ⟨month, hmonth'⟩ : ∃ month, month = monthFromMarch day := ⟨_, rfl⟩
  rw [← hmonth'] at hmonth ⊢
  have hdiv : month = (5 * day + 2) / 153 := hmonth'
  unfold daysBeforeMonth
  simp only [List.mem_cons, List.not_mem_nil, or_false]
  omega

/-! ### Days -/

/-- The day within its era. -/
def dayOfEra (n : Int) : Int := (n + 719468) % 146097

/-- The day within its year, which starts in March. -/
def dayOfYear (n : Int) : Int := dayOfEra n - daysBefore (yearOfEra (dayOfEra n))

/-- The year that starts in the March before a day. -/
def yearFromMarch (n : Int) : Int := (n + 719468) / 146097 * 400 + yearOfEra (dayOfEra n)

/-- The month of the calendar, from a month counted from March. -/
def monthOf (month : Int) : Int := if month < 10 then month + 3 else month - 9

/-- The calendar's day of a number. -/
lemma ofDays_eq (n : Int) :
    Date.ofDays n =
      ⟨yearFromMarch n + (if monthOf (monthFromMarch (dayOfYear n)) ≤ 2 then 1 else 0),
        (monthOf (monthFromMarch (dayOfYear n))).toNat,
        (dayOfYear n - daysBeforeMonth (monthFromMarch (dayOfYear n)) + 1).toNat⟩ := rfl

/-- Where a day lies in its era. -/
lemma dayOfEra_bounds (n : Int) : 0 ≤ dayOfEra n ∧ dayOfEra n < 146097 := by
  unfold dayOfEra
  omega

/-- Where a day lies in its year. -/
lemma dayOfYear_range (n : Int) : 0 ≤ dayOfYear n ∧ dayOfYear n ≤ 365 := by
  obtain ⟨hlow, hhigh⟩ := dayOfEra_bounds n
  obtain ⟨-, hfrom, hto, -⟩ := dayOfYear_bounds hlow hhigh
  unfold dayOfYear
  omega

/-- The number of a day, from the year and the month counted from March. -/
lemma toDays_ofMarch {year month day : Int} (hlow : 0 ≤ month) (hhigh : month ≤ 11)
    (hday : 0 ≤ day) :
    (Date.mk (year + (if monthOf month ≤ 2 then 1 else 0)) (monthOf month).toNat day.toNat).toDays =
      year / 400 * 146097 + (daysBefore (year % 400) + (daysBeforeMonth month + day - 1)) -
        719468 := by
  have hmonth : ((monthOf month).toNat + 9 : Int) % 12 = month := by
    unfold monthOf
    split_ifs <;> omega
  have hyear : (if (monthOf month).toNat ≤ 2 then
      year + (if monthOf month ≤ 2 then 1 else 0) - 1
      else year + (if monthOf month ≤ 2 then 1 else 0)) = year := by
    unfold monthOf
    split_ifs <;> omega
  unfold Date.toDays
  simp only [hyear, hmonth, Int.toNat_of_nonneg hday]
  unfold daysBefore daysBeforeMonth
  omega

/-- The number of the day of a number is the number. -/
theorem toDays_ofDays (n : Int) : (Date.ofDays n).toDays = n := by
  obtain ⟨hlow, hhigh⟩ := dayOfEra_bounds n
  obtain ⟨⟨hyear0, hyear1⟩, -, -, -⟩ := dayOfYear_bounds hlow hhigh
  obtain ⟨hday0, hday1⟩ := dayOfYear_range n
  obtain ⟨⟨hmonth0, hmonth1⟩, hfrom, -, -, -⟩ := monthFromMarch_bounds hday0 hday1
  have hera : yearFromMarch n / 400 = (n + 719468) / 146097 := by
    unfold yearFromMarch
    omega
  have hyear : yearFromMarch n % 400 = yearOfEra (dayOfEra n) := by
    unfold yearFromMarch
    omega
  rw [ofDays_eq, toDays_ofMarch hmonth0 hmonth1 (by omega), hera, hyear]
  have hyearDay : dayOfYear n = dayOfEra n - daysBefore (yearOfEra (dayOfEra n)) := rfl
  have heraDay : dayOfEra n = (n + 719468) % 146097 := rfl
  omega

/-- A year has a leap day if the year of the era has one. -/
lemma isLeapYear_add (era year : Int) : isLeapYear (era * 400 + year) = isLeapYear year := by
  have h4 : (era * 400 + year) % 4 = year % 4 := by omega
  have h100 : (era * 400 + year) % 100 = year % 100 := by omega
  have h400 : (era * 400 + year) % 400 = year % 400 := by omega
  unfold isLeapYear
  rw [h4, h100, h400]

/-- The length of a month counted from March. -/
lemma monthLength_monthOf (year : Int) {month : Int} (hlow : 0 ≤ month) (hhigh : month ≤ 11) :
    monthLength year (monthOf month).toNat =
      if month = 11 then if isLeapYear year then 29 else 28
      else if month ∈ [1, 3, 6, 8] then 30 else 31 := by
  interval_cases month <;> rfl

/-- The day of a number is a day of the calendar. -/
theorem exists_ofDays (n : Int) : (Date.ofDays n).exists = true := by
  obtain ⟨hlow, hhigh⟩ := dayOfEra_bounds n
  obtain ⟨-, -, -, hleap⟩ := dayOfYear_bounds hlow hhigh
  obtain ⟨hday0, hday1⟩ := dayOfYear_range n
  obtain ⟨⟨hmonth0, hmonth1⟩, hfrom, hto, hshort, hlast⟩ := monthFromMarch_bounds hday0 hday1
  have hleap' : dayOfYear n = 365 → isLeapYear (yearFromMarch n + 1) = true := by
    intro hlastDay
    have hyear : yearFromMarch n + 1 =
        (n + 719468) / 146097 * 400 + (yearOfEra (dayOfEra n) + 1) := by
      unfold yearFromMarch
      omega
    rw [hyear, isLeapYear_add]
    refine hleap ?_
    unfold dayOfYear at hlastDay
    omega
  rw [ofDays_eq]
  generalize monthFromMarch (dayOfYear n) = month at *
  have hmonth : 1 ≤ (monthOf month).toNat ∧ (monthOf month).toNat ≤ 12 := by
    unfold monthOf
    split_ifs <;> omega
  unfold Date.exists
  simp only [monthLength_monthOf _ hmonth0 hmonth1, Bool.and_eq_true, decide_eq_true_eq]
  refine ⟨⟨hmonth, by omega⟩, ?_⟩
  by_cases hfeb : month = 11
  · rw [if_pos hfeb]
    subst hfeb
    have hnextYear : (if monthOf 11 ≤ 2 then 1 else 0 : Int) = 1 := rfl
    have hbefore := hlast rfl
    rw [hnextYear]
    split_ifs with hyear
    · omega
    · have hnotLast : dayOfYear n ≠ 365 := fun h => hyear (hleap' h)
      omega
  · rw [if_neg hfeb]
    split_ifs with hthirty
    · have := hshort hthirty
      omega
    · omega

/-- The years of the days that times can lie in. -/
theorem year_ofDays {n : Int} (hlow : minDay ≤ n) (hhigh : n ≤ maxDay) :
    minYear ≤ (Date.ofDays n).year ∧ (Date.ofDays n).year ≤ maxYear := by
  have hmin : minDay = -96465292 := by decide
  have hmax : maxDay = 95026236 := by decide
  obtain ⟨hera0, hera1⟩ := dayOfEra_bounds n
  obtain ⟨⟨hyear0, hyear1⟩, hfrom, hto, -⟩ := dayOfYear_bounds hera0 hera1
  obtain ⟨era, hera⟩ : ∃ era, era = (n + 719468) / 146097 := ⟨_, rfl⟩
  have hday : n + 719468 = era * 146097 + dayOfEra n := by
    unfold dayOfEra
    omega
  have hmonth : monthOf (monthFromMarch (dayOfYear n)) ≤ 2 ↔
      306 ≤ dayOfEra n - daysBefore (yearOfEra (dayOfEra n)) := by
    change monthOf (monthFromMarch (dayOfYear n)) ≤ 2 ↔ 306 ≤ dayOfYear n
    obtain ⟨hday0, hday1⟩ := dayOfYear_range n
    unfold monthOf monthFromMarch
    split_ifs <;> omega
  rw [ofDays_eq]
  simp only [hmonth]
  unfold yearFromMarch minYear maxYear
  rw [← hera]
  generalize yearOfEra (dayOfEra n) = year at *
  unfold daysBefore at *
  -- the first and the last day lie in the eras -656 and 655
  have hfirst : -656 ≤ era := by omega
  have hlast : era ≤ 655 := by omega
  constructor
  · by_cases heq : era = -656
    · have hyear : 256 ≤ year := by omega
      split_ifs <;> omega
    · split_ifs <;> omega
  · by_cases heq : era = 655
    · have hyear : year ≤ 142 := by omega
      split_ifs <;> omega
    · split_ifs <;> omega

end Retrial.Time
