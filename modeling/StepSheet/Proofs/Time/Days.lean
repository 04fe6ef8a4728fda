import StepSheet.Time.Calendar

/-!
# Days and dates

The date of a day number is one of the calendar, and has that day number. An era of 400 years is
four centuries, a century 25 groups of four years, and the leap days come at the end of a group:
years are counted from March.
-/

namespace StepSheet.Date

/-! ### The days of an era -/

/-- A day of an era, as a century, a group of four years, and a day of the group. Only the
last century has a leap day at the end of its last group. -/
structure IsSplit (dayOfEra century group rest : Int) : Prop where
  sum : dayOfEra = 36524 * century + 1461 * group + rest
  centuries : 0 ≤ century ∧ century ≤ 3
  groups : 0 ≤ group ∧ group ≤ 24
  days : 0 ≤ rest ∧ rest ≤ 1460
  last : rest = 1460 → group = 24 → century = 3

theorem exists_isSplit {dayOfEra : Int} (least : 0 ≤ dayOfEra) (most : dayOfEra < 146097) :
    ∃ century group rest, IsSplit dayOfEra century group rest := by
  let century := if dayOfEra = 146096 then 3 else dayOfEra / 36524
  have centuries : 0 ≤ dayOfEra - 36524 * century ∧ dayOfEra - 36524 * century ≤ 36524 ∧
      0 ≤ century ∧ century ≤ 3 ∧ (dayOfEra - 36524 * century = 36524 → century = 3) := by
    simp only [century]
    split <;> omega
  generalize century = century at centuries
  refine ⟨century, (dayOfEra - 36524 * century) / 1461, (dayOfEra - 36524 * century) % 1461, ?_⟩
  constructor <;> omega

/-- The year that contains a day of a group; the leap day belongs to the fourth one. -/
def yearOfGroup (rest : Int) : Int := if rest = 1460 then 3 else rest / 365

theorem yearOfGroup_bounds {rest : Int} (days : 0 ≤ rest ∧ rest ≤ 1460) :
    0 ≤ yearOfGroup rest ∧ yearOfGroup rest ≤ 3 := by
  unfold yearOfGroup
  split <;> omega

/-- The year of an era that contains a day: what is taken off and added makes all years 365
days long. -/
theorem IsSplit.year_eq {dayOfEra century group rest : Int}
    (h : IsSplit dayOfEra century group rest) :
    (dayOfEra - dayOfEra / 1460 + dayOfEra / 36524 - dayOfEra / 146096) / 365 =
      100 * century + 4 * group + yearOfGroup rest := by
  obtain ⟨rfl, centuries, groups, days, last⟩ := h
  have whole : (36524 * century + 1461 * group + rest) / 36524 -
      (36524 * century + 1461 * group + rest) / 146096 = century := by
    by_cases longest : group = 24 ∧ rest = 1460
    · obtain ⟨rfl, rfl⟩ := longest
      obtain rfl := last rfl rfl
      decide
    · have first : (36524 * century + 1461 * group + rest) / 36524 = century := by omega
      have second : (36524 * century + 1461 * group + rest) / 146096 = 0 := by omega
      omega
  have fourths : (36524 * century + 1461 * group + rest) / 1460 =
      25 * century + group + if 24 * century + group + rest < 1460 then 0 else 1 := by
    split <;> omega
  unfold yearOfGroup
  split <;> split at fourths <;> omega

/-- The first day of a year of an era. -/
theorem daysBefore_eq (century : Int) {group year : Int} (groups : 0 ≤ group ∧ group ≤ 24)
    (years : 0 ≤ year ∧ year ≤ 3) :
    (100 * century + 4 * group + year) * 365 + (100 * century + 4 * group + year) / 4 -
        (100 * century + 4 * group + year) / 100 =
      36524 * century + 1461 * group + 365 * year := by
  have fourths : (100 * century + 4 * group + year) / 4 = 25 * century + group := by omega
  have hundredths : (100 * century + 4 * group + year) / 100 = century := by omega
  omega

/-- A day of an era lies in its year, and is the 366th day of it only before a March of a leap
year. -/
theorem exists_dayOfYear {dayOfEra : Int} (least : 0 ≤ dayOfEra) (most : dayOfEra < 146097) :
    ∃ year day : Int,
      (dayOfEra - dayOfEra / 1460 + dayOfEra / 36524 - dayOfEra / 146096) / 365 = year ∧
      dayOfEra = 365 * year + year / 4 - year / 100 + day ∧ (0 ≤ year ∧ year ≤ 399) ∧
      (0 ≤ day ∧ day ≤ 365) ∧ (day = 365 → isLeapYear (year + 1)) := by
  obtain ⟨century, group, rest, split⟩ := exists_isSplit least most
  rw [split.year_eq]
  obtain ⟨rfl, centuries, groups, days, last⟩ := split
  have years := yearOfGroup_bounds days
  have before := daysBefore_eq century groups years
  refine ⟨_, rest - 365 * yearOfGroup rest, rfl, by omega, by omega, ?_, ?_⟩
  · unfold yearOfGroup
    split <;> omega
  · intro longest
    have leap : rest = 1460 := by
      unfold yearOfGroup at longest
      split at longest <;> omega
    subst leap
    simp only [yearOfGroup, isLeapYear]
    simp
    omega

/-! ### Years from March -/

def ofMarch (year dayOfYear : Int) : Date :=
  let monthFromMarch := (5 * dayOfYear + 2) / 153
  let day := dayOfYear - (153 * monthFromMarch + 2) / 5 + 1
  let month := if monthFromMarch < 10 then monthFromMarch + 3 else monthFromMarch - 9
  ⟨year + if month ≤ 2 then 1 else 0, month.toNat, day.toNat⟩

def marchDays (year dayOfYear : Int) : Int :=
  let era := year / 400
  let yearOfEra := year - era * 400
  era * 146097 + (yearOfEra * 365 + yearOfEra / 4 - yearOfEra / 100 + dayOfYear) - 719468

/-- The month of a day of a year from March, counted from there, and the day of the month. The
months after December belong to the next year of the calendar. -/
theorem exists_month (year : Int) {dayOfYear : Int} (days : 0 ≤ dayOfYear ∧ dayOfYear ≤ 365) :
    ∃ month day : Nat, dayOfYear = (153 * (month : Int) + 2) / 5 + day ∧
      dayOfYear < (153 * ((month : Int) + 1) + 2) / 5 ∧
      (month < 10 ∧ ofMarch year dayOfYear = ⟨year, month + 3, day + 1⟩ ∨
        (month = 10 ∨ month = 11) ∧ ofMarch year dayOfYear = ⟨year + 1, month - 9, day + 1⟩) := by
  obtain ⟨month, counted⟩ : ∃ month : Nat, (5 * dayOfYear + 2) / 153 = month :=
    Int.eq_ofNat_of_zero_le (by omega)
  obtain ⟨day, left⟩ : ∃ day : Nat, dayOfYear - (153 * (month : Int) + 2) / 5 = day :=
    Int.eq_ofNat_of_zero_le (by omega)
  refine ⟨month, day, by omega, by omega, ?_⟩
  simp only [ofMarch, counted, left, mk.injEq]
  by_cases early : month < 10
  · left
    simp only [if_pos (by omega : (month : Int) < 10), if_neg (by omega : ¬ (month : Int) + 3 ≤ 2)]
    omega
  · right
    simp only [if_neg (by omega : ¬ (month : Int) < 10),
      if_pos (by omega : (month : Int) - 9 ≤ 2)]
    exact ⟨by omega, trivial, by omega, by omega⟩

theorem toDays_ofMarch (year : Int) {dayOfYear : Int} (days : 0 ≤ dayOfYear ∧ dayOfYear ≤ 365) :
    (ofMarch year dayOfYear).toDays = marchDays year dayOfYear := by
  obtain ⟨month, day, sum, -, ⟨early, date⟩ | ⟨late, date⟩⟩ := exists_month year days
  · have counted : (((month + 3 : Nat) : Int) + 9) % 12 = month := by omega
    have whole : (153 * (month : Int) + 2) / 5 + ((day + 1 : Nat) : Int) - 1 = dayOfYear := by omega
    rw [date, toDays, marchDays]
    simp only [if_neg (by omega : ¬ month + 3 ≤ 2), counted, whole]
  · have counted : (((month - 9 : Nat) : Int) + 9) % 12 = month := by omega
    have whole : (153 * (month : Int) + 2) / 5 + ((day + 1 : Nat) : Int) - 1 = dayOfYear := by omega
    rw [date, toDays, marchDays]
    simp only [if_pos (by omega : month - 9 ≤ 2), Int.add_sub_cancel, counted, whole]

theorem isValid_ofMarch {year dayOfYear : Int} (days : 0 ≤ dayOfYear ∧ dayOfYear ≤ 365)
    (leap : dayOfYear = 365 → isLeapYear (year + 1)) : (ofMarch year dayOfYear).isValid := by
  obtain ⟨month, day, sum, within, ⟨early, date⟩ | ⟨late, date⟩⟩ := exists_month year days
  · have months : month = 0 ∨ month = 1 ∨ month = 2 ∨ month = 3 ∨ month = 4 ∨ month = 5 ∨
        month = 6 ∨ month = 7 ∨ month = 8 ∨ month = 9 := by omega
    rw [date]
    rcases months with rfl | rfl | rfl | rfl | rfl | rfl | rfl | rfl | rfl | rfl <;>
      simp [isValid, daysInMonth] <;> omega
  · rw [date]
    rcases late with rfl | rfl
    · simp [isValid, daysInMonth]
      omega
    · -- Of February all is as in other months but for its 29th day.
      by_cases longest : dayOfYear = 365
      · simp [isValid, daysInMonth, leap longest]
        omega
      · simp only [isValid, daysInMonth]
        simp
        split <;> omega

/-! ### Day numbers -/

/-- The date of a day number in its year from March. -/
theorem exists_ofMarch (days : Int) :
    ∃ year dayOfYear, ofDays days = ofMarch year dayOfYear ∧ days = marchDays year dayOfYear ∧
      (0 ≤ dayOfYear ∧ dayOfYear ≤ 365) ∧ (dayOfYear = 365 → isLeapYear (year + 1)) := by
  let era := (days + 719468) / 146097
  have least : 0 ≤ days + 719468 - era * 146097 := by omega
  have most : days + 719468 - era * 146097 < 146097 := by omega
  obtain ⟨year, day, contains, sum, years, within, leap⟩ := exists_dayOfYear least most
  have eras : (year + era * 400) / 400 = era := by omega
  refine ⟨year + era * 400, day, ?_, ?_, within, ?_⟩
  · have left : days + 719468 - era * 146097 - (365 * year + year / 4 - year / 100) = day := by
      omega
    rw [ofDays, ofMarch]
    simp only [era] at contains left ⊢
    simp only [contains, left]
  · rw [marchDays]
    simp only [eras, Int.add_sub_cancel]
    omega
  · intro longest
    have same := leap longest
    simp only [isLeapYear, Bool.and_eq_true, Bool.or_eq_true, decide_eq_true_iff] at same ⊢
    omega

theorem toDays_ofDays (days : Int) : (ofDays days).toDays = days := by
  obtain ⟨year, day, same, number, within, -⟩ := exists_ofMarch days
  rw [same, toDays_ofMarch year within, ← number]

theorem isValid_ofDays (days : Int) : (ofDays days).isValid := by
  obtain ⟨year, day, same, -, within, leap⟩ := exists_ofMarch days
  rw [same]
  exact isValid_ofMarch within leap

end StepSheet.Date
