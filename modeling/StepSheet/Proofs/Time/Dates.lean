import StepSheet.Proofs.Files.Components
import StepSheet.Proofs.Text.Digits
import StepSheet.Time.Rfc3339

/-!
# How dates are written

A date with a year of four digits is written in ten characters, which tell the date, and
which can be the name of a directory.
-/

namespace StepSheet

namespace Date

/-- A date of the calendar that is written with a year of four digits. -/
structure IsShort (date : Date) : Prop where
  valid : date.isValid
  early : 0 ≤ date.year
  late : date.year ≤ 9999

variable {date : Date}

theorem IsShort.year_lt (h : date.IsShort) : date.year.toNat < 10000 := by
  have late := h.late
  omega

theorem IsShort.month_lt (h : date.IsShort) : date.month < 100 := by
  have valid := h.valid
  simp only [isValid, Bool.and_eq_true, decide_eq_true_iff] at valid
  omega

theorem daysInMonth_le (year : Int) (month : Nat) : daysInMonth year month ≤ 31 := by
  simp only [daysInMonth]
  split
  · split <;> decide
  · split <;> decide

theorem IsShort.day_lt (h : date.IsShort) : date.day < 100 := by
  have valid := h.valid
  have most := daysInMonth_le date.year date.month
  simp only [isValid, Bool.and_eq_true, decide_eq_true_iff] at valid
  omega

theorem IsShort.toList_toText (h : date.IsShort) :
    date.toText.toList = (Digits.padded 4 date.year.toNat).toList ++
      '-' :: ((Digits.padded 2 date.month).toList ++ '-' :: (Digits.padded 2 date.day).toList) := by
  simp [toText, yearText, h.early, h.late]

theorem IsShort.toText_injective {other : Date} (h : date.IsShort) (h' : other.IsShort)
    (same : date.toText = other.toText) : date = other := by
  have text : date.toText.toList = other.toText.toList := by rw [same]
  rw [h.toList_toText, h'.toList_toText] at text
  have years := (Digits.length_padded 4 (by decide) h.year_lt).trans
    (Digits.length_padded 4 (by decide) h'.year_lt).symm
  have months := (Digits.length_padded 2 (by decide) h.month_lt).trans
    (Digits.length_padded 2 (by decide) h'.month_lt).symm
  obtain ⟨years, rest⟩ := List.append_inj text years
  obtain ⟨months, rest⟩ := List.append_inj (List.cons.inj rest).2 months
  have days := (List.cons.inj rest).2
  have year := Digits.padded_injective (String.toList_inj.mp years)
  have month := Digits.padded_injective (String.toList_inj.mp months)
  have day := Digits.padded_injective (String.toList_inj.mp days)
  have early := h.early
  have early' := h'.early
  cases date
  cases other
  simp only [Date.mk.injEq]
  refine ⟨?_, month, day⟩
  simp only at year early early'
  omega

theorem IsShort.isName (h : date.IsShort) : Path.IsName date.toText := by
  have years := Digits.length_padded 4 (by decide) h.year_lt
  have length : 4 ≤ date.toText.toList.length := by
    rw [h.toList_toText, List.length_append, years]
    exact Nat.le_add_right _ _
  have noSlash : ∀ width n, '/' ∉ (Digits.padded width n).toList := fun width n member =>
    absurd (Digits.isDigit_padded member) (by decide)
  exact .of_length (by omega) (by simp [h.toList_toText, noSlash])

end Date

end StepSheet
