import Mathlib.Algebra.Order.Field.Power
import Mathlib.Data.Rat.Cast.Order
import Mathlib.Tactic.Linarith
import Mathlib.Tactic.Positivity
import StepSheet.Proofs.Text.Digits
import StepSheet.Proofs.Text.Folded
import StepSheet.Proofs.Workbook.Readers

/-!
# Step numbers in any form

A cell holds a whole number as itself, as a floating-point number that is equal to it, or as a
text. The step number of a row is the number in its cell, in whichever of these forms, as long as
it is not negative and lies below `2 ^ 32`. Every other number is refused with the error that asks
for a positive one, and zero, which is not positive either, is taken.
-/

namespace StepSheet

/-! ### The value of a floating-point number -/

namespace Binary64

/-- The number that a finite value is. -/
def value? : Binary64 → Option ℚ
  | .finite negative m e => some ((if negative then -1 else 1) * m * 2 ^ e)
  | _ => none

theorem magnitude_eq (m : Nat) (e : Int) :
    (m : ℚ) * 2 ^ e = numerator m e / denominator e := by
  have split : e = (e.toNat : Int) - (-e).toNat := by omega
  calc (m : ℚ) * 2 ^ e
      = m * 2 ^ ((e.toNat : Int) - (-e).toNat) := by rw [← split]
    _ = m * (2 ^ e.toNat / 2 ^ (-e).toNat) := by
        rw [zpow_sub₀ two_ne_zero, zpow_natCast, zpow_natCast]
    _ = numerator m e / denominator e := by
        simp only [numerator, denominator, Nat.pow_eq]
        push_cast
        rw [mul_div_assoc]

theorem denominator_pos (e : Int) : 0 < denominator e := Nat.pow_pos (by decide)

/-- A quotient is a whole number if nothing remains of the division. -/
theorem div_eq_natCast_iff {num den n : Nat} (positive : 0 < den) :
    (num : ℚ) / den = n ↔ num % den = 0 ∧ num / den = n := by
  have nonzero : (den : ℚ) ≠ 0 := Nat.cast_ne_zero.mpr positive.ne'
  rw [div_eq_iff nonzero, ← Nat.cast_mul, Nat.cast_inj]
  constructor
  · rintro rfl
    exact ⟨Nat.mul_mod_left n den, Nat.mul_div_cancel n positive⟩
  · rintro ⟨whole, rfl⟩
    exact (Nat.div_mul_cancel (Nat.dvd_of_mod_eq_zero whole)).symm

/-- Only a finite value that is a natural number is read as one, also if it is a negative zero. -/
theorem toNat?_eq_some_iff {x : Binary64} {n : Nat} :
    x.toNat? = some n ↔ x.value? = some (n : ℚ) := by
  cases x with
  | nan | infinite => simp [toNat?, value?]
  | finite negative m e =>
      by_cases zero : m = 0
      · simp [toNat?, value?, zero, eq_comm]
      · cases negative with
        | true =>
            have positive : 0 < (m : ℚ) * 2 ^ e := by positivity
            have differ : -((m : ℚ) * 2 ^ e) ≠ n := by
              have nonnegative : (0 : ℚ) ≤ n := Nat.cast_nonneg n
              linarith
            simp [toNat?, value?, zero, differ]
        | false =>
            simp [toNat?, value?, zero, magnitude_eq, div_eq_natCast_iff (denominator_pos e)]

end Binary64

/-! ### The text of a whole number -/

namespace Digits

/-- A whole number as it may be written: in decimal, or, if it is not negative, also with zeros
and a plus in front. -/
inductive Spells : List Char → Int → Prop
  | decimal (n : Int) : Spells (toString n).toList n
  | numeral {cs : List Char} {n : Nat} (written : IsNumeral cs n) : Spells cs n

variable {cs : List Char} {n : Int}

/-- A number is written in digits with a minus in front if it is negative, and otherwise as a
numeral. -/
theorem Spells.negative_or_numeral (h : Spells cs n) :
    (n < 0 ∧ cs = '-' :: Nat.toDigits 10 (-n).toNat) ∨ ∃ k : Nat, n = k ∧ IsNumeral cs k := by
  cases h with
  | decimal =>
      by_cases negative : n < 0
      · exact .inl ⟨negative, toList_toString_of_neg negative⟩
      · obtain ⟨k, rfl⟩ := Int.eq_ofNat_of_zero_le (Int.not_lt.mp negative)
        exact .inr ⟨k, rfl, _, .inl (toList_toString_natCast k), write_toDigits k⟩
  | numeral written => exact .inr ⟨_, rfl, written⟩

theorem Spells.isTrimmed (h : Spells cs n) : Chars.IsTrimmed cs := by
  have ink {digits : List Char} (all : ∀ c ∈ digits, c.isDigit = true) :
      ∀ c ∈ digits, isBlank c = false := fun c member => isBlank_of_isDigit (all c member)
  apply Chars.IsTrimmed.of_forall
  obtain ⟨-, rfl⟩ | ⟨k, -, digits, rfl | rfl, written⟩ := h.negative_or_numeral
  · exact List.forall_mem_cons.mpr ⟨by decide, ink fun _ => isDigit_toDigits⟩
  · exact ink written.digits
  · exact List.forall_mem_cons.mpr ⟨by decide, ink written.digits⟩

theorem Spells.ne_nil (h : Spells cs n) : cs ≠ [] := by
  obtain ⟨-, rfl⟩ | ⟨k, -, digits, rfl | rfl, written⟩ := h.negative_or_numeral
  · exact List.cons_ne_nil _ _
  · exact written.nonempty
  · exact List.cons_ne_nil _ _

/-- Of the numbers that are written in some way, those that are not negative are read. -/
theorem Spells.parseBelow?_eq_some_iff (h : Spells cs n) {bound k : Nat} :
    parseBelow? bound cs = some k ↔ n = k ∧ k < bound := by
  rw [Digits.parseBelow?_eq_some_iff, and_comm]
  refine and_congr_left fun _ => ?_
  obtain ⟨negative, rfl⟩ | ⟨m, rfl, numeral⟩ := h.negative_or_numeral
  · constructor
    · rintro ⟨digits, rfl | same, written⟩
      · exact absurd (written.digits '-' List.mem_cons_self) (by decide)
      · exact absurd (List.cons.inj same).1 (by decide)
    · omega
  · rw [Int.ofNat_inj]
    constructor
    · exact numeral.unique
    · rintro rfl
      exact numeral

end Digits

/-! ### The number in a cell -/

/-- A cell holds a whole number: as itself, as a floating-point number that is equal to it, or
written as a text that may have blanks around it. -/
inductive Cell.Holds : Cell → Int → Prop
  | int (n : Int) : Holds (.int n) n
  | float {x : Binary64} {n : Int} (exact : x.value? = some (n : ℚ)) : Holds (.float x) n
  | text {s : String} {before cs after : List Char} {n : Int}
      (written : s.toList = before ++ cs ++ after) (blank : before.all isBlank)
      (blank' : after.all isBlank) (spelled : Digits.Spells cs n) : Holds (.text s) n

namespace Cell

variable {cell : Cell} {n : Int}

theorem number?_int_eq_some_iff {k : Nat} :
    (Cell.int n).number? = some k ↔ n = k ∧ k < 2 ^ 32 := by
  have bound : (Word.count 32 : Int) = 2 ^ 32 := rfl
  rw [number?, bound, Option.ite_none_right_eq_some, Option.some.injEq]
  omega

theorem number?_float_eq_some_iff {x : Binary64} {k : Nat} :
    (Cell.float x).number? = some k ↔ x.value? = some (k : ℚ) ∧ k < 2 ^ 32 := by
  have bound : Word.count 32 = 2 ^ 32 := rfl
  simp only [number?, bound, Option.bind_eq_some_iff, Option.ite_none_right_eq_some,
    Option.some.injEq, Binary64.toNat?_eq_some_iff]
  constructor
  · rintro ⟨m, value, below, rfl⟩
    exact ⟨value, below⟩
  · rintro ⟨value, below⟩
    exact ⟨k, value, below, rfl⟩

/-- The step number of a cell is the number that it holds, if it is not negative and below
`2 ^ 32`, in whichever form it holds it. -/
theorem Holds.number?_eq_some_iff (h : cell.Holds n) {k : Nat} :
    cell.number? = some k ↔ n = k ∧ k < 2 ^ 32 := by
  cases h with
  | int => exact number?_int_eq_some_iff
  | float exact =>
      rw [number?_float_eq_some_iff, exact, Option.some.injEq]
      norm_cast
  | text written blank blank' spelled =>
      rw [number?, written, Chars.trim_append blank blank', spelled.isTrimmed.trim_eq,
        spelled.parseBelow?_eq_some_iff]
      rfl

theorem holds_of_number? {k : Nat} (h : cell.number? = some k) : cell.Holds k := by
  cases cell with
  | int value =>
      rw [(number?_int_eq_some_iff.mp h).1]
      exact .int k
  | float x => exact .float (number?_float_eq_some_iff.mp h).1
  | text s =>
      obtain ⟨-, numeral⟩ := Digits.parseBelow?_eq_some_iff.mp h
      obtain ⟨before, after, written, blank, blank'⟩ := Chars.exists_around_trim s.toList
      exact .text written blank blank' (.numeral numeral)
  | bool value => cases h

/-- A cell has a step number exactly if it holds a number that is not negative and below
`2 ^ 32`. -/
theorem number?_eq_some_iff {k : Nat} : cell.number? = some k ↔ cell.Holds k ∧ k < 2 ^ 32 := by
  constructor
  · intro read
    have holds := holds_of_number? read
    exact ⟨holds, (holds.number?_eq_some_iff.mp read).2⟩
  · rintro ⟨holds, below⟩
    exact holds.number?_eq_some_iff.mpr ⟨rfl, below⟩

/-- A cell that holds a number is not blank. -/
theorem Holds.not_isBlank {s : String} (h : (Cell.text s).Holds n) : ¬ Text.isBlank s := by
  rintro blank
  cases h with
  | text written blankBefore blankAfter spelled =>
      have none : Chars.trim s.toList = [] := Chars.trim_of_blank blank
      rw [written, Chars.trim_append blankBefore blankAfter, spelled.isTrimmed.trim_eq] at none
      exact spelled.ne_nil none

end Cell

/-! ### The number of a step -/

namespace Row

variable {row : Row} {sheet : String} {number : Nat} {cell : Cell} {n : Int}

/-- What is in a cell that is there and not blank, but has no step number, is told in the
error. -/
theorem stepNumber_of_number?_eq_none (found : row.cell? .step = some cell)
    (shown : ∀ s, cell = .text s → ¬ Text.isBlank s) (other : cell.number? = none) :
    row.stepNumber sheet number = .error (.invalidStep sheet number cell.display) := by
  rw [stepNumber, found]
  cases cell with
  | int value =>
      rw [Cell.number?, ite_eq_right_iff] at other
      exact if_neg fun inside => Option.some_ne_none _ (other inside)
  | float x =>
      rw [Cell.number?] at other
      dsimp only
      cases whole : x.toNat? with
      | none => rfl
      | some m =>
          rw [whole, Option.bind_some, ite_eq_right_iff] at other
          exact if_neg fun inside => Option.some_ne_none _ (other inside)
  | text s =>
      rw [Cell.number?] at other
      dsimp only
      rw [if_neg (shown s rfl), other]
      rfl
  | bool value => rfl

/-- A cell that holds a whole number gives the same verdict in each form. -/
theorem stepNumber_of_holds (found : row.cell? .step = some cell) (holds : cell.Holds n) :
    row.stepNumber sheet number =
      if 0 ≤ n ∧ n < 2 ^ 32 then .ok n.toNat
      else .error (.invalidStep sheet number cell.display) := by
  split
  · next inside =>
    rw [stepNumber_eq_ok_iff, found, Option.bind_some, holds.number?_eq_some_iff]
    omega
  · next outside =>
    refine stepNumber_of_number?_eq_none found ?_ ?_
    · rintro s rfl
      exact holds.not_isBlank
    · refine Option.eq_none_iff_forall_ne_some.mpr fun k read => ?_
      have := holds.number?_eq_some_iff.mp read
      omega

theorem stepNumber_eq_ok_iff_holds {k : Nat} :
    row.stepNumber sheet number = .ok k ↔
      ∃ cell, row.cell? .step = some cell ∧ cell.Holds k ∧ k < 2 ^ 32 := by
  simp only [stepNumber_eq_ok_iff, Option.bind_eq_some_iff, Cell.number?_eq_some_iff]

/-- A row whose step number is a zero, in whichever form. -/
def CountsZero (row : Row) : Prop := ∃ cell, row.cell? .step = some cell ∧ cell.Holds 0

/-- The step that a row declares has a positive number unless the row counts zero. -/
theorem Declares.positive_iff {step : StepRow} (h : row.Declares step) :
    1 ≤ step.step ↔ ¬ row.CountsZero := by
  obtain ⟨cell, found, read⟩ := Option.bind_eq_some_iff.mp h.number
  rw [Nat.one_le_iff_ne_zero, not_iff_not]
  constructor
  · intro zero
    rw [zero] at read
    exact ⟨cell, found, Cell.holds_of_number? read⟩
  · rintro ⟨cell', found', holds⟩
    obtain rfl : cell' = cell := Option.some.inj (found'.symm.trans found)
    exact_mod_cast (holds.number?_eq_some_iff.mp read).1.symm

/-- A row of a table that has an action has a positive number unless it counts zero. -/
theorem DeclaresModule.positive_iff {declared : ModuleRow} (h : row.DeclaresModule declared) :
    (∀ step, declared.step = some step → 1 ≤ step.step) ↔ (row.HasAction → ¬ row.CountsZero) := by
  cases held : declared.step with
  | none =>
      have idle : ¬ row.HasAction := h.unused.mp held
      simp [idle]
  | some step =>
      have declares : row.Declares step := h.step step held
      have acts : row.HasAction := IsStep.hasAction ⟨step, declares⟩
      simp [acts, declares.positive_iff]

end Row

namespace Workbook

/-- A number in the column of step numbers has one verdict in all its forms: it is the number of
the step if it is not negative and below `2 ^ 32`, and otherwise the error tells the sheet, the
row and what is in the cell. Nothing else is taken for a step number. So the steps of a test case
and those of a table of modules are numbered from one on exactly if no row that is read as a step
has a zero for its number. -/
theorem step_numbers_alike (row : Row) (sheet : String) (number : Nat) :
    (∀ cell n, row.cell? .step = some cell → cell.Holds n →
      row.stepNumber sheet number =
        if 0 ≤ n ∧ n < 2 ^ 32 then .ok n.toNat
        else .error (.invalidStep sheet number cell.display)) ∧
    (∀ value, (PlanError.invalidStep sheet number value).message =
      s!"sheet '{sheet}' row {number}: STEP must be a positive whole number, got '{value}'") ∧
    (∀ k, row.stepNumber sheet number = .ok k ↔
      ∃ cell, row.cell? .step = some cell ∧ cell.Holds k ∧ k < 2 ^ 32) ∧
    ∀ (book : Workbook) name sheet, book.sheet? name = some sheet →
      (∀ steps, book.testSteps name = .ok steps →
        ((∀ step ∈ steps, 1 ≤ step.step) ↔ ∀ row ∈ sheet.rows, ¬ row.CountsZero)) ∧
      ∀ table, book.moduleTable name = .ok table →
        ((∀ declared ∈ table.rows, ∀ step, declared.step = some step → 1 ≤ step.step) ↔
          ∀ row ∈ sheet.rows, row.HasAction → ¬ row.CountsZero) := by
  refine ⟨fun _ _ => Row.stepNumber_of_holds, fun _ => rfl,
    fun _ => Row.stepNumber_eq_ok_iff_holds, ?_⟩
  intro book name sheet found
  constructor
  · intro steps read
    exact forall_mem_iff_of_forall₂ ((testSteps_eq_ok_iff found).mp read)
      fun _ _ declares => declares.positive_iff
  · intro table read
    exact forall_mem_iff_of_forall₂ ((moduleTable_eq_ok_iff found).mp read)
      fun _ _ declares => declares.positive_iff

def clickAt (cell : Cell) : Row :=
  .ofList [("STEP", cell), ("STEPDESCRIPTION", .text "in"), ("ACTIONTYPE", .text "CLICKBUTTON")]

def clickingAt (cell : Cell) : Workbook := ⟨[⟨"TestIn", [clickAt cell]⟩]⟩

/-- Seven is the number of a step in each form, and the first number beyond the greatest one of
none. -/
theorem seven_in_any_form :
    (∀ cell ∈ [Cell.int 7, .float (Binary64.ofNat 7), .text " 7\t", .text "+07"],
      cell.Holds 7 ∧ (clickAt cell).stepNumber "TestIn" 1 = .ok 7) ∧
    (Cell.float (Binary64.ofNat 4294967296)).Holds 4294967296 ∧
    (clickAt (.float (Binary64.ofNat 4294967296))).stepNumber "TestIn" 1 =
      .error (.invalidStep "TestIn" 1 "4294967296") ∧
    (clickingAt (.text " 7\t")).testSteps "TestIn" =
      .ok [⟨7, "in", "CLICKBUTTON", none, none, none⟩] ∧
    ¬ (clickAt (.text " 7\t")).CountsZero := by
  have floats : Binary64.ofNat 7 = .finite false 7881299347898368 (-50) ∧
      Binary64.ofNat 4294967296 = .finite false 4503599627370496 (-20) := by decide +kernel
  have seven : ∀ cell ∈ [Cell.int 7, .float (Binary64.ofNat 7), .text " 7\t", .text "+07"],
      cell.Holds 7 := by
    have digits : ['0', '7'].all Char.isDigit := by decide
    have padded : Digits.Write ['0', '7'] 7 := ⟨by decide, List.all_eq_true.mp digits, by decide⟩
    simp only [List.forall_mem_cons, List.not_mem_nil, false_implies, implies_true, and_true]
    refine ⟨.int 7, .float ?_, ?_, ?_⟩
    · rw [floats.1, Binary64.value?]
      norm_num
    · have written : " 7\t".toList = [' '] ++ (toString (7 : Int)).toList ++ ['\t'] := by decide
      exact .text written (by decide) (by decide) (.decimal 7)
    · have written : "+07".toList = [] ++ ['+', '0', '7'] ++ [] := by decide
      exact .text written (by decide) (by decide) (.numeral ⟨_, .inr rfl, padded⟩)
  have beyond : (Cell.float (Binary64.ofNat 4294967296)).Holds 4294967296 := by
    refine .float ?_
    rw [floats.2, Binary64.value?]
    norm_num
  have found : (clickAt (.float (Binary64.ofNat 4294967296))).cell? .step =
      some (.float (Binary64.ofNat 4294967296)) := by decide +kernel
  have each : ∀ cell ∈ [Cell.int 7, .float (Binary64.ofNat 7), .text " 7\t", .text "+07"],
      (clickAt cell).cell? .step = some cell := by decide +kernel
  have read : (clickingAt (.text " 7\t")).testSteps "TestIn" =
      .ok [⟨7, "in", "CLICKBUTTON", none, none, none⟩] := by decide +kernel
  refine ⟨fun cell member => ⟨seven cell member, ?_⟩, beyond, ?_, read, ?_⟩
  · exact (step_numbers_alike _ "TestIn" 1).1 cell 7 (each cell member) (seven cell member)
  · rw [(step_numbers_alike _ "TestIn" 1).1 _ _ found beyond]
    decide +kernel
  · obtain ⟨-, -, -, readers⟩ := step_numbers_alike (clickAt (.text " 7\t")) "TestIn" 1
    have positive := ((readers _ "TestIn" _ rfl).1 _ read).mp (by decide)
    exact positive _ List.mem_cons_self

/-- Zero is taken for the number of a step, though the error of a number that is not taken asks
for a positive one. -/
theorem zero_taken_for_step :
    (clickAt (.int 0)).cell? .step = some (.int 0) ∧ (Cell.int 0).Holds 0 ∧
    (clickAt (.int 0)).stepNumber "TestIn" 1 = .ok 0 ∧
    (clickAt (.float (Binary64.ofNat 0))).stepNumber "TestIn" 1 = .ok 0 ∧
    (clickAt (.text "0")).stepNumber "TestIn" 1 = .ok 0 ∧
    (clickingAt (.int 0)).testSteps "TestIn" =
      .ok [⟨0, "in", "CLICKBUTTON", none, none, none⟩] := by
  refine ⟨rfl, .int 0, ?_⟩
  decide +kernel

end Workbook

end StepSheet
