import StepSheet.Number.Word
import StepSheet.Text.Blank
import StepSheet.Text.Digit

/-!
# Numbers in digits

A number is read back from its decimal digits, also from those that are filled with zeros
up to a width. Below a bound a number is read from any digits that write it, with or without a
plus in front, and from nothing else.
-/

namespace StepSheet

namespace Digits

theorem toNatFrom_cons (acc : Nat) (c : Char) (cs : List Char) :
    toNatFrom acc (c :: cs) = toNatFrom (acc * 10 + value c) cs := by
  rfl

theorem toNatFrom_eq (acc : Nat) (cs : List Char) :
    toNatFrom acc cs = Nat.ofDigitChars 10 cs acc := by
  induction cs generalizing acc with
  | nil => rfl
  | cons c cs ih =>
      rw [toNatFrom_cons, ih, Nat.ofDigitChars_cons, Nat.mul_comm acc]
      rfl

theorem toNat_toDigits (n : Nat) : toNat (Nat.toDigits 10 n) = n := by
  rw [toNat, toNatFrom_eq, Nat.ofDigitChars_toDigits (by decide) (by decide)]

theorem isDigit_toDigits {n : Nat} {c : Char} (h : c ∈ Nat.toDigits 10 n) : c.isDigit = true :=
  Nat.isDigit_of_mem_toDigits (by decide) (by decide) h

/-- Digits that write a number; there may be zeros in front of the first that counts. -/
structure Write (cs : List Char) (n : Nat) : Prop where
  nonempty : cs ≠ []
  digits : ∀ c ∈ cs, c.isDigit = true
  value : Nat.ofDigitChars 10 cs 0 = n

theorem write_toDigits (n : Nat) : Write (Nat.toDigits 10 n) n where
  nonempty := Nat.toDigits_ne_nil
  digits _ := isDigit_toDigits
  value := Nat.ofDigitChars_toDigits (by decide) (by decide)

theorem parse?_eq_some_iff {cs : List Char} {n : Nat} : parse? cs = some n ↔ Write cs n := by
  rw [parse?, toNat, toNatFrom_eq]
  constructor
  · intro read
    split at read
    · cases read
    · next digits =>
      simp only [Bool.or_eq_true, List.isEmpty_iff, Bool.not_eq_true', not_or,
        Bool.not_eq_false, List.all_eq_true] at digits
      exact ⟨digits.1, digits.2, Option.some.inj read⟩
  · rintro ⟨nonempty, digits, rfl⟩
    have all : cs.all Char.isDigit = true := List.all_eq_true.mpr digits
    simp [nonempty, all]

/-- Digits that write a number, or a plus and digits that do. -/
def IsNumeral (cs : List Char) (n : Nat) : Prop :=
  ∃ digits, (cs = digits ∨ cs = '+' :: digits) ∧ Write digits n

theorem parseBelow?_plus (bound : Nat) (rest : List Char) :
    parseBelow? bound ('+' :: rest) = (parse? rest).filter (· < bound) := by
  rw [parseBelow?]
  cases parse? rest with
  | none => rfl
  | some n => simp [Option.filter]

theorem parseBelow?_unsigned {cs : List Char} (bound : Nat) (h : ∀ rest, cs ≠ '+' :: rest) :
    parseBelow? bound cs = (parse? cs).filter (· < bound) := by
  rw [parseBelow?.eq_def]
  simp only
  split
  · next n read => simp [read, Option.filter]
  · next read => simp [read]

/-- Below a bound a number is read from its numerals and from nothing else. -/
theorem parseBelow?_eq_some_iff {bound n : Nat} {cs : List Char} :
    parseBelow? bound cs = some n ↔ n < bound ∧ IsNumeral cs n := by
  -- A plus is no digit, so that the two ways to write a number exclude each other.
  have plus (rest : List Char) : ¬ Write ('+' :: rest) n := fun written =>
    absurd (written.digits '+' List.mem_cons_self) (by decide)
  by_cases signed : ∃ rest, cs = '+' :: rest
  · obtain ⟨rest, rfl⟩ := signed
    rw [parseBelow?_plus, Option.filter_eq_some_iff, parse?_eq_some_iff, decide_eq_true_iff,
      and_comm]
    simp [IsNumeral, plus]
  · have unsigned : ∀ rest, cs ≠ '+' :: rest := not_exists.mp signed
    rw [parseBelow?_unsigned bound unsigned, Option.filter_eq_some_iff, parse?_eq_some_iff,
      decide_eq_true_iff, and_comm]
    simp [IsNumeral, unsigned]

/-- A numeral writes one number. -/
theorem IsNumeral.unique {cs : List Char} {m n : Nat} (h : IsNumeral cs m)
    (h' : IsNumeral cs n) : m = n := by
  have first : parseBelow? (m + n + 1) cs = some m :=
    parseBelow?_eq_some_iff.mpr ⟨by omega, h⟩
  have second : parseBelow? (m + n + 1) cs = some n :=
    parseBelow?_eq_some_iff.mpr ⟨by omega, h'⟩
  exact Option.some.inj (first.symm.trans second)

theorem parseBelow?_toDigits {bound n : Nat} (h : n < bound) :
    parseBelow? bound (Nat.toDigits 10 n) = some n :=
  parseBelow?_eq_some_iff.mpr ⟨h, _, .inl rfl, write_toDigits n⟩

theorem lt_of_parseBelow? {bound n : Nat} {cs : List Char}
    (h : parseBelow? bound cs = some n) : n < bound :=
  (parseBelow?_eq_some_iff.mp h).1

theorem toList_toString_natCast (n : Nat) : (toString (n : Int)).toList = Nat.toDigits 10 n := by
  rw [Int.toString_eq_repr, Int.repr_eq_if, if_pos (Int.natCast_nonneg n), Nat.toList_repr,
    Int.toNat_natCast]

theorem toList_toString_of_neg {n : Int} (negative : n < 0) :
    (toString n).toList = '-' :: Nat.toDigits 10 (-n).toNat := by
  rw [Int.toString_eq_repr, Int.repr_eq_if, if_neg (Int.not_le.mpr negative),
    String.toList_append, Nat.toList_repr]
  rfl

theorem isDigit_padded {width n : Nat} {c : Char} (h : c ∈ (padded width n).toList) :
    c.isDigit = true := by
  simp only [padded, String.toList_ofList, List.mem_append, List.mem_replicate] at h
  rcases h with ⟨-, rfl⟩ | written
  · rfl
  · exact isDigit_toDigits written

theorem length_padded (width : Nat) {n : Nat} (positive : 0 < width) (h : n < Nat.pow 10 width) :
    (padded width n).toList.length = width := by
  have short := (Nat.length_toDigits_le_iff (b := 10) (by decide) positive).mpr h
  simp only [padded, String.toList_ofList, List.length_append, List.length_replicate]
  omega

theorem padded_ne_nil (width n : Nat) : (padded width n).toList ≠ [] := by
  rw [padded, String.toList_ofList]
  exact List.append_ne_nil_of_right_ne_nil _ Nat.toDigits_ne_nil

theorem toNat_padded (width n : Nat) : toNat (padded width n).toList = n := by
  have zero : 0 * 10 + value '0' = 0 := by decide
  have zeros : ∀ k cs, toNatFrom 0 (List.replicate k '0' ++ cs) = toNatFrom 0 cs := by
    intro k cs
    induction k with
    | zero => rfl
    | succ k ih => rw [List.replicate_succ, List.cons_append, toNatFrom_cons, zero, ih]
  have digits := toNat_toDigits n
  rw [toNat] at digits ⊢
  rw [padded, String.toList_ofList, zeros, digits]

theorem le_toNatFrom (acc : Nat) (cs : List Char) : acc ≤ toNatFrom acc cs := by
  induction cs generalizing acc with
  | nil => exact Nat.le_refl acc
  | cons c cs ih =>
      rw [toNatFrom_cons]
      have := ih (acc * 10 + value c)
      omega

/-- No digits of a positive number begin with a zero. -/
theorem head?_toDigits {n : Nat} (positive : 0 < n) : (Nat.toDigits 10 n).head? ≠ some '0' := by
  induction n using Nat.strongRecOn with
  | _ n ih =>
      rw [Nat.toDigits_eq_if (by decide)]
      split
      · next below =>
        have digits : ∀ d < 10, 0 < d → [d.digitChar].head? ≠ some '0' := by decide
        exact digits n below positive
      · next above =>
        have front := ih (n / 10) (by omega) (by omega)
        cases digits : Nat.toDigits 10 (n / 10) with
        | nil => exact absurd digits Nat.toDigits_ne_nil
        | cons d ds => rwa [digits] at front

/-- A control character in hexadecimal, filled up to four digits. -/
theorem hexToNat?_hex : ∀ n < 0x20,
    (List.replicate (4 - (hex n).length) '0' ++ hex n).length = 4 ∧
      hexToNat? (List.replicate (4 - (hex n).length) '0' ++ hex n) = some n := by
  decide

theorem padded_injective {width m n : Nat} (h : padded width m = padded width n) : m = n := by
  rw [← toNat_padded width m, h, toNat_padded]

end Digits

theorem isBlank_of_isDigit {c : Char} (digit : c.isDigit = true) : isBlank c = false := by
  have bounds := Char.isDigit_iff_toNat.mp digit
  simp only [Char.reduceToNat] at bounds
  simp only [isBlank, Bool.or_eq_false_iff, Bool.and_eq_false_iff, decide_eq_false_iff_not,
    beq_eq_false_iff_ne]
  omega

theorem Unicode.isDecimalDigit_of_isDigit {c : Char} (h : c.isDigit = true) :
    isDecimalDigit c = true := by
  have ascii : c.toNat ≤ 0x7F := by
    simp only [Char.isDigit, Bool.and_eq_true, decide_eq_true_iff] at h
    have := UInt32.le_iff_toNat_le.mp h.2
    simp only [Char.toNat]
    exact Nat.le_trans this (by decide)
  rw [isDecimalDigit, if_pos ascii, h]

end StepSheet
