import StepSheet.Json.Printer
import StepSheet.Json.Reader
import StepSheet.Proofs.Text.Digits

/-!
# Leaves of a document

A text in quotes reads back as it was, whatever characters it has, and so does an integer of 64
bits. The reader stops right after the closing quote, and after the last digit if what follows
does not go on with the number.
-/

namespace StepSheet.Json

/-! ### Texts -/

theorem textBody_plain {c : Char} (quote : c ≠ '"') (backslash : c ≠ '\\')
    (printed : ¬ c.toNat < 0x20) (taken cs : List Char) :
    textBody (some taken) none (c :: cs) = textBody (some (c :: taken)) none cs := by
  simp [textBody, backslash, printed]

/-- A character is read back from the way it stands within a text. -/
theorem textBody_escape (taken : List Char) (c : Char) (cs : List Char) :
    textBody (some taken) none (escape c ++ cs) = textBody (some (c :: taken)) none cs := by
  rw [escape]
  split
  · next same => subst same; rfl
  split
  · next same => subst same; rfl
  split
  · next same => subst same; rfl
  split
  · next same => subst same; rfl
  split
  · next same => subst same; rfl
  split
  · next same => subst same; rfl
  split
  · next same => subst same; rfl
  split
  · next control =>
    obtain ⟨four, value⟩ := Digits.hexToNat?_hex c.toNat control
    simp only [List.append_assoc]
    rw [← List.append_assoc (List.replicate _ _)]
    generalize List.replicate (4 - (Digits.hex c.toNat).length) '0' ++ Digits.hex c.toNat = digits
      at four value
    obtain ⟨a, b, d, e, rfl⟩ : ∃ a b d e, digits = [a, b, d, e] := by
      match digits, four with
      | [a, b, d, e], _ => exact ⟨a, b, d, e, rfl⟩
    simp only [List.cons_append, List.nil_append]
    rw [textBody, value]
    have low : ¬ (0xDC00 ≤ c.toNat ∧ c.toNat ≤ 0xDFFF) := by omega
    have high : ¬ (0xD800 ≤ c.toNat ∧ c.toNat ≤ 0xDBFF) := by omega
    simp only [if_neg low, if_neg high, Option.isSome_none, Bool.false_eq_true, if_false,
      Option.map_some, Char.ofNat_toNat]
  · next quote backslash _ _ _ _ _ printed => exact textBody_plain quote backslash printed taken cs

theorem textBody_escapes (taken cs rest : List Char) :
    textBody (some taken) none (cs.flatMap escape ++ '"' :: rest) =
      some (some (taken.reverse ++ cs), rest) := by
  induction cs generalizing taken with
  | nil => simp [textBody]
  | cons c cs ih =>
      rw [List.flatMap_cons, List.append_assoc, textBody_escape, ih]
      simp

/-- A text is read back from what stands after its opening quote. -/
theorem text?_quote (s : String) (rest : List Char) :
    text? (s.toList.flatMap escape ++ '"' :: rest) = some (some s, rest) := by
  rw [text?, textBody_escapes]
  simp

/-! ### Integers -/

/-- Characters with which a number does not go on. -/
def Ends (rest : List Char) : Prop :=
  ∀ c ∈ rest.head?, c.isDigit = false ∧ c ≠ '.' ∧ c ≠ 'e' ∧ c ≠ 'E'

theorem ends_nil : Ends [] := by simp [Ends]

theorem ends_cons {c : Char} (digit : c.isDigit = false) (point : c ≠ '.') (small : c ≠ 'e')
    (capital : c ≠ 'E') (rest : List Char) : Ends (c :: rest) := by
  simp [Ends, digit, point, small, capital]

theorem spanDigits_append {digits rest : List Char} (all : ∀ c ∈ digits, c.isDigit = true)
    (ends : Ends rest) : Decimal.spanDigits (digits ++ rest) = (digits, rest) := by
  have stop : rest.takeWhile Char.isDigit = [] ∧ rest.dropWhile Char.isDigit = rest := by
    cases rest with
    | nil => exact ⟨rfl, rfl⟩
    | cons c rest => simp [(ends c rfl).1]
  rw [Decimal.spanDigits, List.takeWhile_append_of_pos all, List.dropWhile_append_of_pos all,
    stop.1, stop.2, List.append_nil]

/-- Digits that write a number of 64 bits all fit into the significand. -/
theorem gather_eq {acc : Nat} (count : Nat) {cs : List Char}
    (fits : Digits.toNatFrom acc cs < Word.count 64) :
    gather acc count cs = (Digits.toNatFrom acc cs, count + cs.length) := by
  induction cs generalizing acc count with
  | nil => rfl
  | cons c cs ih =>
      rw [Digits.toNatFrom_cons] at fits ⊢
      have next := Nat.lt_of_le_of_lt (Digits.le_toNatFrom _ cs) fits
      rw [gather]
      simp only [if_pos next]
      rw [ih (count + 1) fits, List.length_cons]
      congr 1
      omega

theorem numberOf_whole (negative : Bool) {n : Nat} (fits : n < Word.count 64) :
    numberOf negative (Nat.toDigits 10 n) none none =
      if !negative then .integer n
      else if n = 0 then .number (Binary64.zero true)
      else if n ≤ Word.count 63 then .integer (-n)
      else .number (Binary64.ofNat n).neg := by
  have digits : Digits.toNatFrom 0 (Nat.toDigits 10 n) = n := Digits.toNat_toDigits n
  have gathered := gather_eq 0 (digits.symm ▸ fits : Digits.toNatFrom 0 (Nat.toDigits 10 n) < _)
  rw [digits, Nat.zero_add] at gathered
  simp only [numberOf, gathered, if_true]

/-- A number without a point and an exponent ends where the digits do. -/
theorem number?_whole (negative : Bool) (n : Nat) {rest : List Char} (ends : Ends rest) :
    number? ((if negative then ['-'] else []) ++ (Nat.toDigits 10 n ++ rest)) =
      some (numberOf negative (Nat.toDigits 10 n) none none, rest) := by
  have span := spanDigits_append (fun c => Digits.isDigit_toDigits (n := n)) ends
  have single : (Nat.toDigits 10 n).head? = some '0' → ¬ 1 < (Nat.toDigits 10 n).length := by
    intro zero
    rcases Nat.eq_zero_or_pos n with rfl | positive
    · decide
    · exact absurd zero (Digits.head?_toDigits positive)
  have unsigned : ∀ cs, Nat.toDigits 10 n ++ rest ≠ '-' :: cs := by
    intro cs same
    cases digits : Nat.toDigits 10 n with
    | nil => exact Nat.toDigits_ne_nil digits
    | cons d ds =>
        rw [digits, List.cons_append] at same
        have minus : d.isDigit = true := Digits.isDigit_toDigits (n := n) (by simp [digits])
        rw [(List.cons.inj same).1] at minus
        exact absurd minus (by decide)
  cases rest with
  | nil =>
      simp only [List.append_nil] at span unsigned
      cases negative <;> simpa [number?, span] using single
  | cons c rest =>
      obtain ⟨-, point, small, capital⟩ := ends c rfl
      cases negative <;> simpa [number?, span, point, small, capital] using single

/-- An integer is read back if it has 64 bits, with a sign or without. -/
theorem number?_integer {n : Int} (least : -(Word.count 63 : Int) ≤ n) (most : n < Word.count 64)
    {rest : List Char} (ends : Ends rest) :
    number? ((toString n).toList ++ rest) = some (.integer n, rest) := by
  rcases Int.lt_or_le n 0 with below | natural
  · have bits : Word.count 64 = 2 * Word.count 63 := by decide
    have fits : (-n).toNat ≤ Word.count 63 := by omega
    have nonzero : (-n).toNat ≠ 0 := by omega
    have back : -((-n).toNat : Int) = n := by omega
    have read := number?_whole true (-n).toNat ends
    rw [numberOf_whole true (by omega)] at read
    simp only [Bool.not_true, Bool.false_eq_true, if_false, if_neg nonzero, if_pos fits, back,
      if_true] at read
    rw [Digits.toList_toString_of_neg below]
    exact read
  · obtain ⟨n, rfl⟩ := Int.eq_ofNat_of_zero_le natural
    have read := number?_whole false n ends
    rw [numberOf_whole false (by omega)] at read
    rw [Digits.toList_toString_natCast]
    exact read

/-- An integer begins with a digit or a minus. -/
theorem exists_cons_toString (n : Int) :
    ∃ c cs, (toString n).toList = c :: cs ∧ (c.isDigit = true ∨ c = '-') := by
  rcases Int.lt_or_le n 0 with below | natural
  · exact ⟨'-', _, Digits.toList_toString_of_neg below, .inr rfl⟩
  · obtain ⟨n, rfl⟩ := Int.eq_ofNat_of_zero_le natural
    rw [Digits.toList_toString_natCast]
    cases digits : Nat.toDigits 10 n with
    | nil => exact absurd digits Nat.toDigits_ne_nil
    | cons d ds => exact ⟨d, ds, rfl, .inl (Digits.isDigit_toDigits (n := n) (by simp [digits]))⟩

end StepSheet.Json
