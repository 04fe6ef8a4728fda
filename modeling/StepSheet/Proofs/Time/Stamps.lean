import StepSheet.Proofs.Time.Dates
import StepSheet.Proofs.Time.Days
import StepSheet.Time.Rfc3339

/-!
# Timestamps read back

The timestamp of an instant, with as many digits of the fraction as there is need of, tells the
instant: also one in a leap second, and one in a year that is written with a sign.
-/

namespace StepSheet

/-- An instant that a timestamp can tell. Its year is one that timestamps have, and a leap
second is the last one of a minute. -/
structure Instant.InRange (t : Instant) : Prop where
  year : Rfc3339.hasYear t.date.year
  nano : t.nano < 1000000000 ∨ t.nano < 2000000000 ∧ t.secondOfDay % 60 = 59

/-! ### Digits -/

namespace Rfc3339

theorem trimLeft_cons {c : Char} (ink : isBlank c = false) (cs : List Char) :
    Chars.trimLeft (c :: cs) = c :: cs := by
  simp [Chars.trimLeft, ink]

theorem trimLeft_digits {digits : List Char} (all : ∀ c ∈ digits, c.isDigit = true)
    (nonempty : digits ≠ []) (rest : List Char) :
    Chars.trimLeft (digits ++ rest) = digits ++ rest := by
  cases digits with
  | nil => exact absurd rfl nonempty
  | cons c digits => exact trimLeft_cons (isBlank_of_isDigit (all c List.mem_cons_self)) _

theorem symbol?_cons {c : Char} (ink : isBlank c = false) (cs : List Char) :
    symbol? c (c :: cs) = some cs := by
  simp [symbol?, trimLeft_cons ink]

variable {n : Nat}

/-- A number of a fixed number of digits is read back, whatever follows. -/
theorem number?_padded (width n : Nat) (positive : 0 < width) (short : n < Nat.pow 10 width)
    (rest : List Char) :
    number? width ((Digits.padded width n).toList ++ rest) = some (n, rest) := by
  have all : ∀ c ∈ (Digits.padded width n).toList, c.isDigit = true :=
    fun _ => Digits.isDigit_padded
  have length := Digits.length_padded width positive short
  have nonempty := Digits.padded_ne_nil width n
  have taken : ((Digits.padded width n).toList ++ rest.takeWhile Char.isDigit).take width =
      (Digits.padded width n).toList := List.take_left' length
  have left : ((Digits.padded width n).toList ++ rest).drop width = rest := List.drop_left' length
  rw [number?, trimLeft_digits all nonempty]
  simp only [List.takeWhile_append_of_pos all, taken, length, left, Digits.toNat_padded]
  simp [nonempty]

/-- Digits are read up to the first character that is none. -/
theorem takeWhile_padded (width : Nat) {c : Char} (other : c.isDigit = false) (rest : List Char) :
    ((Digits.padded width n).toList ++ c :: rest).takeWhile Char.isDigit =
      (Digits.padded width n).toList := by
  have all : ∀ c ∈ (Digits.padded width n).toList, c.isDigit = true :=
    fun _ => Digits.isDigit_padded
  rw [List.takeWhile_append_of_pos all]
  simp [other]

theorem signedYear?_padded (sign : Int) {c : Char} (other : c.isDigit = false)
    (rest : List Char) :
    year?.signedYear? sign ((Digits.padded 4 n).toList ++ c :: rest) =
      some (sign * n, c :: rest) := by
  rw [year?.signedYear?]
  simp only [takeWhile_padded 4 other, Digits.toNat_padded, List.drop_left,
    List.isEmpty_eq_false_iff.mpr (Digits.padded_ne_nil 4 n), Bool.false_eq_true, if_false]

/-- A year is read back, with a sign or without. -/
theorem year?_yearText (year : Int) (rest : List Char) :
    year? ((Date.yearText year).toList ++ '-' :: rest) = some (year, '-' :: rest) := by
  rw [Date.yearText]
  split
  · next plain =>
    have short : year.toNat < Nat.pow 10 4 := by
      simp only [Nat.reducePow, Nat.pow_eq]
      omega
    have read := number?_padded 4 year.toNat (by decide) short ('-' :: rest)
    cases digits : (Digits.padded 4 year.toNat).toList with
    | nil => exact absurd digits (Digits.padded_ne_nil 4 _)
    | cons c cs =>
        have front : c ∈ (Digits.padded 4 year.toNat).toList := digits ▸ List.mem_cons_self
        have digit := Digits.isDigit_padded front
        have minus : c ≠ '-' := by rintro rfl; cases digit
        have plus : c ≠ '+' := by rintro rfl; cases digit
        rw [digits, List.cons_append] at read
        rw [year?, List.cons_append, trimLeft_cons (isBlank_of_isDigit digit)]
        split
        · next same => exact absurd (List.cons.inj same).1 minus
        · next same => exact absurd (List.cons.inj same).1 plus
        · rw [read]
          simp only [Option.map_some, Int.toNat_of_nonneg plain.1]
  · next signed =>
    have read := fun sign => signedYear?_padded (n := year.natAbs) sign (c := '-') rfl rest
    rw [String.toList_append, List.append_assoc]
    split
    · next negative =>
      have back : -1 * (year.natAbs : Int) = year := by omega
      have sign : "-".toList = ['-'] := rfl
      rw [sign, List.singleton_append, year?, trimLeft_cons rfl]
      exact (read (-1)).trans (by rw [back])
    · next positive =>
      have back : 1 * (year.natAbs : Int) = year := by omega
      have sign : "+".toList = ['+'] := rfl
      rw [sign, List.singleton_append, year?, trimLeft_cons rfl]
      exact (read 1).trans (by rw [back])

/-- A fraction in digits up to the ninth is read back. -/
theorem fraction?_padded {width : Nat} (positive : 0 < width) (most : width ≤ 9)
    (short : n < Nat.pow 10 width) (rest : List Char) :
    fraction? (("." ++ Digits.padded width n).toList ++ 'Z' :: rest) =
      some (n * Nat.pow 10 (9 - width), 'Z' :: rest) := by
  have length := Digits.length_padded width positive short
  have point : ".".toList = ['.'] := rfl
  rw [String.toList_append, point, List.append_assoc, List.singleton_append, fraction?]
  have left : ((Digits.padded width n).toList ++ 'Z' :: rest).drop width = 'Z' :: rest :=
    List.drop_left' length
  simp only [takeWhile_padded width (c := 'Z') rfl, left,
    List.take_of_length_le (Nat.le_trans (Nat.le_of_eq length) most), Digits.toNat_padded, length,
    List.isEmpty_eq_false_iff.mpr (Digits.padded_ne_nil width n), Bool.false_eq_true, if_false]

/-- A fraction is read back from the fewest of none, three, six and nine digits that tell it. -/
theorem fraction?_text (short : n < 1000000000) (rest : List Char) :
    fraction? ((if n = 0 then ""
      else if n % 1000000 = 0 then "." ++ Digits.padded 3 (n / 1000000)
      else if n % 1000 = 0 then "." ++ Digits.padded 6 (n / 1000)
      else "." ++ Digits.padded 9 n).toList ++ 'Z' :: rest) = some (n, 'Z' :: rest) := by
  split
  · next none =>
    subst none
    rfl
  split
  · next millis =>
    have back : n / 1000000 * Nat.pow 10 (9 - 3) = n :=
      Nat.div_mul_cancel (Nat.dvd_of_mod_eq_zero millis)
    rw [fraction?_padded (by decide) (by decide) (by simp only [Nat.reducePow, Nat.pow_eq]; omega),
      back]
  split
  · next micros =>
    have back : n / 1000 * Nat.pow 10 (9 - 6) = n :=
      Nat.div_mul_cancel (Nat.dvd_of_mod_eq_zero micros)
    rw [fraction?_padded (by decide) (by decide) (by simp only [Nat.reducePow, Nat.pow_eq]; omega),
      back]
  · rw [fraction?_padded (by decide) (by decide) short]
    simp

/-- A part that is read hands its value on. -/
theorem bind_eq {α β : Type} {part : Option α} {rest : α → Option β} {a : α} (h : part = some a) :
    part >>= rest = rest a := by
  rw [h]
  rfl

/-- A timestamp in universal time is read part by part, and is the instant that its parts tell
if they are within the calendar and the clock. -/
theorem read?_of_parts {year : Int} {month day hour minute second nano : Nat} {t : Instant}
    {cs atMonth fromMonth atDay fromDay fromHour atMinute fromMinute atSecond fromSecond atFraction
      zone : List Char}
    (theYear : year? cs = some (year, atMonth)) (dash : symbol? '-' atMonth = some fromMonth)
    (theMonth : number? 2 fromMonth = some (month, atDay))
    (dash' : symbol? '-' atDay = some fromDay)
    (theDay : number? 2 fromDay = some (day, 'T' :: fromHour))
    (theHour : number? 2 fromHour = some (hour, atMinute))
    (colon : symbol? ':' atMinute = some fromMinute)
    (theMinute : number? 2 fromMinute = some (minute, atSecond))
    (colon' : symbol? ':' atSecond = some fromSecond)
    (theSecond : number? 2 fromSecond = some (second, atFraction))
    (theFraction : fraction? atFraction = some (nano, zone))
    (universal : offset? (Chars.trimLeft zone) = some (0, []))
    (valid : Date.isValid ⟨year, month, day⟩) (clock : hour < 24 ∧ minute < 60 ∧ second ≤ 60)
    (told : (⟨Date.toDays ⟨year, month, day⟩ * 86400 +
        ((hour * 3600 + minute * 60 + (if second = 60 then 59 else second) : Nat) : Int),
      nano + if second = 60 then 1000000000 else 0⟩ : Instant) = t)
    (shown : hasYear year) (universalYear : hasYear t.date.year) : read? cs = some t := by
  have inside : (!Date.isValid ⟨year, month, day⟩ || decide (23 < hour) || decide (59 < minute) ||
      decide (60 < second) || decide (86400 ≤ (0 : Int).natAbs)) = false := by
    simp only [valid, Bool.not_true, Bool.false_or, Bool.or_eq_false_iff, decide_eq_false_iff_not]
    omega
  rw [read?]
  refine (bind_eq theYear).trans ?_
  refine (bind_eq dash).trans ?_
  refine (bind_eq theMonth).trans ?_
  refine (bind_eq dash').trans ?_
  refine (bind_eq theDay).trans ?_
  refine (if_pos (by decide)).trans ?_
  refine (bind_eq theHour).trans ?_
  refine (bind_eq colon).trans ?_
  refine (bind_eq theMinute).trans ?_
  refine (bind_eq colon').trans ?_
  refine (bind_eq theSecond).trans ?_
  refine (bind_eq theFraction).trans ?_
  refine (bind_eq universal).trans ?_
  refine (if_neg (by decide)).trans ?_
  refine (if_neg (Bool.eq_false_iff.mp inside)).trans ?_
  simp only [Int.sub_zero, told, shown, universalYear, Bool.and_self, if_true]

end Rfc3339

/-! ### Whole timestamps -/

namespace Instant

variable {t : Instant}

theorem fraction_lt (t : Instant) : t.fraction < 1000000000 := Nat.mod_lt _ (by decide)

/-- The parts of a timestamp one after the other. -/
theorem toList_stamp (t : Instant) (fraction : String) :
    (t.stamp fraction).toList = (Date.yearText t.date.year).toList ++ '-' ::
      ((Digits.padded 2 t.date.month).toList ++ '-' ::
        ((Digits.padded 2 t.date.day).toList ++ 'T' ::
          ((Digits.padded 2 t.hour).toList ++ ':' ::
            ((Digits.padded 2 t.minute).toList ++ ':' ::
              ((Digits.padded 2 t.secondOfMinute).toList ++ (fraction.toList ++ ['Z'])))))) := by
  simp [stamp, Date.toText, clockText]

theorem secondOfDay_lt (t : Instant) : t.secondOfDay < 86400 := by
  have := Int.emod_lt_of_pos t.second (by decide : (0 : Int) < 86400)
  rw [secondOfDay]
  omega

theorem hour_lt (t : Instant) : t.hour < 24 := by
  have := t.secondOfDay_lt
  rw [hour]
  omega

theorem minute_lt (t : Instant) : t.minute < 60 := Nat.mod_lt _ (by decide)

theorem secondOfMinute_le (t : Instant) : t.secondOfMinute ≤ 60 := by
  have := Nat.mod_lt t.secondOfDay (by decide : 0 < 60)
  rw [secondOfMinute]
  split <;> omega

theorem date_lt (t : Instant) : t.date.month < 100 ∧ t.date.day < 100 := by
  have valid : t.date.isValid := Date.isValid_ofDays t.day
  have most := Date.daysInMonth_le t.date.year t.date.month
  simp only [Date.isValid, Bool.and_eq_true, decide_eq_true_iff] at valid
  omega

/-- The second 60 that is shown stands for a leap second after the 59th. -/
theorem InRange.shown (h : t.InRange) :
    (if t.secondOfMinute = 60 then 59 else t.secondOfMinute) = t.secondOfDay % 60 ∧
      t.fraction + (if t.secondOfMinute = 60 then 1000000000 else 0) = t.nano := by
  have within := Nat.mod_lt t.secondOfDay (by decide : 0 < 60)
  simp only [secondOfMinute, isLeap, fraction, decide_eq_true_iff]
  rcases h.nano with plain | ⟨leap, last⟩
  · rw [if_neg (by omega : ¬ 1000000000 ≤ t.nano), if_neg (by omega), if_neg (by omega)]
    omega
  · split <;> split <;> omega

/-- The day and the parts of the time of day give the second. -/
theorem second_eq (t : Instant) :
    t.date.toDays * 86400 +
      ((t.hour * 3600 + t.minute * 60 + t.secondOfDay % 60 : Nat) : Int) = t.second := by
  have day : t.date.toDays = t.day := Date.toDays_ofDays t.day
  have nonneg := Int.emod_nonneg t.second (by decide : (86400 : Int) ≠ 0)
  rw [day, hour, minute, Instant.day]
  simp only [secondOfDay]
  omega

/-- A timestamp with as many digits as it takes is read back. -/
theorem InRange.ofRfc3339?_toRfc3339 (h : t.InRange) : ofRfc3339? t.toRfc3339 = some t := by
  have valid : t.date.isValid := Date.isValid_ofDays t.day
  obtain ⟨month, day⟩ := t.date_lt
  have hour : t.hour < 100 := Nat.lt_trans t.hour_lt (by decide)
  have minute : t.minute < 100 := Nat.lt_trans t.minute_lt (by decide)
  have second : t.secondOfMinute < 100 := Nat.lt_of_le_of_lt t.secondOfMinute_le (by decide)
  have offset : Rfc3339.offset? (Chars.trimLeft ['Z']) = some (0, []) := by decide
  obtain ⟨shown, nano⟩ := h.shown
  rw [ofRfc3339?, toRfc3339, toList_stamp]
  refine Rfc3339.read?_of_parts (Rfc3339.year?_yearText _ _) (Rfc3339.symbol?_cons rfl _)
    (Rfc3339.number?_padded 2 _ (by decide) month _) (Rfc3339.symbol?_cons rfl _)
    (Rfc3339.number?_padded 2 _ (by decide) day _)
    (Rfc3339.number?_padded 2 _ (by decide) hour _) (Rfc3339.symbol?_cons rfl _)
    (Rfc3339.number?_padded 2 _ (by decide) minute _) (Rfc3339.symbol?_cons rfl _)
    (Rfc3339.number?_padded 2 _ (by decide) second _)
    (Rfc3339.fraction?_text (fraction_lt t) _) offset valid
    ⟨t.hour_lt, t.minute_lt, t.secondOfMinute_le⟩ ?_ h.year h.year
  rw [shown, nano, t.second_eq]

end Instant

end StepSheet
