import StepSheet.Time.Instant
import StepSheet.Text.Blank
import StepSheet.Text.Digit

/-!
# Internet timestamps

An instant is written as date, `T`, time and `Z`. The fraction has as many
digits as asked for, or the fewest of none, three, six and nine that lose
nothing. Reading also takes any offset from universal time, blanks between the
parts, a space or a small `t` before the time, numbers without leading zeros,
and a signed year of any length.
-/

namespace StepSheet

/-- A year in four digits, and outside of them with its sign. -/
def Date.yearText (year : Int) : String :=
  if 0 ≤ year ∧ year ≤ 9999 then Digits.padded 4 year.toNat
  else (if year < 0 then "-" else "+") ++ Digits.padded 4 year.natAbs

/-- A date as `YYYY-MM-DD`. -/
def Date.toText (d : Date) : String :=
  Date.yearText d.year ++ "-" ++ Digits.padded 2 d.month ++ "-" ++ Digits.padded 2 d.day

namespace Instant

/-- The time of day as `hh:mm:ss`. -/
def clockText (t : Instant) : String :=
  Digits.padded 2 t.hour ++ ":" ++ Digits.padded 2 t.minute ++ ":" ++
    Digits.padded 2 t.secondOfMinute

/-- A timestamp whose fraction is the given text. -/
def stamp (t : Instant) (fraction : String) : String :=
  t.date.toText ++ "T" ++ t.clockText ++ fraction ++ "Z"

/-- The timestamp with the fewest of none, three, six and nine fraction digits. -/
def toRfc3339 (t : Instant) : String :=
  let n := t.fraction
  t.stamp (if n = 0 then ""
    else if n % 1000000 = 0 then "." ++ Digits.padded 3 (n / 1000000)
    else if n % 1000 = 0 then "." ++ Digits.padded 6 (n / 1000)
    else "." ++ Digits.padded 9 n)

/-- The timestamp in milliseconds, the rest cut off. -/
def toRfc3339Millis (t : Instant) : String :=
  t.stamp ("." ++ Digits.padded 3 (t.fraction / 1000000))

/-- The timestamp in milliseconds with `-` for every colon and point, as file
names take it. -/
def fileStamp (t : Instant) : String :=
  Text.replace '.' '-' (Text.replace ':' '-' t.toRfc3339Millis)

/-- Date and time of day with a space between. -/
def toLocalText (t : Instant) : String := t.date.toText ++ " " ++ t.clockText

end Instant

namespace Rfc3339

/-- A number of up to `limit` ASCII digits, after blanks. -/
def number? (limit : Nat) (cs : List Char) : Option (Nat × List Char) :=
  let cs := Chars.trimLeft cs
  let digits := (cs.takeWhile Char.isDigit).take limit
  if digits.isEmpty then none else some (Digits.toNat digits, cs.drop digits.length)

/-- The character `c`, after blanks. -/
def symbol? (c : Char) (cs : List Char) : Option (List Char) :=
  match Chars.trimLeft cs with
  | d :: cs => if d = c then some cs else none
  | [] => none

/-- A year: four digits at most, or a sign and any number of them. -/
def year? (cs : List Char) : Option (Int × List Char) :=
  match Chars.trimLeft cs with
  | '-' :: cs => signedYear? (-1) cs
  | '+' :: cs => signedYear? 1 cs
  | cs => (number? 4 cs).map fun (y, cs) => ((y : Int), cs)
where
  /-- The digits after the sign of a year. -/
  signedYear? (sign : Int) (cs : List Char) : Option (Int × List Char) :=
    let digits := cs.takeWhile Char.isDigit
    if digits.isEmpty then none else some (sign * Digits.toNat digits, cs.drop digits.length)

/-- Nanoseconds from a fraction after a point; digits beyond the ninth are cut off. -/
def fraction? (cs : List Char) : Option (Nat × List Char) :=
  match cs with
  | '.' :: cs =>
    let digits := cs.takeWhile Char.isDigit
    if digits.isEmpty then none
    else
      let kept := digits.take 9
      some (Digits.toNat kept * Nat.pow 10 (9 - kept.length), cs.drop digits.length)
  | _ => some (0, cs)

/-- The hours and minutes of an offset, in seconds. -/
def offsetDigits? (cs : List Char) : Option (Int × List Char) :=
  match cs with
  | h :: h' :: cs =>
    match cs.dropWhile (fun c => c = ':' || isBlank c) with
    | m :: m' :: cs =>
      if h.isDigit && h'.isDigit && m.isDigit && m'.isDigit && m.toNat < 54 then
        some ((Digits.toNat [h, h'] * 3600 + Digits.toNat [m, m'] * 60 : Nat), cs)
      else none
    | _ => none
  | _ => none

/-- The offset from universal time in seconds: `Z`, `UTC` in letters of either
case, or a signed number of hours and minutes. -/
def offset? (cs : List Char) : Option (Int × List Char) :=
  match cs with
  | c :: rest =>
    if (cs.take 3).map Char.toUpper = ['U', 'T', 'C'] then some (0, cs.drop 3)
    else if c = 'Z' || c = 'z' then some (0, rest)
    else if c = '+' then offsetDigits? rest
    else if c = '-' || c = '\u2212' then (offsetDigits? rest).map fun (o, cs) => (-o, cs)
    else none
  | [] => none

/-- Whether a year is one of those that a timestamp may have, at its own offset as well
as in universal time. -/
def hasYear (year : Int) : Bool := -262143 ≤ year && year ≤ 262142

/-- The instant of a timestamp. The second 60 is the leap second after the 59th. -/
def read? (cs : List Char) : Option Instant := do
  let (year, cs) ← year? cs
  let cs ← symbol? '-' cs
  let (month, cs) ← number? 2 cs
  let cs ← symbol? '-' cs
  let (day, cs) ← number? 2 cs
  let cs ← match cs with
    | c :: cs => if c = 'T' || c = 't' || c = ' ' then some cs else none
    | [] => none
  let (hour, cs) ← number? 2 cs
  let cs ← symbol? ':' cs
  let (minute, cs) ← number? 2 cs
  let cs ← symbol? ':' cs
  let (second, cs) ← number? 2 cs
  let (nano, cs) ← fraction? cs
  let (offset, cs) ← offset? (Chars.trimLeft cs)
  if !(Chars.trimLeft cs).isEmpty then none
  else
    let date : Date := ⟨year, month, day⟩
    if !date.isValid || 23 < hour || 59 < minute || 60 < second || 86400 ≤ offset.natAbs then none
    else
      let shown := if second = 60 then 59 else second
      let leap := if second = 60 then 1000000000 else 0
      let second := date.toDays * 86400 + (hour * 3600 + minute * 60 + shown : Nat) - offset
      let t : Instant := ⟨second, nano + leap⟩
      if hasYear year && hasYear t.date.year then some t else none

end Rfc3339

def Instant.ofRfc3339? (s : String) : Option Instant := Rfc3339.read? s.toList

end StepSheet
