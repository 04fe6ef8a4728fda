import StepSheet.Data.Basic
import StepSheet.Number.Decimal
import StepSheet.Time.Calendar

/-!
# TOML scalars

The words of a document other than texts: truth values, whole numbers in four
bases, floating-point numbers, dates and times. Digits may be set apart by
single underscores. A whole number that 64 bits cannot hold has no value, and
one that 128 bits cannot hold is no number at all; neither is a floating-point
number beyond all finite ones. A date or a time counts as a table with one
member that holds its text.
-/

namespace StepSheet.Toml

/-- Digits without the underscores between them. Every underscore stands between
two digits, and there is at least one digit. -/
def digits? (isDigit : Char → Bool) : List Char → Option (List Char)
  | [] => none
  | [c] => if isDigit c then some [c] else none
  | c :: '_' :: cs => if isDigit c then (digits? isDigit cs).map (c :: ·) else none
  | c :: cs => if isDigit c then (digits? isDigit cs).map (c :: ·) else none

/-- A whole number as far as it has a value. -/
def integer? (n : Int) : Option Data :=
  if -Word.count 63 ≤ n ∧ n < Word.count 64 then some (.integer n)
  else if -Word.count 127 ≤ n ∧ n < Word.count 128 then some .unreadable
  else none

/-- Whether decimal digits begin with a zero before others. -/
def isFilled : List Char → Bool
  | '0' :: _ :: _ => true
  | _ => false

/-- A whole number in a base other than ten. -/
def inBase? (base : Nat) (cs : List Char) : Option Data := do
  let isDigit (c : Char) : Bool := (Digits.hexValue? c).any (· < base)
  let digits ← digits? isDigit cs
  integer? (digits.foldl (fun acc c => acc * base + (Digits.hexValue? c).getD 0) (0 : Nat))

/-- The value of a decimal, unless it is beyond all finite ones. -/
def finite? (d : Decimal) : Option Data :=
  let x := d.toBinary64
  if x.isInfinite then none else some (.number x)

/-- The characters up to the first that satisfies `stop`, and the rest from there. -/
def cut (stop : Char → Bool) (cs : List Char) : List Char × List Char :=
  (cs.takeWhile fun c => !stop c, cs.dropWhile fun c => !stop c)

/-- A number after its sign. -/
def unsigned? (negative : Bool) (cs : List Char) : Option Data := do
  let (whole, rest) := cut (fun c => c = '.' || c = 'e' || c = 'E') cs
  let whole ← digits? Char.isDigit whole
  if isFilled whole then none
  let (fraction, rest) ← match rest with
    | '.' :: rest =>
      let (fraction, rest) := cut (fun c => c = 'e' || c = 'E') rest
      (digits? Char.isDigit fraction).map fun fraction => (some fraction, rest)
    | _ => some (none, rest)
  let exponent ← match rest with
    | [] => some none
    | _ :: rest =>
      let (below, digits) := Decimal.sign rest
      (digits? Char.isDigit digits).map fun digits =>
        let size : Int := Digits.toNat digits
        some (if below then -size else size)
  match fraction, exponent with
  | none, none =>
    let n : Int := Digits.toNat whole
    integer? (if negative then -n else n)
  | _, _ =>
    let fraction := fraction.getD []
    finite? ⟨negative, Digits.toNat (whole ++ fraction), exponent.getD 0 - fraction.length⟩

def number? (cs : List Char) : Option Data :=
  match cs with
  | '0' :: 'x' :: cs => inBase? 16 cs
  | '0' :: 'o' :: cs => inBase? 8 cs
  | '0' :: 'b' :: cs => inBase? 2 cs
  | _ =>
    let (negative, cs) := Decimal.sign cs
    if cs = ['i', 'n', 'f'] then some (.number (.infinite negative))
    else if cs = ['n', 'a', 'n'] then some (.number .nan)
    else unsigned? negative cs

/-- Two digits with a value up to `limit`. -/
def pair? (limit : Nat) (a b : Char) : Option Nat :=
  if a.isDigit && b.isDigit && Digits.toNat [a, b] ≤ limit then some (Digits.toNat [a, b]) else none

/-- A date at the front. -/
def date? (cs : List Char) : Option (List Char) :=
  match cs with
  | y :: y' :: y'' :: y''' :: '-' :: m :: m' :: '-' :: d :: d' :: rest =>
    let year := [y, y', y'', y''']
    if year.all Char.isDigit && m.isDigit && m'.isDigit && d.isDigit && d'.isDigit &&
        (Date.mk (Digits.toNat year) (Digits.toNat [m, m']) (Digits.toNat [d, d'])).isValid then
      some rest
    else none
  | _ => none

/-- The seconds of a time at the front, which may be missing, and their fraction. -/
def seconds? (cs : List Char) : Option (List Char) :=
  match cs with
  | ':' :: s :: s' :: '.' :: rest =>
    if rest.head?.any Char.isDigit then (pair? 60 s s').map fun _ => rest.dropWhile Char.isDigit
    else none
  | ':' :: s :: s' :: rest => (pair? 60 s s').map fun _ => rest
  | _ => some cs

/-- A time of day at the front. -/
def time? (cs : List Char) : Option (List Char) :=
  match cs with
  | h :: h' :: ':' :: m :: m' :: rest => do
    let _ ← pair? 23 h h'
    let _ ← pair? 59 m m'
    seconds? rest
  | _ => none

/-- Whether the characters are an offset from universal time, or nothing. -/
def isOffset (cs : List Char) : Bool :=
  match cs with
  | [] => true
  | ['Z'] => true
  | ['z'] => true
  | [sign, h, h', ':', m, m'] =>
    (sign = '+' || sign = '-') && (pair? 23 h h').isSome && (pair? 59 m m').isSome
  | _ => false

/-- Whether the characters are a date, a time, or both. -/
def isMoment (cs : List Char) : Bool :=
  match date? cs with
  | some [] => true
  | some (sep :: rest) =>
    (sep = 'T' || sep = 't' || sep = ' ') && (time? rest).any isOffset
  | none => (time? cs).any List.isEmpty

/-- The table that a date or time counts as. -/
def moment (cs : List Char) : Data :=
  .object [("$__toml_private_datetime", .text (String.ofList cs))]

/-- The value of a word. -/
def scalar? (cs : List Char) : Option Data :=
  if cs = "true".toList then some (.bool true)
  else if cs = "false".toList then some (.bool false)
  else if isMoment cs then some (moment cs)
  else number? cs

end StepSheet.Toml
