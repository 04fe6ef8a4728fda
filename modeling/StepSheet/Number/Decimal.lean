import StepSheet.Number.Binary64
import StepSheet.Text.Digit

/-!
# Decimal text of floating-point values

A decimal is a coefficient times a power of ten. Reading one gives the nearest
floating-point value. Printing takes the fewest digits that read back to the
value, and of those the nearest to it, or else rounds the exact value to a
given number of places, where a half goes to the even neighbour.
-/

namespace StepSheet

/-- The number `± coefficient · 10 ^ exponent`. -/
structure Decimal where
  negative : Bool
  coefficient : Nat
  exponent : Int
deriving DecidableEq

namespace Decimal

/-- The number of decimal digits of a natural number; one for zero. -/
def width (n : Nat) : Nat := (Nat.toDigits 10 n).length

/-- The floating-point value nearest to a decimal. Beyond 10³¹⁰ every magnitude
is infinite and below 10⁻³³⁰ every one is zero. -/
def toBinary64 (d : Decimal) : Binary64 :=
  if d.coefficient = 0 then Binary64.zero d.negative
  else
    let top : Int := width d.coefficient + d.exponent
    if 310 < top then .infinite d.negative
    else if top < -330 then Binary64.zero d.negative
    else if 0 ≤ d.exponent then
      Binary64.ofRatio d.negative (d.coefficient * Nat.pow 10 d.exponent.toNat) 1
    else Binary64.ofRatio d.negative d.coefficient (Nat.pow 10 (-d.exponent).toNat)

/-- The ASCII digits at the front, and what follows them. -/
def spanDigits (cs : List Char) : List Char × List Char :=
  (cs.takeWhile Char.isDigit, cs.dropWhile Char.isDigit)

/-- A sign at the front: whether it is a minus, and what follows it. -/
def sign : List Char → Bool × List Char
  | '-' :: cs => (true, cs)
  | '+' :: cs => (false, cs)
  | cs => (false, cs)

/-- The exponent part of a decimal text, which ends it: nothing, or `e` with an
optional sign and digits. -/
def exponentPart? : List Char → Option Int
  | [] => some 0
  | c :: cs =>
    if c = 'e' || c = 'E' then
      let (negative, cs) := sign cs
      match Digits.parse? cs with
      | some n => some (if negative then -(n : Int) else n)
      | none => none
    else none

/-- A decimal text without its sign: digits with an optional point among,
before or after them, and an optional exponent. -/
def unsigned? (negative : Bool) (cs : List Char) : Option Decimal :=
  let (whole, cs) := spanDigits cs
  let (fraction, cs) := match cs with
    | '.' :: cs => spanDigits cs
    | _ => ([], cs)
  if whole.isEmpty && fraction.isEmpty then none
  else match exponentPart? cs with
    | some e => some ⟨negative, Digits.toNat (whole ++ fraction), e - fraction.length⟩
    | none => none

/-- A floating-point value from its text: a signed decimal, or `inf`, `infinity`
or `nan` in letters of either case. -/
def readBinary64? (cs : List Char) : Option Binary64 :=
  let (negative, cs) := sign cs
  let word := cs.map Char.toLower
  if word = ['i', 'n', 'f'] || word = ['i', 'n', 'f', 'i', 'n', 'i', 't', 'y'] then
    some (.infinite negative)
  else if word = ['n', 'a', 'n'] then some .nan
  else (unsigned? negative cs).map toBinary64

end Decimal

namespace Binary64

/-- The least `k` with `num / den < 10 ^ k`, when both numbers are positive. -/
def decade (num den : Nat) : Int :=
  if den ≤ num then Decimal.width (num / den)
  else -((Decimal.width ((den - 1) / num) : Int) - 1)

/-- The coefficient of the decimal `c · 10 ^ k` nearest to `num / den` among the two
next to it that lie between the bounds, if there is one. The bounds have the
same denominator, and count as inside when `closed`. Of two that are equally
near, the even one is taken with `evenTies` and the greater one without. -/
def nearestWithin? (evenTies : Bool) (num low high den : Nat) (closed : Bool) (k : Int) :
    Option Nat :=
  let up := if 0 ≤ k then Nat.pow 10 k.toNat else 1
  let down := if 0 ≤ k then 1 else Nat.pow 10 (-k).toNat
  let floor := num * down / (den * up)
  let inside (c : Nat) : Bool :=
    let x := c * up * den
    if closed then low * down ≤ x && x ≤ high * down else low * down < x && x < high * down
  match inside floor, inside (floor + 1) with
  | true, true =>
    let middle := (2 * floor + 1) * up * den
    if 2 * num * down < middle then some floor
    else if 2 * num * down = middle && evenTies && floor % 2 = 0 then some floor
    else some (floor + 1)
  | true, false => some floor
  | false, true => some (floor + 1)
  | false, false => none

/-- The decimal with the fewest digits that reads back to the positive value
`m · 2 ^ e`, the nearest of those. -/
def shortest (evenTies : Bool) (m : Nat) (e : Int) : Nat × Int :=
  let below := if m = Word.count 52 && minExponent < e then 1 else 2
  let num := numerator (4 * m) (e - 2)
  let low := numerator (4 * m - below) (e - 2)
  let high := numerator (4 * m + 2) (e - 2)
  let den := denominator (e - 2)
  let top := decade num den
  let found := (List.range 17).findSome? fun n =>
    let k := top - (n + 1 : Nat)
    (nearestWithin? evenTies num low high den (m % 2 = 0) k).map (·, k)
  found.getD (0, 0)

/-- The digits of a coefficient without the zeros at its end, and the exponent
they leave. -/
def strip (coefficient : Nat) (exponent : Int) : List Char × Int :=
  let digits := Nat.toDigits 10 coefficient
  let kept := (digits.reverse.dropWhile (· == '0')).reverse
  (kept, exponent + (digits.length - kept.length : Nat))

/-- Digits times a power of ten, in positional notation. -/
def positional (digits : List Char) (exponent : Int) : List Char :=
  if 0 ≤ exponent then digits ++ List.replicate exponent.toNat '0'
  else
    let places := (-exponent).toNat
    if places < digits.length then
      digits.take (digits.length - places) ++ '.' :: digits.drop (digits.length - places)
    else ['0', '.'] ++ List.replicate (places - digits.length) '0' ++ digits

/-- A minus before the characters of a negative value. -/
def signed (negative : Bool) (cs : List Char) : String :=
  String.ofList (if negative then '-' :: cs else cs)

/-- The fewest digits that read back, in positional notation; a whole value has
no point, and of two equally near decimals the greater is printed. -/
def toText : Binary64 → String
  | .nan => "NaN"
  | .infinite negative => signed negative ['i', 'n', 'f']
  | .finite negative m e =>
    if m = 0 then signed negative ['0']
    else
      let (coefficient, exponent) := shortest false m e
      let (digits, exponent) := strip coefficient exponent
      signed negative (positional digits exponent)

/-- The exact value rounded to `places` decimal places. -/
def fixed (places : Nat) : Binary64 → String
  | .nan => "NaN"
  | .infinite negative => signed negative ['i', 'n', 'f']
  | .finite negative m e =>
    let scaled := roundDiv (numerator m e * Nat.pow 10 places) (denominator e)
    let digits := Nat.toDigits 10 scaled
    let digits := List.replicate (places + 1 - digits.length) '0' ++ digits
    signed negative (if places = 0 then digits else positional digits (-places))

end Binary64

end StepSheet
