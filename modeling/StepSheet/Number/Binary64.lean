import StepSheet.Number.Word

/-!
# Binary floating point of 64 bits

A finite value is a sign, a significand below 2⁵³ and an exponent of two from
-1074 to 971; one of the two is as small as it can be, so that every value has
one form. Results are the nearest values to the exact ones, and of two nearest
ones the one with the even significand. All arithmetic is on natural numbers.
-/

namespace StepSheet

/-- A floating-point value: a finite one is `±significand · 2 ^ exponent`. -/
inductive Binary64 where
  | nan
  | infinite (negative : Bool)
  | finite (negative : Bool) (significand : Nat) (exponent : Int)
deriving DecidableEq

/-- The quotient rounded to the nearest natural number, a half to the even one. -/
def roundDiv (num den : Nat) : Nat :=
  let q := num / den
  let r := num % den
  if 2 * r < den then q
  else if den < 2 * r then q + 1
  else if q % 2 = 0 then q else q + 1

namespace Binary64

def minExponent : Int := -1074

def maxExponent : Int := 971

def zero (negative : Bool) : Binary64 := .finite negative 0 minExponent

/-- The exponent `e` for which `num / den` lies between 2⁵² and 2⁵³ times `2 ^ e`,
when both numbers are positive. -/
def binade (num den : Nat) : Int :=
  let e : Int := (num.log2 : Int) - den.log2 - 52
  let reached := den * Word.count 52 * Nat.pow 2 e.toNat ≤ num * Nat.pow 2 (-e).toNat
  if reached then e else e - 1

/-- The value nearest to `± num / den`. -/
def ofRatio (negative : Bool) (num den : Nat) : Binary64 :=
  if num = 0 then zero negative
  else
    let e := max (binade num den) minExponent
    let m := roundDiv (num * Nat.pow 2 (-e).toNat) (den * Nat.pow 2 e.toNat)
    let (m, e) := if m = Word.count 53 then (Word.count 52, e + 1) else (m, e)
    if maxExponent < e then .infinite negative else .finite negative m e

/-- The value nearest to a natural number. -/
def ofNat (n : Nat) : Binary64 := ofRatio false n 1

def numerator (m : Nat) (e : Int) : Nat := m * Nat.pow 2 e.toNat

def denominator (e : Int) : Nat := Nat.pow 2 (-e).toNat

def neg : Binary64 → Binary64
  | .nan => .nan
  | .infinite s => .infinite !s
  | .finite s m e => .finite (!s) m e

/-- The value nearest to the product. -/
def mul : Binary64 → Binary64 → Binary64
  | .nan, _ => .nan
  | _, .nan => .nan
  | .infinite s, .infinite t => .infinite (s != t)
  | .infinite s, .finite t m _ => if m = 0 then .nan else .infinite (s != t)
  | .finite s m _, .infinite t => if m = 0 then .nan else .infinite (s != t)
  | .finite s m e, .finite t n f =>
    ofRatio (s != t) (numerator m e * numerator n f) (denominator e * denominator f)

/-- The value nearest to the quotient. -/
def div : Binary64 → Binary64 → Binary64
  | .nan, _ => .nan
  | _, .nan => .nan
  | .infinite _, .infinite _ => .nan
  | .infinite s, .finite t _ _ => .infinite (s != t)
  | .finite s _ _, .infinite t => zero (s != t)
  | .finite s m e, .finite t n f =>
    if n = 0 then if m = 0 then .nan else .infinite (s != t)
    else ofRatio (s != t) (numerator m e * denominator f) (denominator e * numerator n f)

def isInfinite : Binary64 → Bool
  | .infinite _ => true
  | _ => false

def isZero : Binary64 → Bool
  | .finite _ m _ => m = 0
  | _ => false

/-- The natural number that the value is, if it is finite, whole and not
negative; a negative zero is zero. -/
def toNat? : Binary64 → Option Nat
  | .finite negative m e =>
    if m = 0 then some 0
    else if negative then none
    else if numerator m e % denominator e = 0 then some (numerator m e / denominator e) else none
  | _ => none

@[simp] theorem toNat?_nan : toNat? .nan = none := rfl

@[simp] theorem toNat?_infinite (negative : Bool) : toNat? (.infinite negative) = none := rfl

@[simp] theorem toNat?_zero (negative : Bool) : toNat? (zero negative) = some 0 := rfl

end Binary64

end StepSheet
