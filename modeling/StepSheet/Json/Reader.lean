import StepSheet.Data.Basic
import StepSheet.Number.Decimal

/-!
# Reading JSON

A document is one value between blanks. Texts may hold every character but the
control characters; a pair of surrogates in escapes is one character. Whole
numbers within 64 bits are exact. Any other number is a significand of the
first digits that fit into 64 bits, multiplied or divided by one power of ten,
each time with rounding, which is not always the nearest value to its text.
-/

namespace StepSheet.Json

/-- The blanks between the parts of a document. -/
def isSpace (c : Char) : Bool := c = ' ' || c = '\t' || c = '\n' || c = '\r'

/-- The characters after the blanks at the front. -/
def skip (cs : List Char) : List Char := cs.dropWhile isSpace

/-- The character of a one-letter escape. -/
def escape? : Char → Option Char
  | '"' => some '"'
  | '\\' => some '\\'
  | '/' => some '/'
  | 'b' => some '\x08'
  | 'f' => some '\x0c'
  | 'n' => some '\n'
  | 'r' => some '\r'
  | 't' => some '\t'
  | _ => none

/-- The character of two surrogates. -/
def ofSurrogates (high low : Nat) : Char :=
  Char.ofNat (0x10000 + (high - 0xD800) * 0x400 + (low - 0xDC00))

/-- The rest of a text up to its closing quote, and what follows it. Of the text
nothing is kept once a surrogate without its partner occurs; `high` is a leading
surrogate whose partner has to come next, and `taken` the text so far in
reverse. -/
def textBody (taken : Option (List Char)) (high : Option Nat) :
    List Char → Option (Option (List Char) × List Char)
  | [] => none
  | '"' :: cs => some (if high.isSome then none else taken.map List.reverse, cs)
  | '\\' :: 'u' :: a :: b :: c :: d :: cs =>
    match Digits.hexToNat? [a, b, c, d] with
    | none => none
    | some unit =>
      if 0xDC00 ≤ unit ∧ unit ≤ 0xDFFF then
        match high with
        | some first => textBody (taken.map (ofSurrogates first unit :: ·)) none cs
        | none => textBody none none cs
      else if high.isSome then textBody none none cs
      else if 0xD800 ≤ unit ∧ unit ≤ 0xDBFF then textBody taken (some unit) cs
      else textBody (taken.map (Char.ofNat unit :: ·)) none cs
  | '\\' :: c :: cs =>
    match escape? c with
    | some plain => textBody (if high.isSome then none else taken.map (plain :: ·)) none cs
    | none => none
  | c :: cs =>
    if c.toNat < 0x20 then none
    else textBody (if high.isSome then none else taken.map (c :: ·)) none cs

/-- The exponents that a power of ten in a table of them has. -/
def maxPower : Nat := 308

/-- The value nearest to `10 ^ n`. -/
def powerOfTen (n : Nat) : Binary64 := Binary64.ofNat (Nat.pow 10 n)

/-- A significand times ten to the power of a negative exponent, of which more
than 308 are taken off in one rounded division each; `rounds` bounds their
number. -/
def divided (rounds : Nat) (x : Binary64) (exponent : Nat) : Binary64 :=
  match rounds with
  | 0 => x
  | rounds + 1 =>
    if exponent ≤ maxPower then x.div (powerOfTen exponent)
    else if x.isZero then x
    else divided rounds (x.div (powerOfTen maxPower)) (exponent - maxPower)

/-- The value of `± significand · 10 ^ exponent`; none when it is too large. -/
def scaled? (negative : Bool) (significand : Nat) (exponent : Int) : Option Binary64 :=
  let x := Binary64.ofNat significand
  let magnitude :=
    if exponent < 0 then some (divided 4 x exponent.natAbs)
    else if significand = 0 then some x
    else if maxPower < exponent.toNat then none
    else
      let product := x.mul (powerOfTen exponent.toNat)
      if product.isInfinite then none else some product
  magnitude.map fun m => if negative then m.neg else m

/-- The digits that still fit into a significand below 2⁶⁴, counted, and the
significand they give. -/
def gather (significand count : Nat) : List Char → Nat × Nat
  | [] => (significand, count)
  | c :: cs =>
    let next := significand * 10 + Digits.value c
    if next < Word.count 64 then gather next (count + 1) cs else (significand, count)

/-- The value of a number in its parts: integer digits, fraction digits if there is
a point, and exponent if there is one. -/
def numberOf (negative : Bool) (whole : List Char) (fraction : Option (List Char))
    (exponent : Option Int) : Data :=
  let (significand, count) := gather 0 0 whole
  let dropped : Int := (whole.length - count : Nat)
  match fraction, exponent with
  | none, none =>
    if count = whole.length then
      if !negative then .integer significand
      else if significand = 0 then .number (Binary64.zero true)
      else if significand ≤ Word.count 63 then .integer (-significand)
      else .number (Binary64.ofNat significand).neg
    else inexact (scaled? negative significand dropped)
  | _, _ =>
    let (significand, places) := gather significand 0 (fraction.getD [])
    let shift := dropped - places
    match exponent with
    | none => inexact (scaled? negative significand shift)
    | some e =>
      if Word.count 31 ≤ e.natAbs then
        if significand ≠ 0 ∧ 0 ≤ e then .unreadable else .number (Binary64.zero negative)
      else inexact (scaled? negative significand (shift + e))
where
  /-- A number that may be out of range. -/
  inexact : Option Binary64 → Data
    | some x => .number x
    | none => .unreadable

/-- A number: no zeros before other digits, and digits on both sides of a point. -/
def number? (cs : List Char) : Option (Data × List Char) := do
  let (negative, cs) := match cs with
    | '-' :: cs => (true, cs)
    | _ => (false, cs)
  let (whole, cs) := Decimal.spanDigits cs
  if whole.isEmpty || (whole.head? = some '0' && 1 < whole.length) then none
  let (fraction, cs) ← match cs with
    | '.' :: cs =>
      let (digits, cs) := Decimal.spanDigits cs
      if digits.isEmpty then none else some (some digits, cs)
    | _ => some (none, cs)
  let (exponent, cs) ← match cs with
    | c :: rest =>
      if c = 'e' || c = 'E' then
        let (below, rest) := Decimal.sign rest
        let (digits, rest) := Decimal.spanDigits rest
        if digits.isEmpty then none
        else
          let size : Int := Digits.toNat digits
          some (some (if below then -size else size), rest)
      else some (none, cs)
    | [] => some (none, cs)
  return (numberOf negative whole fraction exponent, cs)

def text? (cs : List Char) : Option (Option String × List Char) :=
  (textBody (some []) none cs).map fun (taken, cs) => (taken.map String.ofList, cs)

mutual

def value? (fuel : Nat) (cs : List Char) : Option (Data × List Char) :=
  match fuel with
  | 0 => none
  | fuel + 1 =>
    match skip cs with
    | 'n' :: 'u' :: 'l' :: 'l' :: cs => some (.null, cs)
    | 't' :: 'r' :: 'u' :: 'e' :: cs => some (.bool true, cs)
    | 'f' :: 'a' :: 'l' :: 's' :: 'e' :: cs => some (.bool false, cs)
    | '"' :: cs => (text? cs).map fun (s, cs) => ((s.map Data.text).getD .unreadable, cs)
    | '[' :: cs =>
      match skip cs with
      | ']' :: cs => some (.array [], cs)
      | cs => (items? fuel cs).map fun (items, cs) => (.array items, cs)
    | '\x7b' :: cs =>
      match skip cs with
      | '\x7d' :: cs => some (.object [], cs)
      | cs => (members? fuel cs).map fun (members, cs) =>
        ((members.map Data.object).getD .unreadable, cs)
    | cs => number? cs

/-- The elements of a list from the first one on, its closing bracket, and what
follows. -/
def items? (fuel : Nat) (cs : List Char) : Option (List Data × List Char) :=
  match fuel with
  | 0 => none
  | fuel + 1 =>
    match value? fuel cs with
    | none => none
    | some (item, cs) =>
      match skip cs with
      | ']' :: cs => some ([item], cs)
      | ',' :: cs => (items? fuel cs).map fun (items, cs) => (item :: items, cs)
      | _ => none

/-- The members of a table from the first one on, its closing brace, and what
follows. No members are kept when a name among them is unreadable. -/
def members? (fuel : Nat) (cs : List Char) :
    Option (Option (List (String × Data)) × List Char) :=
  match fuel with
  | 0 => none
  | fuel + 1 =>
    match skip cs with
    | '"' :: cs =>
      match text? cs with
      | none => none
      | some (name, cs) =>
        match skip cs with
        | ':' :: cs =>
          match value? fuel cs with
          | none => none
          | some (item, cs) =>
            let member := name.map fun name => (name, item)
            match skip cs with
            | '\x7d' :: cs => some (member.map ([·]), cs)
            | ',' :: cs => (members? fuel cs).map fun (members, cs) =>
              (match member, members with
                | some member, some members => some (member :: members)
                | _, _ => none, cs)
            | _ => none
        | _ => none
    | _ => none

end

/-- The value that a document holds, when nothing but blanks is around it. -/
def read? (s : String) : Option Data :=
  let cs := s.toList
  match value? (2 * cs.length + 1) cs with
  | some (value, rest) => if (skip rest).isEmpty then some value else none
  | none => none

/-- The value of a document all of which is wanted: every leaf readable, and lists
and tables nested at most 127 deep. -/
def readWhole? (s : String) : Option Data :=
  (read? s).filter (Data.isReadable 127)

end StepSheet.Json
