import StepSheet.Run.Screenshot

/-!
# Base64

Four symbols of the standard alphabet stand for three bytes. The last group may
stand for one byte or two and is then filled up with equal signs, and the bits it
does not use have to be zero. The first fault decides the error.
-/

namespace StepSheet

/-- Why a text is not valid Base64. -/
inductive Base64Error where
  | invalidSymbol (offset : Nat) (symbol : UInt8)
  | invalidLength (length : Nat)
  | invalidLastSymbol (offset : Nat) (symbol : UInt8)
  | invalidPadding
deriving DecidableEq

def Base64Error.message : Base64Error → String
  | .invalidSymbol offset symbol => s!"Invalid symbol {symbol}, offset {offset}."
  | .invalidLength length => s!"Invalid input length: {length}"
  | .invalidLastSymbol offset symbol => s!"Invalid last symbol {symbol}, offset {offset}."
  | .invalidPadding => "Invalid padding"

namespace Base64

def pad : UInt8 := 61

def value? (symbol : UInt8) : Option Nat :=
  let n := symbol.toNat
  if 65 ≤ n ∧ n ≤ 90 then some (n - 65)
  else if 97 ≤ n ∧ n ≤ 122 then some (n - 71)
  else if 48 ≤ n ∧ n ≤ 57 then some (n + 4)
  else if n = 43 then some 62
  else if n = 47 then some 63
  else none

/-- The value of the symbol at an offset. -/
def value (offset : Nat) (symbol : UInt8) : Except Base64Error Nat :=
  match value? symbol with
  | some n => .ok n
  | none => .error (.invalidSymbol offset symbol)

/-- The number that values write, six bits each. -/
def bits (values : List Nat) : Nat := values.foldl (fun n v => n * 64 + v) 0

/-- The bytes of a number, `count` of them. -/
def bytes (count n : Nat) : Bytes :=
  ((List.range count).map fun i => UInt8.ofNat (n / Nat.pow 256 i)).reverse

/-- The values of the symbols in the last group, in front of its equal signs. `offset` is
that of the group, `index` that of the next symbol in it, and `taken` are the values
before. -/
def lastValues (offset index : Nat) (taken : List Nat) : Bytes → Except Base64Error (List Nat)
  | [] => .ok taken
  | symbol :: rest =>
    if symbol = pad then
      if index < 2 || rest.any (· ≠ pad) then .error (.invalidSymbol (offset + index) pad)
      else .ok taken
    else do
      let v ← value (offset + index) symbol
      lastValues offset (index + 1) (taken ++ [v]) rest

/-- The bytes of the last group, which has at most four symbols. -/
def lastGroup (offset : Nat) (group : Bytes) : Except Base64Error Bytes := do
  let values ← lastValues offset 0 [] group
  let count := values.length * 6 / 8
  let unused := values.length * 6 - count * 8
  if group = [] then return []
  else if values.length < 2 then throw (.invalidLength (offset + values.length))
  else if group.length % 4 ≠ 0 then throw .invalidPadding
  else if bits values % Nat.pow 2 unused ≠ 0 then
    throw (.invalidLastSymbol (offset + values.length - 1) (group.getD (values.length - 1) pad))
  else return bytes count (bits values / Nat.pow 2 unused)

/-- The bytes of symbols, of which the first has the given offset. -/
def decodeFrom (offset : Nat) : Bytes → Except Base64Error Bytes
  | a :: b :: c :: d :: e :: rest => do
    let values ← [(0, a), (1, b), (2, c), (3, d)].mapM fun (i, s) => value (offset + i) s
    return bytes 3 (bits values) ++ (← decodeFrom (offset + 4) (e :: rest))
  | group => lastGroup offset group

/-- The bytes that a text stands for. A last symbol that stands alone and is none of the
alphabet is told first of all. -/
def decode (symbols : Bytes) : Except Base64Error Bytes :=
  match symbols.getLast? with
  | some last =>
    if symbols.length % 4 = 1 && last ≠ pad && (value? last).isNone then
      .error (.invalidSymbol (symbols.length - 1) last)
    else decodeFrom 0 symbols
  | none => .ok []

end Base64

end StepSheet
