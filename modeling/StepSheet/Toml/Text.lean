import StepSheet.Text.Digit

/-!
# TOML texts

A text stands in double quotes, in which a backslash opens an escape, or in
apostrophes, in which every character is itself. Three quotes of a kind enclose
a text over several lines; up to two more of them may stand right before the
closing three. A backslash at the end of a line takes the line break and the
blanks behind it away.
-/

namespace StepSheet.Toml

/-- Whether a character may stand in a comment or a text as it is. -/
def isPrintable (c : Char) : Bool := c = '\t' || (0x20 ≤ c.toNat && c.toNat ≠ 0x7F)

/-- The character of a one-letter escape. -/
def escape? : Char → Option Char
  | 'b' => some '\x08'
  | 't' => some '\t'
  | 'n' => some '\n'
  | 'f' => some '\x0c'
  | 'r' => some '\r'
  | 'e' => some '\x1b'
  | '"' => some '"'
  | '\\' => some '\\'
  | _ => none

/-- The number of digits of an escape by code point. -/
def codeWidth? : Char → Option Nat
  | 'x' => some 2
  | 'u' => some 4
  | 'U' => some 8
  | _ => none

/-- The character of a code point. -/
def ofCode? (n : Nat) : Option Char :=
  if h : n.isValidChar then some (Char.ofNatAux n h) else none

/-- What a text in double quotes has open: nothing, an escape, the digits of a code
point of which so many are to come, or a line break to be taken away, which has
been passed or not. -/
inductive Open where
  | nothing
  | escape
  | code (left value : Nat)
  | gap (passed : Bool)

/-- What one character of a text does: it adds characters, it ends the text behind
some quotes that belong to it, or it must not stand there. -/
inductive Step where
  | add (chars : List Char) (state : Open)
  | finish (quotes : Nat) (rest : List Char)
  | refuse

/-- The quotes that end a text over several lines: how many of them belong to the
text, and what follows. -/
def closing? (quote : Char) : List Char → Option (Nat × List Char)
  | a :: b :: c :: cs =>
    if a = quote && b = quote && c = quote then
      match cs with
      | d :: e :: rest =>
        if d = quote then if e = quote then some (2, rest) else some (1, e :: rest)
        else some (0, cs)
      | [d] => if d = quote then some (1, []) else some (0, cs)
      | [] => some (0, [])
    else none
  | _ => none

/-- Whether a line break stands at the front. -/
def isLineBreak (cs : List Char) : Bool :=
  match cs with
  | '\n' :: _ => true
  | '\r' :: '\n' :: _ => true
  | _ => false

/-- A character of a text, in quotes of one kind, that stands for itself or ends it. -/
def ordinary (quote : Char) (lines : Bool) (c : Char) (cs : List Char) : Step :=
  if c = quote then
    if lines then
      match closing? quote (c :: cs) with
      | some (quotes, rest) => .finish quotes rest
      | none => .add [c] .nothing
    else .finish 0 cs
  else if isPrintable c || (lines && isLineBreak (c :: cs)) then .add [c] .nothing
  else .refuse

/-- A character of a text in double quotes. -/
def step (lines : Bool) (state : Open) (c : Char) (cs : List Char) : Step :=
  match state with
  | .nothing => if c = '\\' then .add [] .escape else ordinary '"' lines c cs
  | .escape =>
    match escape? c, codeWidth? c with
    | some char, _ => .add [char] .nothing
    | none, some width => .add [] (.code width 0)
    | none, none =>
      if lines && (c = ' ' || c = '\t' || (c = '\r' && isLineBreak (c :: cs))) then
        .add [] (.gap false)
      else if lines && c = '\n' then .add [] (.gap true)
      else .refuse
  | .code left value =>
    match Digits.hexValue? c with
    | none => .refuse
    | some digit =>
      if 1 < left then .add [] (.code (left - 1) (value * 16 + digit))
      else match ofCode? (value * 16 + digit) with
        | some char => .add [char] .nothing
        | none => .refuse
  | .gap passed =>
    if c = ' ' || c = '\t' || (c = '\r' && isLineBreak (c :: cs)) then .add [] (.gap passed)
    else if c = '\n' then .add [] (.gap true)
    else if !passed then .refuse
    else if c = '\\' then .add [] .escape
    else ordinary '"' lines c cs

/-- The text in double quotes after the opening ones, and what follows the closing
ones; `taken` holds its characters so far in reverse. -/
def quoted? (lines : Bool) (taken : List Char) (state : Open) :
    List Char → Option (List Char × List Char)
  | [] => none
  | c :: cs =>
    match step lines state c cs with
    | .add chars state => quoted? lines (chars ++ taken) state cs
    | .finish quotes rest => some ((List.replicate quotes '"' ++ taken).reverse, rest)
    | .refuse => none

/-- The text in apostrophes after the opening ones, and what follows the closing ones. -/
def literal? (lines : Bool) (taken : List Char) : List Char → Option (List Char × List Char)
  | [] => none
  | c :: cs =>
    match ordinary '\'' lines c cs with
    | .add chars _ => literal? lines (chars ++ taken) cs
    | .finish quotes rest => some ((List.replicate quotes '\'' ++ taken).reverse, rest)
    | .refuse => none

/-- The characters behind a line break at the front, if there is one. -/
def withoutLineBreak : List Char → List Char
  | '\n' :: cs => cs
  | '\r' :: '\n' :: cs => cs
  | cs => cs

/-- A text on one line, if a quote stands at the front. -/
def line? : List Char → Option (List Char × List Char)
  | '"' :: cs => quoted? false [] .nothing cs
  | '\'' :: cs => literal? false [] cs
  | _ => none

/-- A text of any kind, if a quote stands at the front. -/
def text? : List Char → Option (List Char × List Char)
  | '"' :: '"' :: '"' :: cs => quoted? true [] .nothing (withoutLineBreak cs)
  | '\'' :: '\'' :: '\'' :: cs => literal? true [] (withoutLineBreak cs)
  | cs => line? cs

end StepSheet.Toml
