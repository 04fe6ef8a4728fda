import StepSheet.Toml.Scalar
import StepSheet.Toml.Text
import StepSheet.Toml.Tree

/-!
# Reading TOML

A document is a sequence of lines that hold a key with a value, the header of a
table or nothing, and may end with a comment. The members of every table are
sorted by name. Arrays and tables in braces may span lines, end with a comma and
be nested up to 80 deep; within the braces a line may also end on either side of
an equals sign. A key has at most 80 parts.
-/

namespace StepSheet.Toml

/-- The characters behind blanks, line breaks and comments; none when one of them is
malformed. -/
def gap? (comment : Bool) : List Char → Option (List Char)
  | [] => some []
  | '\r' :: '\n' :: cs => gap? false cs
  | c :: cs =>
    if c = '\n' then gap? false cs
    else if comment then if isPrintable c then gap? true cs else none
    else if c = '#' then gap? true cs
    else if c = ' ' || c = '\t' then gap? false cs
    else some (c :: cs)

/-- The characters behind the blanks at the front. -/
def blanks (cs : List Char) : List Char := cs.dropWhile fun c => c = ' ' || c = '\t'

/-- What follows the line at whose end the characters stand, which may hold blanks
and a comment only. -/
def lineEnd? (cs : List Char) : Option (List Char) :=
  let cs := blanks cs
  match cs with
  | [] => some []
  | '#' :: _ => gap? false cs
  | _ => if isLineBreak cs then gap? false cs else none

/-- Whether a character may stand in a key without quotes. -/
def isBare (c : Char) : Bool := c.isAlphanum || c = '_' || c = '-'

/-- One part of a key. -/
def simpleKey? (cs : List Char) : Option (String × List Char) :=
  match line? cs with
  | some (text, cs) => some (String.ofList text, cs)
  | none =>
    let bare := cs.takeWhile isBare
    if bare.isEmpty then none else some (String.ofList bare, cs.dropWhile isBare)

/-- The number of levels to which values may be nested, and of parts that a key may have. -/
def maxDepth : Nat := 80

/-- The parts of a key that are to come, `room` at most: those before the last one, which
follow the parts `before` them, and the last one. The blanks behind the key belong to it. -/
def keyParts? (room : Nat) (before : List String) (cs : List Char) :
    Option ((List String × String) × List Char) :=
  match room with
  | 0 => none
  | room + 1 =>
    match simpleKey? cs with
    | none => none
    | some (part, cs) =>
      match blanks cs with
      | '.' :: cs => keyParts? room (before ++ [part]) (blanks cs)
      | cs => some ((before, part), cs)

/-- A key: the parts before its last one, and the last one. -/
def key? (cs : List Char) : Option ((List String × String) × List Char) :=
  keyParts? maxDepth [] cs

/-- A key within braces, the equals sign behind it and the gaps around that sign, so that
a value is next. -/
def pairKey? (cs : List Char) : Option ((List String × String) × List Char) :=
  match key? cs with
  | none => none
  | some (key, cs) =>
    match gap? false cs with
    | some ('=' :: cs) => (gap? false cs).map (key, ·)
    | _ => none

/-- Whether a character ends a word. -/
def endsWord (c : Char) : Bool :=
  c = ' ' || c = '\t' || c = '\n' || c = '\r' || c = ',' || c = ']' || c = '\x7d' || c = '#' ||
  c = '=' || c = '[' || c = '\x7b' || c = '"' || c = '\''

/-- A word and what follows it. A blank between a date and a time is part of a word. -/
def word (cs : List Char) : List Char × List Char :=
  let (first, rest) := cut endsWord cs
  match date? first, rest with
  | some [], ' ' :: d :: more =>
    if d.isDigit then
      let (second, rest) := cut endsWord (d :: more)
      (first ++ ' ' :: second, rest)
    else (first, rest)
  | _, _ => (first, rest)

mutual

/-- A value and what follows it, where `room` more levels may be nested. -/
def value? (fuel room : Nat) (cs : List Char) : Option (Data × List Char) :=
  match fuel with
  | 0 => none
  | fuel + 1 =>
    match text? cs with
    | some (text, cs) => some (.text (String.ofList text), cs)
    | none =>
      match cs with
      | '[' :: cs =>
        if room = 0 then none
        else (items? fuel (room - 1) cs).map fun (items, cs) => (.array items, cs)
      | '\x7b' :: cs =>
        if room = 0 then none
        else (pairs? fuel (room - 1) [] cs).map fun (entries, cs) =>
          (.object (membersOf entries), cs)
      | _ =>
        let (word, cs) := word cs
        (scalar? word).map (·, cs)

/-- The elements of an array up to its closing bracket, and what follows. -/
def items? (fuel room : Nat) (cs : List Char) : Option (List Data × List Char) :=
  match fuel with
  | 0 => none
  | fuel + 1 =>
    match gap? false cs with
    | none => none
    | some (']' :: cs) => some ([], cs)
    | some cs =>
      match value? fuel room cs with
      | none => none
      | some (item, cs) =>
        match gap? false cs with
        | some (',' :: cs) => (items? fuel room cs).map fun (items, cs) => (item :: items, cs)
        | some (']' :: cs) => some ([item], cs)
        | _ => none

/-- The entries of a table in braces up to the closing one, and what follows. -/
def pairs? (fuel room : Nat) (entries : Entries) (cs : List Char) :
    Option (Entries × List Char) :=
  match fuel with
  | 0 => none
  | fuel + 1 =>
    match gap? false cs with
    | none => none
    | some ('\x7d' :: cs) => some (entries, cs)
    | some cs =>
      match pairKey? cs with
      | none => none
      | some ((path, key), cs) =>
        match value? fuel room cs with
        | none => none
        | some (item, cs) =>
          match assign path key item entries, gap? false cs with
          | some entries, some (',' :: cs) => pairs? fuel room entries cs
          | some entries, some ('\x7d' :: cs) => some (entries, cs)
          | _, _ => none

end

/-- The header of a table, behind its opening brackets, and what follows its line. -/
def header? (inArray : Bool) (cs : List Char) : Option (Header × List Char) :=
  match key? (blanks cs) with
  | some ((path, key), ']' :: cs) =>
    if inArray then
      match cs with
      | ']' :: cs => (lineEnd? cs).map (⟨path, key, true⟩, ·)
      | _ => none
    else (lineEnd? cs).map (⟨path, key, false⟩, ·)
  | _ => none

/-- The draft of a document with the lines that the characters hold. -/
def lines? (fuel : Nat) (draft : Draft) (cs : List Char) : Option Draft :=
  match fuel with
  | 0 => none
  | fuel + 1 =>
    match cs with
    | [] => some draft
    | '[' :: '[' :: cs => do
      let (header, cs) ← header? true cs
      lines? fuel (← draft.start header) cs
    | '[' :: cs => do
      let (header, cs) ← header? false cs
      lines? fuel (← draft.start header) cs
    | cs =>
      match key? cs with
      | some ((path, key), '=' :: cs) => do
        let (value, cs) ← value? fuel maxDepth (blanks cs)
        let cs ← lineEnd? cs
        lines? fuel (← draft.assign path key value) cs
      | _ => none

/-- The table that a document holds. A byte order mark may stand at its front. -/
def read? (s : String) : Option Data := do
  let cs := match s.toList with
    | '\uFEFF' :: cs => cs
    | cs => cs
  let fuel := 2 * cs.length + 2
  let draft ← lines? fuel .empty (← gap? false cs)
  return .object (membersOf (← draft.finish))

end StepSheet.Toml
