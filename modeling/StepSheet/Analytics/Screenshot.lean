import StepSheet.Number.Word
import StepSheet.Run.Screenshot

/-!
# Reading screenshot paths

The path of a screenshot tells the date, the test case, the module, the number
and the action of its step. A module may have any name, even one that looks like
the rest of a file name: it reaches as far as it can. A step number that is out
of range, or in digits other than ASCII ones, is none.
-/

namespace StepSheet

/-- What the path of a screenshot tells. -/
structure Shot where
  date : String
  testCase : String
  scope : Option String
  step : Nat
  action : String
  path : Path
deriving DecidableEq

namespace Shot

/-- The digits of the step number and the action, from a file name without a module. -/
def stepPart? (cs : List Char) : Option (List Char × List Char) :=
  match Chars.after? "Step_".toList cs with
  | none => none
  | some cs =>
    let digits := cs.takeWhile Unicode.isDecimalDigit
    match cs.dropWhile Unicode.isDecimalDigit with
    | '_' :: cs =>
      match Chars.after? ".png".toList.reverse cs.reverse with
      | some action =>
        if digits.isEmpty || action.isEmpty || action.contains '\n' then none
        else some (digits, action.reverse)
      | none => none
    | _ => none

/-- The longest module in front of a step, where `taken` are the characters before in
reverse, and the rest of the file name. -/
def scopePart? (taken : List Char) : List Char → Option (List Char × List Char × List Char)
  | [] => none
  | c :: cs =>
    match if c = '\n' then none else scopePart? (c :: taken) cs with
    | some found => some found
    | none =>
      if c = '_' && !taken.isEmpty then (stepPart? cs).map (taken.reverse, ·) else none

/-- The module, the digits of the step number, and the action in a file name. -/
def filePart? (cs : List Char) : Option (Option (List Char) × List Char × List Char) :=
  match Chars.after? "Module_".toList cs with
  | some cs => (scopePart? [] cs).map fun (scope, rest) => (some scope, rest)
  | none => (stepPart? cs).map (none, ·)

/-- Whether a text has the form of a date: digits of any script in groups of four, two
and two. -/
def isDate (cs : List Char) : Bool :=
  cs.length = 10 &&
  (cs.take 4).all Unicode.isDecimalDigit && cs[4]? = some '-' &&
  ((cs.drop 5).take 2).all Unicode.isDecimalDigit && cs[7]? = some '-' &&
  (cs.drop 8).all Unicode.isDecimalDigit

/-- What the path of a screenshot below `root` tells. -/
def ofPath? (root path : Path) : Option Shot :=
  match path.below? root with
  | some [date, testCase, file] =>
    if isDate date.text.toList then
      match filePart? file.text.toList with
      | some (scope, digits, action) =>
        (Digits.parseBelow? (Word.count 32) digits).map fun step =>
          ⟨date.text, testCase.text, scope.map String.ofList, step, String.ofList action, path⟩
      | none => none
    else none
  | _ => none

end Shot

end StepSheet
