import StepSheet.Files.Path
import StepSheet.Text.Alphanumeric

/-!
# Paths with variables

A path may be written with variables, as `$NAME` or with the name in braces, where
a text for a variable that is missing may follow behind `:-`. Two dollars stand
for one, and a dollar without a name for itself. A tilde in front, alone or before
a slash, stands for the home directory; one that comes from a variable does not.
-/

namespace StepSheet

/-- The values of the variables that are set. -/
abbrev Variables := String → Option String

namespace Expansion

/-- Whether a character may stand in the name of a variable without braces. -/
def isNameChar (c : Char) : Bool := Unicode.isAlphanumeric c || c = '_'

/-- The characters before and behind the first `:-`. -/
def cutDefault : List Char → List Char × Option (List Char)
  | [] => ([], none)
  | ':' :: '-' :: cs => ([], some cs)
  | c :: cs => (c :: (cutDefault cs).1, (cutDefault cs).2)

/-- The name between braces, and the text for a missing variable. A name is not
empty, unless there is nothing between the braces. -/
def reference (inner : List Char) : List Char × Option (List Char) :=
  match cutDefault inner with
  | ([], _) => (inner, none)
  | split => split

/-- The value of a variable, or else the text for a missing one; the error is the name. -/
def lookUp (vars : Variables) (name : List Char) (default : Option (List Char)) :
    Except String (List Char) :=
  match vars (String.ofList name), default with
  | some value, _ => .ok value.toList
  | none, some value => .ok value
  | none, none => .error (String.ofList name)

theorem length_dropWhile_le (p : Char → Bool) (cs : List Char) :
    (cs.dropWhile p).length ≤ cs.length := (List.dropWhile_sublist p).length_le

/-- A text with the values of its variables; the error is the name of a missing one. -/
def expandVariables (vars : Variables) : List Char → Except String (List Char)
  | [] => .ok []
  | '$' :: '$' :: cs => (expandVariables vars cs).map ('$' :: ·)
  | '$' :: '\x7b' :: cs =>
    match h : cs.dropWhile (· ≠ '\x7d') with
    | [] => (expandVariables vars cs).map fun rest => '$' :: '\x7b' :: rest
    | _ :: rest => do
      let (name, default) := reference (cs.takeWhile (· ≠ '\x7d'))
      let value ← lookUp vars name default
      have : rest.length < cs.length := by
        have := length_dropWhile_le (· ≠ '\x7d') cs
        rw [h] at this
        exact this
      return value ++ (← expandVariables vars rest)
  | '$' :: c :: cs =>
    if isNameChar c then do
      let value ← lookUp vars (c :: cs.takeWhile isNameChar) none
      have := length_dropWhile_le isNameChar cs
      return value ++ (← expandVariables vars (cs.dropWhile isNameChar))
    else (expandVariables vars (c :: cs)).map ('$' :: ·)
  | c :: cs => (expandVariables vars cs).map (c :: ·)
termination_by cs => cs.length

/-- A text in which a tilde in front is the home directory. -/
def home (vars : Variables) (cs : List Char) : List Char :=
  match cs, vars "HOME" with
  | '~' :: rest, some home =>
    if rest.isEmpty || rest.head? = some '/' then home.toList ++ rest else cs
  | _, _ => cs

end Expansion

/-- A path that cannot be expanded, and the variable that is missing. -/
structure ExpansionError where
  raw : String
  variableName : String
deriving DecidableEq

def ExpansionError.message (error : ExpansionError) : String :=
  s!"Failed to expand path: {error.raw}: error looking key '{error.variableName}' up: " ++
    "environment variable not found: environment variable not found"

def Path.expand (vars : Variables) (raw : String) : Except ExpansionError Path :=
  match Expansion.expandVariables vars raw.toList with
  | .error name => .error ⟨raw, name⟩
  | .ok cs =>
    .ok ⟨String.ofList (if raw.toList.head? = some '~' then Expansion.home vars cs else cs)⟩

end StepSheet
