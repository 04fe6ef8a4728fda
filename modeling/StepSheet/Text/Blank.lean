/-!
# Blank characters

White space is the Unicode property of that name: tab to carriage return, the
space, and the spaces and separators beyond ASCII. A zero-width space is not
blank. Trimming removes blanks from both ends; the words of a text are its
longest runs of other characters.
-/

namespace StepSheet

/-- The Unicode property `White_Space`. -/
def isBlank (c : Char) : Bool :=
  (9 ≤ c.toNat && c.toNat ≤ 13) || c.toNat == 0x20 || c.toNat == 0x85 || c.toNat == 0xA0 ||
  c.toNat == 0x1680 || (0x2000 ≤ c.toNat && c.toNat ≤ 0x200A) || c.toNat == 0x2028 ||
  c.toNat == 0x2029 || c.toNat == 0x202F || c.toNat == 0x205F || c.toNat == 0x3000

namespace Chars

/-- The characters after the leading blanks. -/
def trimLeft (cs : List Char) : List Char := cs.dropWhile isBlank

/-- The characters before the trailing blanks. -/
def trimRight (cs : List Char) : List Char := (cs.reverse.dropWhile isBlank).reverse

/-- The characters between the blanks at both ends. -/
def trim (cs : List Char) : List Char := trimRight (trimLeft cs)

/-- The maximal runs of characters that are not blank, in order; `run` is the
part of the current word already read. -/
def wordsFrom (run : List Char) : List Char → List (List Char)
  | [] => if run.isEmpty then [] else [run]
  | c :: cs =>
    if isBlank c then
      if run.isEmpty then wordsFrom [] cs else run :: wordsFrom [] cs
    else wordsFrom (run ++ [c]) cs

/-- The blank-separated words. -/
def words (cs : List Char) : List (List Char) := wordsFrom [] cs

/-- What follows `start`, when the characters begin with it. -/
def after? (start : List Char) (cs : List Char) : Option (List Char) :=
  match start, cs with
  | [], cs => some cs
  | _ :: _, [] => none
  | a :: start, c :: cs => if a = c then after? start cs else none

/-- The pieces between the occurrences of `sep`; there is always at least one. -/
def splitOn (sep : Char) : List Char → List (List Char)
  | [] => [[]]
  | c :: cs =>
    if c = sep then [] :: splitOn sep cs
    else match splitOn sep cs with
      | [] => [[c]]
      | piece :: pieces => (c :: piece) :: pieces

/-- Every occurrence of the character `old` becomes `new`. -/
def replace (old new : Char) (cs : List Char) : List Char :=
  cs.map fun c => if c = old then new else c

/-- ASCII letters in lower case; every other character unchanged. -/
def lower (cs : List Char) : List Char := cs.map Char.toLower

@[simp] theorem trim_nil : trim [] = [] := rfl

@[simp] theorem words_nil : words [] = [] := rfl

theorem splitOn_ne_nil (sep : Char) (cs : List Char) : splitOn sep cs ≠ [] := by
  cases cs with
  | nil => simp [splitOn]
  | cons c cs =>
    unfold splitOn
    split
    · simp
    · split <;> simp

@[simp] theorem after?_append (start cs : List Char) : after? start (start ++ cs) = some cs := by
  induction start with
  | nil => simp [after?]
  | cons a start ih => simp [after?, ih]

theorem eq_append_of_after? {start cs rest : List Char} (h : after? start cs = some rest) :
    cs = start ++ rest := by
  induction start generalizing cs with
  | nil => simpa [after?] using h
  | cons a start ih =>
    cases cs with
    | nil => simp [after?] at h
    | cons c cs =>
      simp only [after?] at h
      split at h
      · next hac => rw [hac, ih h, List.cons_append]
      · simp at h

end Chars

namespace Text

/-- A text without the blanks at its ends. -/
def trim (s : String) : String := String.ofList (Chars.trim s.toList)

/-- Whether a text holds nothing but blanks. -/
def isBlank (s : String) : Bool := s.toList.all StepSheet.isBlank

/-- What follows `start` in a text that begins with it. -/
def after? (start s : String) : Option String :=
  (Chars.after? start.toList s.toList).map String.ofList

/-- Whether a text begins with `start`. -/
def startsWith (start s : String) : Bool := (Chars.after? start.toList s.toList).isSome

/-- What precedes `last` in a text that ends with it. -/
def before? (last s : String) : Option String :=
  (Chars.after? last.toList.reverse s.toList.reverse).map fun cs => String.ofList cs.reverse

/-- The pieces of a text between the occurrences of `sep`. -/
def splitOn (sep : Char) (s : String) : List String :=
  (Chars.splitOn sep s.toList).map String.ofList

/-- Every occurrence of `old` becomes `new`. -/
def replace (old new : Char) (s : String) : String := String.ofList (Chars.replace old new s.toList)

/-- Equality up to the case of ASCII letters. -/
def sameFolded (a b : String) : Bool := Chars.lower a.toList == Chars.lower b.toList

/-- The number of characters. -/
def size (s : String) : Nat := s.toList.length

/-- The text made of `n` copies of a character. -/
def repeated (n : Nat) (c : Char) : String := String.ofList (List.replicate n c)

end Text

end StepSheet
