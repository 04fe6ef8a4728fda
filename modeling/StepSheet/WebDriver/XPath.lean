import StepSheet.Step.Locator

/-!
# Queries for elements

An element is found by a selector or by an XPath expression. An XPath literal
has quotes of one kind and cannot hold that kind, so a text with both kinds is
put together from pieces. An expression is made of fixed parts and of literals
only; what a locator looks for never becomes anything else.
-/

namespace StepSheet.XPath

/-- A text in apostrophes. -/
def single (cs : List Char) : List Char := '\'' :: cs ++ ['\'']

/-- A text in double quotes. -/
def double (cs : List Char) : List Char := '"' :: cs ++ ['"']

/-- Pieces in apostrophes with an apostrophe in double quotes between them. -/
def arguments : List (List Char) → List Char
  | [] => []
  | [piece] => single piece
  | piece :: pieces =>
    single piece ++ [',', ' '] ++ double ['\''] ++ [',', ' '] ++ arguments pieces

/-- An expression whose value is the text. -/
def literal (cs : List Char) : List Char :=
  if !cs.contains '\'' then single cs
  else if !cs.contains '"' then double cs
  else "concat(".toList ++ arguments (Chars.splitOn '\'' cs) ++ [')']

/-- A part of an expression. -/
inductive Part where
  | fixed (text : String)
  | literal (value : String)
deriving DecidableEq

def Part.text : Part → String
  | .fixed text => text
  | .literal value => String.ofList (XPath.literal value.toList)

/-- The expression of its parts. -/
def text (parts : List Part) : String := String.join (parts.map Part.text)

/-- The elements that have a role without saying so. -/
def implicitRole? (role : String) : Option String :=
  match role with
  | "button" =>
    some ("self::button or (self::input and (@type='button' or @type='submit' or " ++
      "@type='reset'))")
  | "link" => some "self::a[@href]"
  | "textbox" =>
    some ("self::textarea or (self::input and (not(@type) or @type='text' or @type='email' or " ++
      "@type='password' or @type='search' or @type='tel' or @type='url'))")
  | "checkbox" => some "self::input[@type='checkbox']"
  | "radio" => some "self::input[@type='radio']"
  | "combobox" => some "self::select"
  | "heading" =>
    some "self::h1 or self::h2 or self::h3 or self::h4 or self::h5 or self::h6"
  | "img" => some "self::img"
  | "list" => some "self::ul or self::ol"
  | "listitem" => some "self::li"
  | _ => none

/-- The elements with a role. -/
def role (role : String) : List Part :=
  match implicitRole? role with
  | some implicit =>
    [.fixed "//*[@role=", .literal role, .fixed (" or " ++ implicit ++ "]")]
  | none => [.fixed "//*[@role=", .literal role, .fixed "]"]

/-- The elements with a value in an attribute. -/
def withAttribute (name value : String) : List Part :=
  [.fixed ("//*[@" ++ name ++ "="), .literal value, .fixed "]"]

/-- The innermost elements that hold a text. -/
def holding (value : String) : List Part :=
  [.fixed "//*[contains(normalize-space(.), ", .literal value,
    .fixed ") and not(.//*[contains(normalize-space(.), ", .literal value, .fixed ")])]"]

/-- The inputs that a label belongs to, from outside or around them or as an attribute. -/
def labelled (value : String) : List Part :=
  [.fixed "//*[@id=//label[contains(normalize-space(.), ", .literal value,
    .fixed ")]/@for] | //label[contains(normalize-space(.), ", .literal value,
    .fixed ")]//*[self::input or self::textarea or self::select] | //*[@aria-label=",
    .literal value, .fixed "]"]

end XPath

/-- A way to find elements, and what it is asked for. -/
structure Query where
  method : String
  value : String
deriving DecidableEq

namespace Query

def xpath (parts : List XPath.Part) : Query := ⟨"xpath", XPath.text parts⟩

/-- A query by a selector: an expression if it is marked as one or starts like one,
and otherwise a style sheet's selector. -/
def selector (value : String) : Query :=
  match Text.after? "xpath=" value with
  | some expression => ⟨"xpath", expression⟩
  | none =>
    if Text.startsWith "/" value || Text.startsWith "(/" value then ⟨"xpath", value⟩
    else ⟨"css selector", (Text.after? "css=" value).getD value⟩

def ofLocator (locator : Locator) : Query :=
  match locator.strategy with
  | .selector => selector locator.value
  | .role => xpath (XPath.role locator.value)
  | .text => xpath (XPath.holding locator.value)
  | .testId => xpath (XPath.withAttribute "data-testid" locator.value)
  | .label => xpath (XPath.labelled locator.value)
  | .placeholder => xpath (XPath.withAttribute "placeholder" locator.value)
  | .altText => xpath (XPath.withAttribute "alt" locator.value)
  | .title => xpath (XPath.withAttribute "title" locator.value)

/-- The query for an option below an element by its label. -/
def option (label : String) : Query :=
  xpath [.fixed ".//option[normalize-space(.)=", .literal (Text.trim label), .fixed "]"]

end StepSheet.Query
