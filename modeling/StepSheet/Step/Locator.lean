import StepSheet.Text.Quoted
import StepSheet.Text.Blank

/-!
# Locators

A locator names an element of a page: a strategy and the text it looks for.
Nothing is looked up when a locator is read. Both of its parts are cleaned of
blanks at the ends, of a quote in front and of a quote behind.
-/

namespace StepSheet

/-- The characters without a quote of either kind in front. -/
def Chars.withoutQuote : List Char → List Char
  | '"' :: cs => cs
  | '\'' :: cs => cs
  | cs => cs

/-- The characters without blanks at the ends, then without a quote at each end,
then without blanks again. -/
def Chars.clean (cs : List Char) : List Char :=
  trim (withoutQuote (withoutQuote (trim cs)).reverse).reverse

/-- A text without the blanks and quotes around it. -/
def Text.clean (s : String) : String := String.ofList (Chars.clean s.toList)

/-- The ways in which an element is addressed. -/
inductive Strategy where
  | selector
  | role
  | text
  | testId
  | label
  | placeholder
  | altText
  | title
deriving DecidableEq

namespace Strategy

/-- All strategies, in the order in which messages list them. -/
def all : List Strategy :=
  [selector, role, text, testId, label, placeholder, altText, title]

def keyword : Strategy → String
  | selector => "locator"
  | role => "getByRole"
  | text => "getByText"
  | testId => "getByTestId"
  | label => "getByLabel"
  | placeholder => "getByPlaceholder"
  | altText => "getByAltText"
  | title => "getByTitle"

/-- The strategy of a keyword; a misspelling of placeholder counts as well. -/
def ofKeyword? (word : String) : Option Strategy :=
  if word = "getByBlaceholder" then some placeholder
  else all.find? fun strategy => strategy.keyword = word

/-- The keywords, as messages list them. -/
def keywords : String := ", ".intercalate (all.map keyword)

@[simp] theorem ofKeyword?_keyword (strategy : Strategy) :
    ofKeyword? strategy.keyword = some strategy := by
  cases strategy <;> decide

end Strategy

/-- An element by the strategy that finds it and the text it looks for. -/
structure Locator where
  strategy : Strategy
  value : String
deriving DecidableEq

/-- A locator as messages show it. -/
def Locator.display (locator : Locator) : String :=
  locator.strategy.keyword ++ "(" ++ Quoted.quote locator.value ++ ")"

/-- The locator that two columns declare, unless the first one names no strategy. -/
def Locator.ofColumns? (type path : String) : Option Locator :=
  (Strategy.ofKeyword? (Text.clean type)).map fun strategy => ⟨strategy, Text.clean path⟩

end StepSheet
