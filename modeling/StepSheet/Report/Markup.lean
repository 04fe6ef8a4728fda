/-!
# Markup

A page is a tree of elements and texts. What a text or the value of an attribute
holds is escaped, so that it never becomes markup itself.
-/

namespace StepSheet

structure Attribute where
  name : String
  value : String
deriving DecidableEq

/-- A part of a page. A verbatim part stands as it is; a void element has no content
and is not closed. -/
inductive Markup where
  | text (value : String)
  | verbatim (value : String)
  | element (tag : String) (attributes : List Attribute) (content : List Markup)
  | void (tag : String) (attributes : List Attribute)

namespace Markup

/-- A character as it stands in a page. -/
def escape (c : Char) : List Char :=
  if c = '&' then ['&', 'a', 'm', 'p', ';']
  else if c = '<' then ['&', 'l', 't', ';']
  else if c = '>' then ['&', 'g', 't', ';']
  else if c = '"' then ['&', 'q', 'u', 'o', 't', ';']
  else [c]

/-- A text as it stands in a page. -/
def escaped (s : String) : List Char := s.toList.flatMap escape

def attributeText (attributes : List Attribute) : List Char :=
  attributes.flatMap fun a => ' ' :: a.name.toList ++ ['=', '"'] ++ escaped a.value ++ ['"']

mutual

/-- A part as it stands in a page. -/
def render : Markup → List Char
  | .text value => escaped value
  | .verbatim value => value.toList
  | .element tag attributes content =>
    '<' :: tag.toList ++ attributeText attributes ++ '>' :: renderAll content ++
      '<' :: '/' :: tag.toList ++ ['>']
  | .void tag attributes => '<' :: tag.toList ++ attributeText attributes ++ ['>']

def renderAll : List Markup → List Char
  | [] => []
  | part :: parts => render part ++ renderAll parts

end

def plain (tag : String) (content : List Markup) : Markup := .element tag [] content

def classed (tag name : String) (content : List Markup) : Markup :=
  .element tag [⟨"class", name⟩] content

def block (name : String) (content : List Markup) : Markup := classed "div" name content

def number (n : Nat) : Markup := .text (toString n)

/-- A table whose head names the columns. -/
def table (columns : List String) (rows : List Markup) : Markup :=
  classed "table" "steps-table"
    [plain "thead" [plain "tr" (columns.map fun column => plain "th" [.text column])],
      plain "tbody" rows]

/-- A whole page with a title, a style sheet and one block of content. -/
def page (title style : String) (content : List Markup) : String :=
  String.ofList <| renderAll
    [.verbatim "<!DOCTYPE html>",
      .element "html" [⟨"lang", "en"⟩]
        [plain "head"
            [.void "meta" [⟨"charset", "UTF-8"⟩],
              .void "meta"
                [⟨"name", "viewport"⟩, ⟨"content", "width=device-width, initial-scale=1.0"⟩],
              plain "title" [.text title],
              plain "style" [.verbatim style]],
          plain "body" [block "container" content]]]

end Markup

end StepSheet
