import StepSheet.Text.Blank

/-!
# Languages

Every message exists in each of the languages, and a phrase holds it in all of
them. A requested language is matched as a whole first, then by its part before
the first hyphen, and English is the last resort.
-/

namespace StepSheet

/-- The languages of messages. -/
inductive Locale where
  | en
  | zhCN
deriving DecidableEq, Inhabited

/-- A message in every language. -/
structure Phrase where
  en : String
  zhCN : String
deriving DecidableEq

def Phrase.text (phrase : Phrase) : Locale → String
  | .en => phrase.en
  | .zhCN => phrase.zhCN

namespace Locale

def tag : Locale → String
  | en => "en"
  | zhCN => "zh-CN"

/-- The languages in the order in which they are tried. -/
def all : List Locale := [en, zhCN]

/-- The part of a tag before its first hyphen. -/
def language (tag : String) : String := String.ofList (tag.toList.takeWhile (· ≠ '-'))

/-- The tag that fits a requested one best; underscores count as hyphens, and the
case of letters does not matter. -/
def resolve (available : List String) (requested : String) : String :=
  let requested := Text.replace '_' '-' requested
  let wanted := language requested
  match available.find? (Text.sameFolded · requested) with
  | some tag => tag
  | none =>
    match available.find? (Text.sameFolded · wanted) with
    | some tag => tag
    | none => (available.find? fun tag => Text.sameFolded (language tag) wanted).getD "en"

/-- The language that fits a requested tag best. -/
def select (requested : String) : Locale :=
  let tag := resolve (all.map Locale.tag) requested
  (all.find? (·.tag = tag)).getD .en

/-- The variables that tell the language of the system, in order of precedence. -/
def variableNames : List String := ["LANGUAGE", "LC_ALL", "LC_MESSAGES", "LANG"]

/-- The tag of the language of the system: the first of its variables that has a
value, of a list of languages the first, and without an encoding or a modifier. -/
def ofSystem (value? : String → Option String) : String :=
  let values := variableNames.filterMap fun name =>
    match value? name with
    | some value =>
      let value := if name = "LANGUAGE" then value.toList.takeWhile (· ≠ ':') else value.toList
      if value.isEmpty then none else some value
    | none => none
  match values with
  | [] => "en"
  | value :: _ =>
    Text.replace '_' '-' (String.ofList (value.takeWhile fun c => c ≠ '.' && c ≠ '@'))

end Locale

end StepSheet
