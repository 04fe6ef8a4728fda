import StepSheet.Proofs.Step.Keyword
import StepSheet.Proofs.Text.Folded

/-!
# Quotes around a text

A text is cleaned at each end on its own: a quote in front goes, and a quote behind, whether or
not there is one of the same kind at the other end. So the quotes that enclose a text go, and so
does a quote at one end only, which belongs to the text. Locators, waits and calls of modules
take what they need from their rows in this way.
-/

namespace StepSheet

/-! ### The ends of a text -/

def isQuote (c : Char) : Bool := c = '"' || c = '\''

namespace Chars

variable {raw cs front inner back : List Char} {quote : Char}

/-- Characters with a quote at neither end. -/
structure IsBare (cs : List Char) : Prop where
  first : ∀ c ∈ cs.head?, isQuote c = false
  last : ∀ c ∈ cs.getLast?, isQuote c = false

/-- Characters between two quotes of one kind. -/
def Encloses (quote : Char) (inner cs : List Char) : Prop :=
  isQuote quote ∧ cs = quote :: inner ++ [quote]

/-- Characters cut into a quote in front, what is inside, and a quote behind. Where there is no
such quote, nothing is cut off there; of a quote that stands alone nothing is left for the back. -/
structure Cut (cs front inner back : List Char) : Prop where
  whole : cs = front ++ inner ++ back
  front : (front = [] ∧ ∀ c ∈ cs.head?, isQuote c = false) ∨
    ∃ quote, isQuote quote ∧ front = [quote]
  back : (back = [] ∧ ∀ c ∈ inner.getLast?, isQuote c = false) ∨
    ∃ quote, isQuote quote ∧ back = [quote]

theorem withoutQuote_cons (h : isQuote quote) : withoutQuote (quote :: cs) = cs := by
  simp only [isQuote, Bool.or_eq_true, decide_eq_true_iff] at h
  rcases h with rfl | rfl <;> rfl

theorem withoutQuote_eq_self (h : ∀ c ∈ cs.head?, isQuote c = false) : withoutQuote cs = cs := by
  unfold withoutQuote
  split
  · exact absurd (h _ rfl) (by decide)
  · exact absurd (h _ rfl) (by decide)
  · rfl

theorem exists_front (cs : List Char) :
    ∃ front, cs = front ++ withoutQuote cs ∧
      ((front = [] ∧ ∀ c ∈ cs.head?, isQuote c = false) ∨
        ∃ quote, isQuote quote ∧ front = [quote]) := by
  by_cases bare : ∀ c ∈ cs.head?, isQuote c = false
  · exact ⟨[], (withoutQuote_eq_self bare).symm, .inl ⟨rfl, bare⟩⟩
  · cases cs with
    | nil => exact absurd (by simp) bare
    | cons c cs =>
        have quote : isQuote c := by simpa using bare
        exact ⟨[c], by rw [withoutQuote_cons quote]; rfl, .inr ⟨c, quote, rfl⟩⟩

/-- The front of a text is cut first, and the back of what that leaves. -/
theorem exists_cut (cs : List Char) :
    ∃ front back, Cut cs front (withoutQuote (withoutQuote cs).reverse).reverse back := by
  obtain ⟨front, whole, first⟩ := exists_front cs
  obtain ⟨last, rest, second⟩ := exists_front (withoutQuote cs).reverse
  have behind : withoutQuote cs =
      (withoutQuote (withoutQuote cs).reverse).reverse ++ last.reverse := by
    rw [← List.reverse_append, ← rest, List.reverse_reverse]
  refine ⟨front, last.reverse, ?_, first, ?_⟩
  · rw [List.append_assoc, ← behind, ← whole]
  · obtain ⟨rfl, bare⟩ | ⟨quote, isQuote, rfl⟩ := second
    · refine .inl ⟨rfl, ?_⟩
      rwa [withoutQuote_eq_self bare, List.reverse_reverse, ← List.head?_reverse]
    · exact .inr ⟨quote, isQuote, rfl⟩

theorem length_trim_le (cs : List Char) : (trim cs).length ≤ cs.length := by
  obtain ⟨before, after, whole, -, -⟩ := exists_around_trim cs
  have lengths := congrArg List.length whole
  simp only [List.length_append] at lengths
  omega

/-- What cleaning leaves of a text. -/
theorem exists_clean_cut (raw : List Char) :
    ∃ front inner back, Cut (trim raw) front inner back ∧ clean raw = trim inner := by
  obtain ⟨front, back, cut⟩ := exists_cut (trim raw)
  exact ⟨front, _, back, cut, rfl⟩

/-- Enclosing quotes of one kind are both taken off. -/
theorem clean_of_encloses (h : Encloses quote inner (trim raw)) : clean raw = trim inner := by
  obtain ⟨isQuote, enclosed⟩ := h
  rw [clean, enclosed, List.cons_append, withoutQuote_cons isQuote, List.reverse_append,
    List.reverse_singleton, List.singleton_append, withoutQuote_cons isQuote, List.reverse_reverse]

/-- Nothing but blanks is taken off a text exactly if there is a quote at neither end. -/
theorem clean_eq_trim_iff : clean raw = trim raw ↔ IsBare (trim raw) := by
  constructor
  · intro same
    obtain ⟨front, inner, back, ⟨whole, first, last⟩, cleaned⟩ := exists_clean_cut raw
    have short : (front ++ inner ++ back).length ≤ inner.length := by
      rw [← whole, ← same, cleaned]
      exact length_trim_le inner
    simp only [List.length_append] at short
    obtain rfl : front = [] := List.eq_nil_of_length_eq_zero (by omega)
    obtain rfl : back = [] := List.eq_nil_of_length_eq_zero (by omega)
    rw [List.nil_append, List.append_nil] at whole
    rw [whole] at first ⊢
    exact ⟨by simpa using first, by simpa using last⟩
  · intro bare
    have backwards : ∀ c ∈ (trim raw).reverse.head?, isQuote c = false := by
      rw [List.head?_reverse]
      exact bare.last
    rw [clean, withoutQuote_eq_self bare.first, withoutQuote_eq_self backwards,
      List.reverse_reverse, (isTrimmed_trim raw).trim_eq]

/-- A text without the pair of quotes of one kind that encloses it, if there is such a pair. -/
def withoutPair : List Char → List Char
  | [] => []
  | c :: cs => if isQuote c ∧ cs.getLast? = some c then trim cs.dropLast else c :: cs

theorem withoutPair_of_encloses (h : Encloses quote inner cs) : withoutPair cs = trim inner := by
  obtain ⟨isQuote, rfl⟩ := h
  simp [withoutPair, isQuote]

theorem withoutPair_of_not_encloses (h : ¬ ∃ quote inner, Encloses quote inner cs) :
    withoutPair cs = cs := by
  cases cs with
  | nil => rfl
  | cons c cs =>
      refine if_neg ?_
      rintro ⟨quote, last⟩
      refine h ⟨c, cs.dropLast, quote, ?_⟩
      rw [List.cons_append, List.dropLast_append_getLast? c last]

/-- Cleaning takes off nothing but blanks and an enclosing pair of quotes exactly if there is
such a pair, or a quote at neither end. -/
theorem clean_eq_withoutPair_iff :
    clean raw = withoutPair (trim raw) ↔
      (∃ quote inner, Encloses quote inner (trim raw)) ∨ IsBare (trim raw) := by
  by_cases enclosed : ∃ quote inner, Encloses quote inner (trim raw)
  · obtain ⟨quote, inner, encloses⟩ := enclosed
    rw [clean_of_encloses encloses, withoutPair_of_encloses encloses]
    exact iff_of_true rfl (.inl ⟨quote, inner, encloses⟩)
  · rw [withoutPair_of_not_encloses enclosed, clean_eq_trim_iff]
    simp [enclosed]

end Chars

/-! ### What actions take cleaned -/

def Action.locator? : Action → Option Locator
  | .element locator _ => some locator
  | .assert locator _ => some locator
  | _ => none

namespace StepRow

variable {row : StepRow} {kind : ActionKind} {action : Action} {locator : Locator}

/-- What an action takes from its row without the blanks and quotes around it: both columns of
its locator, the name of a module, and the text of a wait. -/
structure TakesCleaned (row : StepRow) (action : Action) : Prop where
  locator : ∀ locator, action.locator? = some locator →
    ∃ type path, row.locatorType = some type ∧ row.locator = some path ∧
      Strategy.ofKeyword? (Text.clean type) = some locator.strategy ∧
      locator.value = Text.clean path
  callModule : ∀ name, action = .callModule name →
    ∃ input, row.input = some input ∧ name = Text.clean input
  wait : ∀ millis, action = .wait millis →
    ∃ input, row.input = some input ∧ Chars.millis? (Chars.clean input.toList) = some millis

theorem locatorFor_eq_ok_iff :
    row.locatorFor kind = .ok locator ↔
      ∃ type path, row.locatorType = some type ∧ row.locator = some path ∧
        Locator.ofColumns? type path = some locator := by
  rw [locatorFor]
  cases row.locatorType with
  | none => simp
  | some type =>
      cases row.locator with
      | none => simp
      | some path =>
          dsimp only
          cases made : Locator.ofColumns? type path <;> simp [made]

theorem waitOf_eq_ok_iff {raw : String} {millis : Nat} :
    waitOf raw = .ok millis ↔ Chars.millis? (Chars.clean raw.toList) = some millis := by
  delta waitOf
  cases Chars.millis? (Chars.clean raw.toList) <;> simp

theorem takesCleaned_of_locatorFor (located : row.locatorFor kind = .ok locator)
    (own : action.locator? = some locator) : row.TakesCleaned action := by
  obtain ⟨type, path, named, given, known⟩ := locatorFor_eq_ok_iff.mp located
  obtain ⟨strategy, keyword, rfl⟩ := Option.map_eq_some_iff.mp known
  refine ⟨?_, ?_, ?_⟩
  · intro other found
    obtain rfl := Option.some.inj (own.symm.trans found)
    exact ⟨type, path, named, given, keyword, rfl⟩
  · rintro name rfl
    cases own
  · rintro millis rfl
    cases own

theorem takesCleaned_of_actionOf (h : row.actionOf kind = .ok action) :
    row.TakesCleaned action := by
  have onElement {op : ElementOp} (h : row.onElement kind op = .ok action) :
      row.TakesCleaned action := by
    obtain ⟨locator, located, rfl⟩ := onElement_eq_ok_iff.mp h
    exact takesCleaned_of_locatorFor located rfl
  have withInput {op : String → ElementOp} (h : row.withInput kind op = .ok action) :
      row.TakesCleaned action := by
    obtain ⟨input, -, made⟩ := inputFor_bind_eq_ok_iff.mp h
    exact onElement made
  have asserting {assertion : Assertion} (h : row.asserting kind assertion = .ok action) :
      row.TakesCleaned action := by
    obtain ⟨locator, located, rfl⟩ := asserting_eq_ok_iff.mp h
    exact takesCleaned_of_locatorFor located rfl
  cases kind with
  | openUrl =>
      obtain ⟨input, -, made⟩ := inputFor_bind_eq_ok_iff.mp h
      cases made
      exact ⟨nofun, nofun, nofun⟩
  | wait =>
      obtain ⟨input, given, millis, read, rfl⟩ := actionOf_wait_eq_ok_iff.mp h
      refine ⟨nofun, nofun, fun other same => ?_⟩
      rw [← Action.wait.inj same]
      exact ⟨input, given, waitOf_eq_ok_iff.mp read⟩
  | closePage | fullPage =>
      cases h
      exact ⟨nofun, nofun, nofun⟩
  | callModule =>
      obtain ⟨input, given, made⟩ := inputFor_bind_eq_ok_iff.mp h
      cases made
      refine ⟨nofun, fun other same => ?_, nofun⟩
      exact ⟨input, given, (Action.callModule.inj same).symm⟩
  | fill | selectOption | pressKey | uploadFile => exact withInput h
  | assertVisible | assertHidden | assertEnabled | assertDisabled | assertEmpty =>
      exact asserting h
  | _ => exact onElement h

/-- An action takes what it needs from its row cleaned. -/
theorem takesCleaned_of_declared (h : row.declared = .ok action) : row.TakesCleaned action := by
  rw [declared] at h
  split at h
  · exact takesCleaned_of_actionOf h
  · cases h

end StepRow

/-- A text is cleaned at each end on its own. Without blanks around it, it is cut into a quote in
front, where there is one, what is inside, and a quote behind, where there still is one, and the
inside is left without blanks around it. So a pair of quotes of one kind that encloses the text
is taken off; nothing but blanks is, exactly if there is a quote at neither end; and nothing but
blanks and such a pair is, exactly in these two cases. Whatever a row declares takes its texts
cleaned: both columns of a locator, the name of a module and the text of a wait. -/
theorem ends_cleaned_apart (raw : String) :
    (∃ front inner back, Chars.Cut (Chars.trim raw.toList) front inner back ∧
      (Text.clean raw).toList = Chars.trim inner) ∧
    (∀ quote inner, Chars.Encloses quote inner (Chars.trim raw.toList) →
      (Text.clean raw).toList = Chars.trim inner) ∧
    ((Text.clean raw).toList = Chars.trim raw.toList ↔ Chars.IsBare (Chars.trim raw.toList)) ∧
    ((Text.clean raw).toList = Chars.withoutPair (Chars.trim raw.toList) ↔
      (∃ quote inner, Chars.Encloses quote inner (Chars.trim raw.toList)) ∨
        Chars.IsBare (Chars.trim raw.toList)) ∧
    ∀ (row : StepRow) action, row.declared = .ok action → row.TakesCleaned action := by
  have shown : (Text.clean raw).toList = Chars.clean raw.toList := String.toList_ofList
  rw [shown]
  exact ⟨Chars.exists_clean_cut raw.toList, fun _ _ encloses => Chars.clean_of_encloses encloses,
    Chars.clean_eq_trim_iff, Chars.clean_eq_withoutPair_iff,
    fun _ _ declared => StepRow.takesCleaned_of_declared declared⟩

/-- A click on an element with a text, both columns of the locator in quotes. -/
def quotedClick : StepRow :=
  ⟨1, "in", "CLICKBUTTON", some "'getByText'", some " \" Log in\" ", none⟩

/-- The quotes around both columns are taken off. -/
theorem quoted_click_cleaned :
    Chars.Encloses '"' " Log in".toList (Chars.trim " \" Log in\" ".toList) ∧
    Text.clean " \" Log in\" " = "Log in" ∧
    quotedClick.declared = .ok (.element ⟨.text, "Log in"⟩ .click) ∧
    quotedClick.TakesCleaned (.element ⟨.text, "Log in"⟩ .click) := by
  obtain ⟨-, enclosed, -, -, actions⟩ := ends_cleaned_apart " \" Log in\" "
  have encloses : Chars.Encloses '"' " Log in".toList (Chars.trim " \" Log in\" ".toList) := by
    rw [Chars.Encloses]
    decide +kernel
  have declared : quotedClick.declared = .ok (.element ⟨.text, "Log in"⟩ .click) := by
    decide +kernel
  refine ⟨encloses, ?_, declared, actions _ _ declared⟩
  rw [← String.toList_inj, enclosed _ _ encloses]
  decide +kernel

/-- An apostrophe that belongs to a text is taken off, though there is none in front that it could
be the pair of; and so are two quotes of different kinds. -/
theorem lone_apostrophe_dropped :
    Chars.trim "Students'".toList = "Students'".toList ∧
    Chars.withoutPair (Chars.trim "Students'".toList) = "Students'".toList ∧
    Text.clean "Students'" = "Students" ∧
    Locator.ofColumns? "getByText" "Students'" = some ⟨.text, "Students"⟩ ∧
    Chars.withoutPair (Chars.trim "'Tis \"it\"".toList) = "'Tis \"it\"".toList ∧
    Text.clean "'Tis \"it\"" = "Tis \"it" := by
  decide +kernel

end StepSheet
