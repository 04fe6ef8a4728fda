import Mathlib.Data.List.Destutter
import StepSheet.Proofs.Text.Folded
import StepSheet.Proofs.WebDriver.Literals
import StepSheet.Proofs.WebDriver.Looks

/-!
# Options and their labels

An option is looked for by a predicate that compares its normalized text with a literal. Normalized
text has single spaces only, and none at its ends. A label is not normalized but trimmed: it loses
more than the white space of an expression at its ends, and keeps all that is inside.
-/

namespace StepSheet

namespace XPath

/-! ### Normalized text -/

/-- A space for any white space. -/
def spaced (c : Char) : Char := if isSpace c then ' ' else c

/-- Of two characters, one is not white space. -/
def Apart (c c' : Char) : Prop := ¬ (isSpace c ∧ isSpace c')

instance : DecidableRel Apart := fun _ _ => inferInstanceAs (Decidable (¬ (_ ∧ _)))

def collapse (cs : List Char) : List Char := (cs.map spaced).destutter Apart

def normalizeSpace (cs : List Char) : List Char := collapse (Chars.strip isSpace cs)

/-- Characters whose white space is single spaces. -/
structure IsPlain (cs : List Char) : Prop where
  spaces : ∀ c ∈ cs, isSpace c → c = ' '
  apart : cs.IsChain Apart

theorem isBlank_of_isSpace {c : Char} (h : isSpace c) : isBlank c := by
  have known : [' ', '\t', '\r', '\n'].all isBlank := by decide
  exact List.all_eq_true.mp known c (List.contains_iff_mem.mp h)

theorem isSpace_eq_false {c : Char} (h : isBlank c = false) : isSpace c = false := by
  cases space : isSpace c with
  | false => rfl
  | true => exact absurd (isBlank_of_isSpace space) (by simp [h])

theorem all_isBlank {cs : List Char} (h : cs.all isSpace) : cs.all isBlank :=
  List.all_eq_true.mpr fun c member => isBlank_of_isSpace (List.all_eq_true.mp h c member)

theorem isSpace_spaced (c : Char) : isSpace (spaced c) = isSpace c := by
  rw [spaced]
  split
  · next space => exact space.symm
  · rfl

theorem isPlain_collapse (cs : List Char) : IsPlain (collapse cs) := by
  refine ⟨fun c member space => ?_, List.isChain_destutter Apart _⟩
  obtain ⟨c', -, rfl⟩ := List.mem_map.mp ((List.destutter_sublist Apart _).mem member)
  rw [isSpace_spaced] at space
  exact if_pos space

theorem IsPlain.collapse_eq {cs : List Char} (h : IsPlain cs) : collapse cs = cs := by
  have same : ∀ c ∈ cs, spaced c = c := by
    intro c member
    rw [spaced]
    split
    · next space => exact (h.spaces c member space).symm
    · rfl
  rw [collapse, List.map_congr_left same, List.map_id', List.destutter_of_isChain Apart cs h.apart]

/-- Only white space is left out of a run. -/
theorem filter_destutter' (c : Char) (cs : List Char) :
    (cs.destutter' Apart c).filter (!isSpace ·) = (c :: cs).filter (!isSpace ·) := by
  induction cs generalizing c with
  | nil => rfl
  | cons c' cs ih =>
      by_cases apart : Apart c c'
      · rw [List.destutter'_cons_pos _ apart, List.filter_cons, ih, List.filter_cons (x := c)]
      · have space : isSpace c' := (not_not.mp apart).2
        rw [List.destutter'_cons_neg _ apart, ih]
        simp [List.filter_cons, space]

theorem filter_collapse (cs : List Char) :
    (collapse cs).filter (!isSpace ·) = cs.filter (!isSpace ·) := by
  have kept : (cs.map spaced).filter (!isSpace ·) = cs.filter (!isSpace ·) := by
    induction cs with
    | nil => rfl
    | cons c cs ih =>
        cases space : isSpace c with
        | false => simp [spaced, space, ih]
        | true => simp [isSpace_spaced, space, ih]
  rw [← kept, collapse]
  cases cs.map spaced with
  | nil => rfl
  | cons c cs => exact filter_destutter' c cs

theorem filter_of_all_isSpace {cs : List Char} (h : cs.all isSpace) :
    cs.filter (!isSpace ·) = [] := by
  simpa using h

/-- Normalizing keeps all that is not white space. -/
theorem filter_normalizeSpace (cs : List Char) :
    (normalizeSpace cs).filter (!isSpace ·) = cs.filter (!isSpace ·) := by
  obtain ⟨before, after, whole, space, space'⟩ := Chars.exists_around_strip isSpace cs
  rw [normalizeSpace, filter_collapse]
  conv_rhs => rw [whole]
  simp [filter_of_all_isSpace space, filter_of_all_isSpace space']

/-- White space around plain text that is trimmed goes when it is normalized. -/
theorem normalizeSpace_append {before inner after : List Char} (trimmed : Chars.IsTrimmed inner)
    (plain : IsPlain inner) (space : before.all isSpace) (space' : after.all isSpace) :
    normalizeSpace (before ++ inner ++ after) = inner := by
  have bare : Chars.strip isSpace inner = inner :=
    Chars.strip_eq_self (fun c member => isSpace_eq_false (trimmed.first c member))
      fun c member => isSpace_eq_false (trimmed.last c member)
  rw [normalizeSpace, Chars.strip_append space space', bare, plain.collapse_eq]

/-- The labels that are normalized by trimming have white space at the ends for blanks, and
single spaces inside. -/
theorem normalizeSpace_eq_trim_iff {cs : List Char} :
    normalizeSpace cs = Chars.trim cs ↔
      ∃ before inner after, cs = before ++ inner ++ after ∧ before.all isSpace ∧
        after.all isSpace ∧ Chars.IsTrimmed inner ∧ IsPlain inner := by
  constructor
  · intro same
    obtain ⟨before, after, whole, -, -⟩ := Chars.exists_around_trim cs
    -- what trimming drops must be white space, since normalizing keeps everything else
    have kept := filter_normalizeSpace cs
    have plain : IsPlain (Chars.trim cs) := same ▸ isPlain_collapse _
    have dropped : before.filter (!isSpace ·) = [] ∧ after.filter (!isSpace ·) = [] := by
      rw [same] at kept
      have lengths := congrArg List.length kept
      conv_rhs at lengths => rw [whole]
      simp only [List.filter_append, List.length_append] at lengths
      constructor <;> apply List.eq_nil_of_length_eq_zero <;> omega
    refine ⟨before, Chars.trim cs, after, whole, ?_, ?_, Chars.isTrimmed_trim cs, plain⟩
    · simpa using dropped.1
    · simpa using dropped.2
  · rintro ⟨before, inner, after, rfl, space, space', trimmed, plain⟩
    rw [normalizeSpace_append trimmed plain space space',
      Chars.trim_append (all_isBlank space) (all_isBlank space'), trimmed.trim_eq]

end XPath

/-! ### The option of a label -/

namespace WebDriver.Session

def choosing (session : Session) (element label : String) : Request :=
  ⟨.post, session.url ++ "/" ++ ("element/" ++ element ++ "/" ++ "element"),
    queryBody (.option label)⟩

variable {τ : Type} (W : Wire τ) (session : Session)

theorem click_sends (element : String) (outside : τ) :
    ∃ sent, W.Sends outside sent ((session.click W element).result outside).2 := by
  rw [click, Talk.result_bind, elementCommand, command_result]
  cases Exchange.value _ <;> exact ⟨_, .of_exchange W _ outside⟩

/-- Choosing an option asks for it first. -/
theorem selectOption_sends (element label : String) (outside : τ) :
    ∃ sent, W.Sends outside (W.exchanged (session.choosing element label) outside :: sent)
      ((session.selectOption W element label).result outside).2 := by
  rw [selectOption, Talk.result_bind, elementCommand, command_result, ← choosing]
  cases (W.exchanged (session.choosing element label) outside).value with
  | error error => exact ⟨[], .of_exchange W _ outside⟩
  | ok value =>
      dsimp only
      rw [Talk.result_bind, elementIn, expect_result]
      cases textIn? elementKey value with
      | none => exact ⟨[], .of_exchange W _ outside⟩
      | some option =>
          obtain ⟨sent, sends⟩ := session.click_sends W option
            (W.exchange (session.choosing element label) outside).2
          exact ⟨sent, .next _ sends⟩

end WebDriver.Session

namespace Query

open XPath WebDriver

/-- The tokens of a query for an option in front of the literal. -/
def opening : List Token :=
  [.symbol ['.'], .symbol ['/', '/'], .name "option".toList, .symbol ['['],
    .name "normalize-space".toList, .symbol ['('], .symbol ['.'], .symbol [')'], .symbol ['=']]

/-- A query for the options whose normalized text is a value. -/
def ComparesWith (query : Query) (value : List Char) : Prop :=
  query.method = "xpath" ∧
    ∃ literal, lex query.value.toList = some (opening ++ literal ++ [.symbol [']']]) ∧
      value? literal = some value

/-- A query whose predicate holds for an option with a text. -/
def Selects (query : Query) (text : String) : Prop :=
  query.ComparesWith (normalizeSpace text.toList)

/-- A label is compared with as it is trimmed. -/
theorem comparesWith_option_iff {label : String} {value : List Char} :
    (option label).ComparesWith value ↔ value = Chars.trim label.toList := by
  obtain ⟨literal, reads, writes⟩ := exists_writes (Text.trim label).toList
  have opened : Reads ".//option[normalize-space(.)=".toList opening := by decide +kernel
  have closed : Reads "]".toList [.symbol [']']] := by decide +kernel
  have joined : (option label).value.toList = ".//option[normalize-space(.)=".toList ++
      XPath.literal (Text.trim label).toList ++ "]".toList := by
    simp [option, xpath, XPath.text, Part.text]
  have read : lex (option label).value.toList = some (opening ++ literal ++ [.symbol [']']]) :=
    joined ▸ ((opened.append reads).append closed).lex
  have text : (Text.trim label).toList = Chars.trim label.toList := String.toList_ofList
  rw [text] at writes
  constructor
  · rintro ⟨-, literal', read', compared⟩
    rw [read, Option.some_inj, List.append_cancel_right_eq, List.append_cancel_left_eq] at read'
    rw [← read', writes.value?] at compared
    exact (Option.some.inj compared).symm
  · rintro rfl
    exact ⟨rfl, literal, read, writes.value?⟩

theorem selects_option_iff {label text : String} :
    (option label).Selects text ↔ normalizeSpace text.toList = Chars.trim label.toList :=
  comparesWith_option_iff

theorem exists_selected_iff {label : String} :
    (∃ text, (option label).Selects text) ↔ IsPlain (Chars.trim label.toList) := by
  constructor
  · rintro ⟨text, selected⟩
    exact selects_option_iff.mp selected ▸ isPlain_collapse _
  · intro plain
    refine ⟨Text.trim label, selects_option_iff.mpr ?_⟩
    have same := normalizeSpace_append (Chars.isTrimmed_trim label.toList) plain
      (List.all_nil (f := isSpace)) (List.all_nil (f := isSpace))
    rw [List.nil_append, List.append_nil] at same
    rw [Text.trim, String.toList_ofList, same]

theorem exists_selecting_iff {text : String} :
    (∃ label, (option label).Selects text) ↔ Chars.IsTrimmed (normalizeSpace text.toList) := by
  constructor
  · rintro ⟨label, selected⟩
    exact selects_option_iff.mp selected ▸ Chars.isTrimmed_trim _
  · intro trimmed
    refine ⟨String.ofList (normalizeSpace text.toList), selects_option_iff.mpr ?_⟩
    rw [String.toList_ofList, trimmed.trim_eq]

/-- Choosing an option asks for the options whose normalized text is the trimmed label. The label
is normalized by that, so that an option with this text is found, if the blanks at its ends are
white space and single spaces are all there is inside. If there is other white space inside then
no option is found at all, and if the text of an option has a blank at an end when it is
normalized then no label finds it. -/
theorem option_found_by_trimmed_label (label : String) :
    (∀ {τ : Type} (W : Wire τ) (session : Session) (element : String) (outside : τ),
      ∃ sent, W.Sends outside (W.exchanged (session.choosing element label) outside :: sent)
        ((session.selectOption W element label).result outside).2) ∧
    (∀ value, (option label).ComparesWith value ↔ value = Chars.trim label.toList) ∧
    ((option label).Selects label ↔
      ∃ before inner after, label.toList = before ++ inner ++ after ∧ before.all isSpace ∧
        after.all isSpace ∧ Chars.IsTrimmed inner ∧ IsPlain inner) ∧
    ((∃ text, (option label).Selects text) ↔ IsPlain (Chars.trim label.toList)) ∧
    ((∃ other, (option other).Selects label) ↔
      Chars.IsTrimmed (normalizeSpace label.toList)) :=
  ⟨fun W session element => session.selectOption_sends W element label,
    fun _ => comparesWith_option_iff, selects_option_iff.trans normalizeSpace_eq_trim_iff,
    exists_selected_iff, exists_selecting_iff⟩

/-- Two spaces inside of a label are one space in the text of its option, which is not found. No
other option is. -/
theorem two_spaces_not_found :
    normalizeSpace "a  b".toList = "a b".toList ∧
      ¬ (option "a  b").ComparesWith (normalizeSpace "a  b".toList) ∧
        ∀ text, ¬ (option "a  b").Selects text := by
  have trimmed : Chars.trim "a  b".toList = "a  b".toList := by decide +kernel
  refine ⟨by decide +kernel, ?_, fun text selected => ?_⟩
  · rw [comparesWith_option_iff, trimmed]
    decide +kernel
  · have plain := exists_selected_iff.mp ⟨text, selected⟩
    rw [trimmed] at plain
    have apart := plain.apart
    revert apart
    decide +kernel

end Query

end StepSheet
