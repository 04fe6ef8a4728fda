import StepSheet.Proofs.Step.Keyword

/-!
# What is wrong with a row

The faults of a row can be listed without reading its action: an unknown keyword, or else what its
kind of action misses, first in the input and then in the locator. A row declares an action
exactly if there is none, and otherwise the first of them is reported. Columns that the kind does
not use have no part in it.
-/

namespace StepSheet

namespace ActionKind

def needsInput : ActionKind → Bool
  | openUrl | wait | callModule | fill | selectOption | pressKey | uploadFile => true
  | _ => false

/-- Whether an action of the kind looks at the input, needed or not. -/
def usesInput : ActionKind → Bool
  | fullPage => true
  | kind => kind.needsInput

/-- Whether an action of the kind has an element, to operate on or to assert something of. -/
def hasElement : ActionKind → Bool
  | openUrl | wait | closePage | fullPage | callModule => false
  | _ => true

theorem ofKeyword?_keyword (kind : ActionKind) : ofKeyword? kind.keyword = some kind := by
  cases kind <;> decide +kernel

theorem ofKeyword?_eq_some_iff {word : String} {kind : ActionKind} :
    ofKeyword? word = some kind ↔ kind.keyword = word := by
  constructor
  · exact keyword_of_ofKeyword?
  · rintro rfl
    exact ofKeyword?_keyword kind

end ActionKind

namespace Strategy

/-- The words that name a strategy. -/
def words : List String := "getByBlaceholder" :: all.map keyword

theorem isSome_ofKeyword?_iff {word : String} : (ofKeyword? word).isSome ↔ word ∈ words := by
  rw [ofKeyword?, words, List.mem_cons]
  split
  · next misspelt => simp [misspelt]
  · next other =>
    rw [List.find?_isSome, List.mem_map]
    simp [other]

end Strategy

/-- A result that goes with a list of faults: there is none, or the first is the one reported. -/
inductive Reports {α : Type} : Except StepError α → List StepError → Prop
  | ok (value : α) : Reports (.ok value) []
  | error (first : StepError) (more : List StepError) : Reports (.error first) (first :: more)

namespace Reports

variable {α β : Type} {result : Except StepError α} {faults more : List StepError}

/-- What follows adds its faults behind those that are there. -/
theorem bind {next : α → Except StepError β} (h : Reports result faults)
    (h' : ∀ value, result = .ok value → Reports (next value) more) :
    Reports (result >>= next) (faults ++ more) := by
  cases h with
  | ok value => exact h' value rfl
  | error first others => exact .error first (others ++ more)

theorem map (h : Reports result faults) (change : α → β) :
    Reports (result >>= fun value => .ok (change value)) faults := by
  simpa using h.bind fun value _ => ok (change value)

theorem eq_error_iff (h : Reports result faults) {error : StepError} :
    result = .error error ↔ faults.head? = some error := by
  cases h <;> simp

theorem exists_eq_ok_iff (h : Reports result faults) :
    (∃ value, result = .ok value) ↔ faults = [] := by
  cases h <;> simp

end Reports

namespace StepRow

variable {row other : StepRow} {kind : ActionKind}

/-! ### The faults of a row -/

def inputFaults (row : StepRow) (kind : ActionKind) : List StepError :=
  if row.input = none then [.missingField .input kind] else []

def waitFaults (row : StepRow) : List StepError :=
  match row.input with
  | some raw =>
    if (Chars.millis? (Chars.clean raw.toList)).isSome then [] else [.invalidWait raw]
  | none => []

/-- What is wrong with the columns of the locator. The strategy is told as it stands in the
sheet. -/
def locatorFaults (row : StepRow) (kind : ActionKind) : List StepError :=
  (if row.locatorType = none then [.missingField .locatorType kind] else []) ++
  (if row.locator = none then [.missingField .locator kind] else []) ++
  match row.locatorType with
  | some type => if Text.clean type ∈ Strategy.words then [] else [.unsupportedStrategy type]
  | none => []

def faultsOf (row : StepRow) (kind : ActionKind) : List StepError :=
  (if kind.needsInput then row.inputFaults kind else []) ++
  ((if kind = .wait then row.waitFaults else []) ++
  (if kind.hasElement then row.locatorFaults kind else []))

def faults (row : StepRow) : List StepError :=
  match ActionKind.ofKeyword? row.action with
  | some kind => row.faultsOf kind
  | none => [.unsupportedAction row.action]

theorem inputFor_reports (row : StepRow) (kind : ActionKind) :
    Reports (row.inputFor kind) (row.inputFaults kind) := by
  rw [inputFor, inputFaults]
  cases row.input with
  | none => exact .error _ []
  | some input => exact .ok input

-- The equation of `waitOf` is slow to derive, because it looks into the reader of numbers.
theorem waitOf_of_some {raw : String} {millis : Nat}
    (read : Chars.millis? (Chars.clean raw.toList) = some millis) : waitOf raw = .ok millis := by
  delta waitOf
  rw [read]

theorem waitOf_of_none {raw : String} (read : Chars.millis? (Chars.clean raw.toList) = none) :
    waitOf raw = .error (.invalidWait raw) := by
  delta waitOf
  rw [read]

theorem waitOf_reports {raw : String} (given : row.inputFor kind = .ok raw) :
    Reports (waitOf raw) row.waitFaults := by
  rw [inputFor] at given
  split at given
  · next present =>
    cases given
    rw [waitFaults, present]
    cases read : Chars.millis? (Chars.clean raw.toList) with
    | none => simpa [waitOf_of_none read, read] using Reports.error _ []
    | some millis => simpa [waitOf_of_some read, read] using Reports.ok millis
  · cases given

theorem locatorFor_reports (row : StepRow) (kind : ActionKind) :
    Reports (row.locatorFor kind) (row.locatorFaults kind) := by
  rw [locatorFor, locatorFaults]
  cases row.locatorType with
  | none => exact .error _ _
  | some type =>
      cases row.locator with
      | none => exact .error _ _
      | some path =>
          have named := @Strategy.isSome_ofKeyword?_iff (Text.clean type)
          simp only [Locator.ofColumns?]
          cases known : Strategy.ofKeyword? (Text.clean type) with
          | none =>
              have unnamed : Text.clean type ∉ Strategy.words := by simpa [known] using named
              simpa [unnamed] using Reports.error _ _
          | some strategy =>
              have member : Text.clean type ∈ Strategy.words := by simpa [known] using named
              simpa [member] using Reports.ok _

theorem onElement_reports (row : StepRow) (kind : ActionKind) (op : ElementOp) :
    Reports (row.onElement kind op) (row.locatorFaults kind) :=
  (row.locatorFor_reports kind).map fun locator => Action.element locator op

theorem withInput_reports (row : StepRow) (kind : ActionKind) (op : String → ElementOp) :
    Reports (row.withInput kind op) (row.inputFaults kind ++ row.locatorFaults kind) :=
  (row.inputFor_reports kind).bind fun input _ => row.onElement_reports kind (op input)

theorem asserting_reports (row : StepRow) (kind : ActionKind) (assertion : Assertion) :
    Reports (row.asserting kind assertion) (row.locatorFaults kind) :=
  (row.locatorFor_reports kind).map fun locator => Action.assert locator assertion

theorem actionOf_reports (row : StepRow) (kind : ActionKind) :
    Reports (row.actionOf kind) (row.faultsOf kind) := by
  have input := row.inputFor_reports kind
  cases kind with
  | openUrl | callModule => exact input.bind fun _ _ => Reports.ok _
  | wait =>
      exact input.bind fun raw given => (waitOf_reports given).bind fun _ _ => Reports.ok _
  | closePage | fullPage => exact .ok _
  | fill | selectOption | pressKey | uploadFile => exact row.withInput_reports _ _
  | assertVisible | assertHidden | assertEnabled | assertDisabled | assertEmpty =>
      exact row.asserting_reports _ _
  | _ => exact row.onElement_reports _ _

theorem declared_reports (row : StepRow) : Reports row.declared row.faults := by
  rw [declared, faults]
  cases ActionKind.ofKeyword? row.action with
  | some kind => exact row.actionOf_reports kind
  | none => exact .error _ []

/-! ### Rows without a fault -/

/-- A row has all that its kind of action needs. -/
structure IsComplete (row : StepRow) (kind : ActionKind) : Prop where
  keyword : kind.keyword = row.action
  input : kind.needsInput → ∃ input, row.input = some input
  wait : kind = .wait → ∀ input, row.input = some input → ∃ millis, waitOf input = .ok millis
  locator : kind.hasElement → ∃ type path, row.locatorType = some type ∧
    row.locator = some path ∧ Text.clean type ∈ Strategy.words

theorem inputFaults_eq_nil_iff :
    row.inputFaults kind = [] ↔ ∃ input, row.input = some input := by
  rw [inputFaults]
  cases row.input <;> simp

theorem waitFaults_eq_nil_iff :
    row.waitFaults = [] ↔
      ∀ input, row.input = some input → ∃ millis, waitOf input = .ok millis := by
  rw [waitFaults]
  cases row.input with
  | none => simp
  | some raw =>
      cases read : Chars.millis? (Chars.clean raw.toList) with
      | none => simp [waitOf_of_none read, read]
      | some millis => simp [waitOf_of_some read, read]

theorem locatorFaults_eq_nil_iff :
    row.locatorFaults kind = [] ↔ ∃ type path, row.locatorType = some type ∧
      row.locator = some path ∧ Text.clean type ∈ Strategy.words := by
  rw [locatorFaults]
  cases row.locatorType <;> cases row.locator <;> simp

theorem faultsOf_eq_nil_iff (known : kind.keyword = row.action) :
    row.faultsOf kind = [] ↔ row.IsComplete kind := by
  simp only [faultsOf, List.append_eq_nil_iff, ite_eq_right_iff, inputFaults_eq_nil_iff,
    waitFaults_eq_nil_iff, locatorFaults_eq_nil_iff]
  exact ⟨fun ⟨input, wait, locator⟩ => ⟨known, input, wait, locator⟩,
    fun complete => ⟨complete.input, complete.wait, complete.locator⟩⟩

theorem faults_eq_nil_iff : row.faults = [] ↔ ∃ kind, row.IsComplete kind := by
  rw [faults]
  cases known : ActionKind.ofKeyword? row.action with
  | none =>
      have unknown : ∀ kind, ¬ row.IsComplete kind := by
        intro kind complete
        rw [ActionKind.ofKeyword?_eq_some_iff.mpr complete.keyword] at known
        cases known
      simpa using unknown
  | some kind =>
      have keyword := ActionKind.ofKeyword?_eq_some_iff.mp known
      simp only [faultsOf_eq_nil_iff keyword]
      refine ⟨fun complete => ⟨kind, complete⟩, fun ⟨other, complete⟩ => ?_⟩
      have same : ActionKind.ofKeyword? row.action = some other :=
        ActionKind.ofKeyword?_eq_some_iff.mpr complete.keyword
      cases known.symm.trans same
      exact complete

/-! ### Columns without effect -/

/-- Two rows agree in the columns that a kind of action looks at. -/
structure AgreesFor (row other : StepRow) (kind : ActionKind) : Prop where
  input : kind.usesInput → other.input = row.input
  locatorType : kind.hasElement → other.locatorType = row.locatorType
  locator : kind.hasElement → other.locator = row.locator

theorem inputFor_congr (same : other.input = row.input) :
    other.inputFor kind = row.inputFor kind := by
  rw [inputFor, inputFor, same]

theorem onElement_congr (same : other.locatorType = row.locatorType)
    (same' : other.locator = row.locator) (op : ElementOp) :
    other.onElement kind op = row.onElement kind op := by
  rw [onElement, onElement, locatorFor, locatorFor, same, same']

theorem asserting_congr (same : other.locatorType = row.locatorType)
    (same' : other.locator = row.locator) (assertion : Assertion) :
    other.asserting kind assertion = row.asserting kind assertion := by
  rw [asserting, asserting, locatorFor, locatorFor, same, same']

theorem withInput_congr (same : other.input = row.input)
    (same' : other.locatorType = row.locatorType) (same'' : other.locator = row.locator)
    (op : String → ElementOp) : other.withInput kind op = row.withInput kind op := by
  rw [withInput, withInput, inputFor_congr same]
  exact bind_congr fun input => onElement_congr same' same'' (op input)

theorem actionOf_congr (agree : row.AgreesFor other kind) :
    other.actionOf kind = row.actionOf kind := by
  obtain ⟨input, type, path⟩ := agree
  cases kind with
  | openUrl | wait | callModule => simp only [actionOf, inputFor_congr (input rfl)]
  | closePage => rfl
  | fullPage => simp only [actionOf, optionalInput, input rfl]
  | fill | selectOption | pressKey | uploadFile =>
      exact withInput_congr (input rfl) (type rfl) (path rfl) _
  | assertVisible | assertHidden | assertEnabled | assertDisabled | assertEmpty =>
      exact asserting_congr (type rfl) (path rfl) _
  | _ => exact onElement_congr (type rfl) (path rfl) _

/-- A row declares an action exactly if its keyword is that of a kind, the input is there if the
kind needs one and tells a time if it is that of a wait, and the columns of the locator are there
and name a strategy if the kind has an element. Otherwise the first of its faults is reported:
an unknown keyword, no input, an input that is no time, no strategy, no path, an unknown
strategy. Rows with the same keyword that agree in the columns that the kind looks at declare
the same. -/
theorem declared_iff_complete (row : StepRow) :
    ((∃ action, row.declared = .ok action) ↔ ∃ kind, row.IsComplete kind) ∧
    (∀ error, row.declared = .error error ↔ row.faults.head? = some error) ∧
    ∀ other : StepRow, other.action = row.action →
      (∀ kind, kind.keyword = row.action → row.AgreesFor other kind) →
      other.declared = row.declared := by
  have reports := row.declared_reports
  refine ⟨reports.exists_eq_ok_iff.trans faults_eq_nil_iff, fun _ => reports.eq_error_iff, ?_⟩
  intro other same agree
  rw [declared, declared, same]
  cases known : ActionKind.ofKeyword? row.action with
  | none => rfl
  | some kind => exact actionOf_congr (agree kind (ActionKind.ofKeyword?_eq_some_iff.mp known))

-- A row with two faults: the one of the input is first.
example : (StepRow.mk 3 "fill" "FILL" (some "nonsense") (some "x") none).faults =
    [.missingField .input .fill, .unsupportedStrategy "nonsense"] := by
  decide +kernel

end StepRow

end StepSheet
