import StepSheet.Module.Table
import StepSheet.Proofs.Data.Reading
import Mathlib.Data.List.TakeWhile
import Mathlib.Data.Nat.Find

/-!
# Modules between markers

A module lies between two markers of its name: the end marker is the first one that has a start
marker above it, and the start marker is the last one above that end. There is at most one such
pair, and a search through the table finds it, whatever other rows stand around it or between.
The module is the rows strictly between the two, and its steps are those of these rows, each
under the label of the module.
-/

namespace StepSheet

namespace Chars

theorem trim_of_blank {cs : List Char} (h : cs.all isBlank) : trim cs = [] := by
  have nothing : trimLeft cs = [] := List.dropWhile_eq_nil_iff.mpr (List.all_eq_true.mp h)
  rw [trim, nothing]
  rfl

end Chars

/-- A row bears a mark that is not empty exactly if its marker, without blanks around it, is
that mark. -/
theorem ModuleRow.mark?_eq_some_iff {row : ModuleRow} {mark : String} (nonempty : mark ≠ "") :
    row.mark? = some mark ↔ row.marker.map Text.trim = some mark := by
  rw [ModuleRow.mark?]
  cases row.marker with
  | none => simp
  | some marker =>
      dsimp only
      split
      · next blank =>
        have trimmed : Text.trim marker = "" := by rw [Text.trim, Chars.trim_of_blank blank]
        simp [trimmed, nonempty.symm]
      · simp

namespace ModuleTable

theorem startMark_ne_empty (name : String) : startMark name ≠ "" := by
  intro same
  have chars := congrArg String.toList same
  simp [startMark] at chars

theorem endMark_ne_empty (name : String) : endMark name ≠ "" := by
  intro same
  have chars := congrArg String.toList same
  simp [endMark] at chars

theorem baseName_startMark (name : String) : baseName (startMark name) = name := by
  have stripped : Text.before? "_Start" (startMark name) = some name := by
    rw [Text.before?, startMark, String.toList_append, List.reverse_append, Chars.after?_append]
    simp
  rw [baseName, stripped]

theorem mem_firstSeen_iff {name : String} {names : List String} :
    name ∈ firstSeen names ↔ name ∈ names := by
  induction names with
  | nil => rfl
  | cons first names ih =>
      by_cases same : name = first <;> simp [firstSeen, ih, same]

variable {table : ModuleTable} {name : String}

/-- The row at a position bears a mark, with or without blanks around it. -/
def Marked (table : ModuleTable) (mark : String) (index : Nat) : Prop :=
  ∃ row, table.rows[index]? = some row ∧ row.marker.map Text.trim = some mark

structure IsBlock (table : ModuleTable) (name : String) (start stop : Nat) : Prop where
  opened : table.Marked (startMark name) start
  closed : table.Marked (endMark name) stop
  before : start < stop
  first : ∀ i j, table.Marked (startMark name) i → table.Marked (endMark name) j → i < j → stop ≤ j
  last : ∀ i, table.Marked (startMark name) i → i < stop → i ≤ start

/-- A module lies between one pair of rows only. -/
theorem IsBlock.unique {start stop start' stop' : Nat} (h : table.IsBlock name start stop)
    (h' : table.IsBlock name start' stop') : start = start' ∧ stop = stop' := by
  have stops : stop = stop' := Nat.le_antisymm
    (h.first start' stop' h'.opened h'.closed h'.before)
    (h'.first start stop h.opened h.closed h.before)
  subst stops
  exact ⟨Nat.le_antisymm (h'.last start h.opened h.before) (h.last start' h'.opened h'.before), rfl⟩

theorem Marked.mem_names {index : Nat} (h : table.Marked (startMark name) index) :
    name ∈ table.names := by
  obtain ⟨row, at_, marked⟩ := h
  have mark := (ModuleRow.mark?_eq_some_iff (startMark_ne_empty name)).mpr marked
  rw [names, mem_firstSeen_iff]
  refine List.mem_map.mpr ⟨startMark name, ?_, baseName_startMark name⟩
  exact List.mem_filterMap.mpr ⟨row, List.mem_of_getElem? at_, mark⟩

/-! ### The search -/

/-- What a search knows that has come to row `index`: the last start marker so far, and that no
end marker has followed one. -/
structure Scanned (table : ModuleTable) (name : String) (index : Nat) (start : Option Nat) :
    Prop where
  opened : ∀ s, start = some s → s < index ∧ table.Marked (startMark name) s
  last : ∀ i, table.Marked (startMark name) i → i < index → ∃ s, start = some s ∧ i ≤ s
  unclosed : ∀ i j, table.Marked (startMark name) i → table.Marked (endMark name) j → i < j →
    index ≤ j

/-- What a search finds: no start marker, or start markers with no end marker behind any of
them, or the module. -/
inductive Found (table : ModuleTable) (name : String) : Option Nat × Option Nat → Prop
  | absent (free : ∀ i, ¬ table.Marked (startMark name) i) : Found table name (none, none)
  | unclosed {start : Nat} (opened : table.Marked (startMark name) start)
      (open_ : ∀ i j, table.Marked (startMark name) i → table.Marked (endMark name) j → ¬ i < j) :
      Found table name (some start, none)
  | block {start stop : Nat} (block : table.IsBlock name start stop) :
      Found table name (some start, some stop)

theorem scanned_zero : table.Scanned name 0 none where
  opened := by simp
  last := by simp
  unclosed _ j _ _ _ := Nat.zero_le j

section Step

variable {index : Nat} {start : Option Nat} {row : ModuleRow}

theorem marked_iff_mark? {mark : String} (nonempty : mark ≠ "")
    (at_ : table.rows[index]? = some row) :
    table.Marked mark index ↔ row.mark? = some mark := by
  rw [ModuleRow.mark?_eq_some_iff nonempty, Marked, at_]
  simp

/-- A start marker becomes the last one so far. -/
theorem Scanned.next_of_start (h : table.Scanned name index start)
    (marked : table.Marked (startMark name) index)
    (unmarked : ¬ table.Marked (endMark name) index) :
    table.Scanned name (index + 1) (some index) where
  opened := by
    rintro s ⟨⟩
    exact ⟨Nat.lt_succ_self index, marked⟩
  last i _ below := ⟨index, rfl, Nat.le_of_lt_succ below⟩
  unclosed i j opens closes behind := by
    have later := h.unclosed i j opens closes behind
    have ne : index ≠ j := fun same => unmarked (same ▸ closes)
    omega

/-- A row that is no start marker, and no end marker behind one, is passed over. -/
theorem Scanned.succ_of_unmarked (h : table.Scanned name index start)
    (noStart : ¬ table.Marked (startMark name) index)
    (noEnd : ¬ (table.Marked (endMark name) index ∧ start.isSome)) :
    table.Scanned name (index + 1) start where
  opened s same := by
    obtain ⟨below, marked⟩ := h.opened s same
    exact ⟨Nat.lt_succ_of_lt below, marked⟩
  last i opens below := by
    have ne : i ≠ index := fun same => noStart (same ▸ opens)
    exact h.last i opens (by omega)
  unclosed i j opens closes behind := by
    have later := h.unclosed i j opens closes behind
    have ne : index ≠ j := by
      rintro rfl
      obtain ⟨s, same, -⟩ := h.last i opens behind
      exact noEnd ⟨closes, by simp [same]⟩
    omega

/-- The first end marker behind a start marker closes the module. -/
theorem Scanned.isBlock {start : Nat} (h : table.Scanned name index (some start))
    (closes : table.Marked (endMark name) index) : table.IsBlock name start index := by
  obtain ⟨below, opened⟩ := h.opened start rfl
  refine ⟨opened, closes, below, h.unclosed, ?_⟩
  intro i opens before
  obtain ⟨s, same, le⟩ := h.last i opens before
  cases same
  exact le

/-- At the end of the table all markers have been seen. -/
theorem Scanned.found_of_length (h : table.Scanned name table.rows.length start) :
    table.Found name (start, none) := by
  have inside : ∀ {mark i}, table.Marked mark i → i < table.rows.length := by
    rintro mark i ⟨row, at_, -⟩
    exact (List.getElem?_eq_some_iff.mp at_).1
  cases start with
  | none =>
      refine .absent fun i opens => ?_
      obtain ⟨s, same, -⟩ := h.last i opens (inside opens)
      cases same
  | some start =>
      refine .unclosed (h.opened start rfl).2 fun i j opens closes behind => ?_
      exact absurd (h.unclosed i j opens closes behind) (Nat.not_le.mpr (inside closes))

end Step

/-- No row bears both marks of a module. -/
theorem not_marked_end_of_start {index : Nat} (h : table.Marked (startMark name) index) :
    ¬ table.Marked (endMark name) index := by
  rintro ⟨row, at_, ended⟩
  obtain ⟨row', at', started⟩ := h
  cases at_.symm.trans at'
  have same : startMark name = endMark name := Option.some.inj (started.symm.trans ended)
  have chars := congrArg String.toList same
  simp [startMark, endMark] at chars

/-- A search goes on from what it knows to what there is to be found. -/
theorem scan_found {index : Nat} {start : Option Nat} (h : table.Scanned name index start)
    {rows : List ModuleRow} (rest : table.rows.drop index = rows)
    (inside : index ≤ table.rows.length) : table.Found name (scan name index start rows) := by
  induction rows generalizing index start with
  | nil =>
      have last : index = table.rows.length :=
        Nat.le_antisymm inside (List.drop_eq_nil_iff.mp rest)
      subst last
      exact h.found_of_length
  | cons row rows ih =>
      have at_ : table.rows[index]? = some row := by
        rw [← List.head?_drop, rest]
        rfl
      have below : index < table.rows.length := (List.getElem?_eq_some_iff.mp at_).1
      have after : table.rows.drop (index + 1) = rows := by
        rw [← List.tail_drop, rest]
        rfl
      have opens := marked_iff_mark? (startMark_ne_empty name) at_
      have closes := marked_iff_mark? (endMark_ne_empty name) at_
      rw [scan]
      split
      · next start =>
        have marked := opens.mpr start
        exact ih (h.next_of_start marked (not_marked_end_of_start marked)) after below
      next noStart =>
      split
      · next end_ =>
        obtain ⟨marked, begun⟩ := end_
        obtain ⟨s, rfl⟩ := Option.isSome_iff_exists.mp begun
        exact .block (h.isBlock (closes.mpr marked))
      · next noEnd =>
        refine ih (h.succ_of_unmarked (noStart ∘ opens.mp) ?_) after below
        rintro ⟨marked, begun⟩
        exact noEnd ⟨closes.mp marked, begun⟩

theorem found_scan (table : ModuleTable) (name : String) :
    table.Found name (scan name 0 none table.rows) :=
  scan_found scanned_zero List.drop_zero (Nat.zero_le _)

/-! ### The place of a module -/

/-- The first start marker of a module has no end marker behind it. -/
def IsUnclosed (table : ModuleTable) (name : String) : Prop :=
  ∃ start, table.Marked (startMark name) start ∧
    (∀ i, table.Marked (startMark name) i → start ≤ i) ∧
    ∀ j, table.Marked (endMark name) j → ¬ start < j

theorem IsUnclosed.not_isBlock {start stop : Nat} (h : table.IsUnclosed name) :
    ¬ table.IsBlock name start stop := by
  obtain ⟨first, -, least, open_⟩ := h
  intro block
  have le := least start block.opened
  have before := block.before
  exact open_ stop block.closed (by omega)

theorem isUnclosed_of_not_lt {start : Nat} (opened : table.Marked (startMark name) start)
    (h : ∀ i j, table.Marked (startMark name) i → table.Marked (endMark name) j → ¬ i < j) :
    table.IsUnclosed name := by
  classical
  have some_ : ∃ i, table.Marked (startMark name) i := ⟨start, opened⟩
  exact ⟨Nat.find some_, Nat.find_spec some_, fun _ marked => Nat.find_min' some_ marked,
    fun j closes => h _ j (Nat.find_spec some_) closes⟩

/-- What there is of a module decides where it is located. -/
inductive Located (table : ModuleTable) (name : String) : Except StepError (Nat × Nat) → Prop
  | absent (free : ∀ i, ¬ table.Marked (startMark name) i) :
      Located table name (.error (.moduleNotFound name table.names))
  | unclosed (open_ : table.IsUnclosed name) :
      Located table name (.error (.moduleUnterminated name))
  | empty {start : Nat} (block : table.IsBlock name start (start + 1)) :
      Located table name (.error (.moduleEmpty name))
  | block {start stop : Nat} (block : table.IsBlock name start stop) (rows : 2 ≤ stop - start) :
      Located table name (.ok (start + 1, stop))

theorem located_locate (table : ModuleTable) (name : String) :
    table.Located name (table.locate name) := by
  have found := table.found_scan name
  rw [locate]
  generalize scan name 0 none table.rows = ends at found ⊢
  cases found with
  | absent free => exact .absent free
  | unclosed opened open_ => exact .unclosed (isUnclosed_of_not_lt opened open_)
  | @block start stop block =>
      have before := block.before
      dsimp only
      rw [if_neg (by omega)]
      split
      · obtain rfl : stop = start + 1 := by omega
        exact .empty block
      · exact .block block (by omega)

theorem locate_eq_notFound_iff :
    table.locate name = .error (.moduleNotFound name table.names) ↔
      ∀ i, ¬ table.Marked (startMark name) i := by
  have outcome := table.located_locate name
  generalize table.locate name = result at outcome ⊢
  cases outcome with
  | absent free => simpa using free
  | unclosed open_ =>
      obtain ⟨start, opened, -⟩ := open_
      simpa using ⟨start, opened⟩
  | empty block => simpa using ⟨_, block.opened⟩
  | block block => simpa using ⟨_, block.opened⟩

theorem locate_eq_unterminated_iff :
    table.locate name = .error (.moduleUnterminated name) ↔ table.IsUnclosed name := by
  have outcome := table.located_locate name
  generalize table.locate name = result at outcome ⊢
  cases outcome with
  | absent free => simpa using fun open_ => free _ open_.choose_spec.1
  | unclosed open_ => simpa using open_
  | empty block => simpa using fun open_ => open_.not_isBlock block
  | block block => simpa using fun open_ => open_.not_isBlock block

/-- A module that has a block is located in it, unless nothing lies between its markers. -/
theorem locate_of_isBlock {start stop : Nat} (h : table.IsBlock name start stop) :
    table.locate name =
      if 2 ≤ stop - start then .ok (start + 1, stop) else .error (.moduleEmpty name) := by
  have outcome := table.located_locate name
  generalize table.locate name = result at outcome ⊢
  cases outcome with
  | absent free => exact absurd h.opened (free _)
  | unclosed open_ => exact absurd h open_.not_isBlock
  | empty block =>
      obtain ⟨rfl, rfl⟩ := block.unique h
      rw [if_neg (by omega)]
  | block block rows =>
      obtain ⟨rfl, rfl⟩ := block.unique h
      rw [if_pos rows]

theorem exists_isBlock_of_locate {first stop : Nat} (h : table.locate name = .ok (first, stop)) :
    ∃ start, table.IsBlock name start stop ∧ first = start + 1 ∧ first < stop := by
  have outcome := table.located_locate name
  rw [h] at outcome
  cases outcome with
  | block block rows => exact ⟨_, block, rfl, by omega⟩

/-! ### The steps of a module -/

/-- Steps are those of the rows from `first` up to `stop`, in order, each under the label of the
module and otherwise unchanged. -/
structure IsExpansion (table : ModuleTable) (name : String) (first stop : Nat)
    (steps : List StepRow) : Prop where
  length : steps.length = stop - first
  rows : ∀ k, first + k < stop → ∃ row step, table.rows[first + k]? = some row ∧
    row.step = some step ∧
    steps[k]? = some { step with description := "[Module: " ++ name ++ "] " ++ step.description }

theorem stepOf_eq_ok_iff {row : ModuleRow} {labelled : StepRow} :
    stepOf name row = .ok labelled ↔ ∃ step, row.step = some step ∧
      labelled = { step with description := "[Module: " ++ name ++ "] " ++ step.description } := by
  rw [stepOf]
  cases row.step with
  | none => simp
  | some step => simp [ModuleTable.labelled, eq_comm]

theorem mapM_stepOf_eq_ok_iff {first stop : Nat} {steps : List StepRow}
    (inside : stop ≤ table.rows.length) :
    ((table.rows.take stop).drop first).mapM (stepOf name) = .ok steps ↔
      table.IsExpansion name first stop steps := by
  have size : ((table.rows.take stop).drop first).length = stop - first := by
    rw [List.length_drop, List.length_take, Nat.min_eq_left inside]
  have row : ∀ k, first + k < stop →
      ((table.rows.take stop).drop first)[k]? = table.rows[first + k]? := by
    intro k below
    rw [List.getElem?_drop, List.getElem?_take_of_lt below]
  rw [mapM_eq_ok_iff, List.forall₂_iff_get]
  constructor
  · rintro ⟨same, each⟩
    rw [size] at same
    refine ⟨same.symm, fun k below => ?_⟩
    have read := each k (by omega) (by omega)
    obtain ⟨step, held, labelled⟩ := stepOf_eq_ok_iff.mp read
    refine ⟨_, step, ?_, held, ?_⟩
    · rw [← row k below, List.get_eq_getElem, List.getElem?_eq_getElem]
    · rw [← labelled, List.get_eq_getElem, List.getElem?_eq_getElem]
  · rintro ⟨same, each⟩
    refine ⟨by rw [size, same], fun k below _ => ?_⟩
    obtain ⟨source, step, at_, held, labelled⟩ := each k (by omega)
    rw [← row k (by omega), List.getElem?_eq_some_iff] at at_
    obtain ⟨_, at_⟩ := at_
    obtain ⟨_, labelled⟩ := List.getElem?_eq_some_iff.mp labelled
    rw [List.get_eq_getElem, List.get_eq_getElem, at_, labelled]
    exact stepOf_eq_ok_iff.mpr ⟨step, held, rfl⟩

theorem expand_eq_ok_iff {steps : List StepRow} :
    table.expand name = .ok steps ↔ ∃ first stop, table.locate name = .ok (first, stop) ∧
      table.IsExpansion name first stop steps := by
  rw [expand]
  cases located : table.locate name with
  | error error => simp [bind, Except.bind]
  | ok range =>
      obtain ⟨first, stop⟩ := range
      obtain ⟨start, block, -⟩ := exists_isBlock_of_locate located
      obtain ⟨row, at_, -⟩ := block.closed
      have inside : stop < table.rows.length := (List.getElem?_eq_some_iff.mp at_).1
      have read := @mapM_stepOf_eq_ok_iff table name first stop steps (Nat.le_of_lt inside)
      simpa [bind, Except.bind] using read

/-- A module that expands has a step. -/
theorem ne_nil_of_expand {steps : List StepRow} (h : table.expand name = .ok steps) :
    steps ≠ [] := by
  obtain ⟨first, stop, located, expansion⟩ := expand_eq_ok_iff.mp h
  obtain ⟨start, -, -, rows⟩ := exists_isBlock_of_locate located
  have length := expansion.length
  rintro rfl
  rw [List.length_nil] at length
  omega

/-- A module expands if it is located and every row of it carries a step. -/
theorem exists_expand_iff :
    (∃ steps, table.expand name = .ok steps) ↔ ∃ first stop,
      table.locate name = .ok (first, stop) ∧ ∀ i, first ≤ i → i < stop →
        ∃ row step, table.rows[i]? = some row ∧ row.step = some step := by
  simp only [expand_eq_ok_iff]
  constructor
  · rintro ⟨steps, first, stop, located, expansion⟩
    refine ⟨first, stop, located, fun i above below => ?_⟩
    obtain ⟨k, rfl⟩ := Nat.exists_eq_add_of_le above
    obtain ⟨row, step, at_, held, -⟩ := expansion.rows k below
    exact ⟨row, step, at_, held⟩
  · rintro ⟨first, stop, located, each⟩
    let stepAt (k : Nat) : StepRow := ((table.rows[first + k]?).bind ModuleRow.step).getD default
    refine ⟨(List.range (stop - first)).map fun k => { stepAt k with
      description := "[Module: " ++ name ++ "] " ++ (stepAt k).description }, first, stop, located,
      by simp, fun k below => ?_⟩
    obtain ⟨row, step, at_, held⟩ := each (first + k) (Nat.le_add_right _ _) below
    have same : stepAt k = step := by simp [stepAt, at_, held]
    refine ⟨row, step, at_, held, ?_⟩
    rw [List.getElem?_map, List.getElem?_range (by omega), Option.map_some, same]

/-- For every table and name, the module is not found exactly if no row bears its start marker;
it is unterminated exactly if there are such rows, but no end marker lies behind the first of
them. Otherwise it has one block, from the last start marker before the first end marker that
lies behind a start marker: it is the rows strictly between these two, or empty if there are
none. There is no other fault, so it is never malformed. A module with a start marker is among
the names of the table. It expands exactly if it is located and each of its rows carries a step,
and then to these steps in order, only their descriptions under the label of the module. -/
theorem module_is_last_open_block (table : ModuleTable) (name : String) :
    (table.locate name = .error (.moduleNotFound name table.names) ↔
      ∀ i, ¬ table.Marked (startMark name) i) ∧
    (table.locate name = .error (.moduleUnterminated name) ↔
      ∃ start, table.Marked (startMark name) start ∧
        (∀ i, table.Marked (startMark name) i → start ≤ i) ∧
        ∀ j, table.Marked (endMark name) j → ¬ start < j) ∧
    (∀ first stop, table.locate name = .ok (first, stop) ↔
      ∃ start, table.IsBlock name start stop ∧ first = start + 1 ∧ 2 ≤ stop - start) ∧
    (table.locate name = .error (.moduleEmpty name) ↔
      ∃ start, table.IsBlock name start (start + 1)) ∧
    (∀ error, table.locate name = .error error →
      error = .moduleNotFound name table.names ∨ error = .moduleUnterminated name ∨
        error = .moduleEmpty name) ∧
    (table.locate name ≠ .error (.moduleNotFound name table.names) → name ∈ table.names) ∧
    ((∃ steps, table.expand name = .ok steps) ↔ ∃ first stop,
      table.locate name = .ok (first, stop) ∧ ∀ i, first ≤ i → i < stop →
        ∃ row step, table.rows[i]? = some row ∧ row.step = some step) ∧
    ∀ steps, table.expand name = .ok steps → ∃ first stop,
      table.locate name = .ok (first, stop) ∧ table.IsExpansion name first stop steps := by
  refine ⟨locate_eq_notFound_iff, locate_eq_unterminated_iff, ?_, ?_, ?_, ?_, exists_expand_iff,
    fun steps => expand_eq_ok_iff.mp⟩
  · intro first stop
    constructor
    · intro located
      obtain ⟨start, block, rfl, rows⟩ := exists_isBlock_of_locate located
      exact ⟨start, block, rfl, by omega⟩
    · rintro ⟨start, block, rfl, rows⟩
      rw [locate_of_isBlock block, if_pos rows]
  · constructor
    · intro located
      have outcome := table.located_locate name
      rw [located] at outcome
      cases outcome with
      | empty block => exact ⟨_, block⟩
    · rintro ⟨start, block⟩
      rw [locate_of_isBlock block, if_neg (by omega)]
  · intro error located
    have outcome := table.located_locate name
    rw [located] at outcome
    cases outcome with
    | absent => exact .inl rfl
    | unclosed => exact .inr (.inl rfl)
    | empty => exact .inr (.inr rfl)
  · intro present
    rw [ne_eq, locate_eq_notFound_iff, not_forall] at present
    obtain ⟨i, marked⟩ := present
    exact (not_not.mp marked).mem_names

end ModuleTable

end StepSheet
