import StepSheet.Proofs.Module.Markers
import StepSheet.Proofs.Module.Memory
import StepSheet.Proofs.Step.Fault

/-!
# Modules among other rows

A module is what lies between its own markers. Rows above the table leave it as it is if none of
them opens a module of the same name, and rows below leave it as it is whatever they hold, even
a module of the same name: its block has been closed before them. So a larger table expands
every module of a smaller one in the same way, and a check of references that finds all its
modules in the smaller table ends in the same way as well.
-/

namespace StepSheet

/-- The table has no start marker of a module, or no end marker behind one. -/
def StepError.IsAbsence : StepError → Prop
  | .moduleNotFound _ _ => True
  | .moduleUnterminated _ => True
  | _ => False

theorem StepError.IsAbsence.isModuleFault {error : StepError} (h : error.IsAbsence) :
    error.IsModuleFault := by
  cases error <;> first | exact trivial | exact h

/-- A result that, where it fails, does not fail for the absence of a module. -/
def MissesNoModule {α : Type} (result : Except StepError α) : Prop :=
  ∀ error, result = .error error → ¬ error.IsAbsence

theorem MissesNoModule.bind {α β : Type} {result : Except StepError α}
    {next : α → Except StepError β} (h : MissesNoModule result)
    (h' : ∀ value, MissesNoModule (next value)) : MissesNoModule (result >>= next) := by
  cases result with
  | ok value => exact h' value
  | error fault =>
      intro error same
      cases same
      exact h fault rfl

/-- The second of two results is the first one, unless that fails for the absence of a module. -/
def Follows {α : Type} (first second : Except StepError α) : Prop :=
  MissesNoModule first → second = first

namespace Follows

variable {α β : Type} {first second : Except StepError α}

theorem refl (first : Except StepError α) : Follows first first := fun _ => rfl

theorem bind {next next' : α → Except StepError β} (h : Follows first second)
    (h' : ∀ value, Follows (next value) (next' value)) :
    Follows (first.bind next) (second.bind next') := by
  intro present
  cases first with
  | error error =>
      rw [h fun fault same => present fault (by rw [same]; rfl)]
      rfl
  | ok value =>
      rw [h (by simp [MissesNoModule])]
      exact h' value present

theorem map (change : α → β) (h : Follows first second) :
    Follows (first.map change) (second.map change) := by
  intro present
  rw [h]
  rintro error rfl
  exact present error rfl

end Follows

namespace ModuleTable

open Relation

variable {table larger : ModuleTable} {name mark : String} {above below : List ModuleRow}

def between (above below : List ModuleRow) (table : ModuleTable) : ModuleTable :=
  ⟨above ++ table.rows ++ below⟩

/-! ### A block among other rows -/

theorem Marked.lt_length {index : Nat} (h : table.Marked mark index) :
    index < table.rows.length := by
  obtain ⟨row, at_, -⟩ := h
  exact (List.getElem?_eq_some_iff.mp at_).1

theorem rows_between {index : Nat} (inside : index < table.rows.length) :
    (table.between above below).rows[above.length + index]? = table.rows[index]? := by
  rw [between, List.append_assoc, List.getElem?_append_right (Nat.le_add_right _ _),
    Nat.add_sub_cancel_left, List.getElem?_append_left inside]

theorem Marked.between {index : Nat} (h : table.Marked mark index) :
    (table.between above below).Marked mark (above.length + index) := by
  have inside := h.lt_length
  rwa [Marked, rows_between inside]

/-- A mark among more rows is one of the rows above, of the table, or of the rows below. -/
theorem Marked.of_between {index : Nat} (h : (table.between above below).Marked mark index) :
    (index < above.length ∧ ∃ row ∈ above, row.marker.map Text.trim = some mark) ∨
      (∃ i, index = above.length + i ∧ table.Marked mark i) ∨
      above.length + table.rows.length ≤ index := by
  rcases Nat.lt_or_ge index above.length with early | late
  · obtain ⟨row, at_, marked⟩ := h
    rw [ModuleTable.between, List.append_assoc, List.getElem?_append_left early] at at_
    exact .inl ⟨early, row, List.mem_of_getElem? at_, marked⟩
  · obtain ⟨i, rfl⟩ := Nat.exists_eq_add_of_le late
    rcases Nat.lt_or_ge i table.rows.length with inside | behind
    · rw [Marked, rows_between inside] at h
      exact .inr (.inl ⟨i, rfl, h⟩)
    · exact .inr (.inr (Nat.add_le_add_left behind _))

/-- A block stays the block of its module where no row above opens the module. -/
theorem IsBlock.between {start stop : Nat} (h : table.IsBlock name start stop)
    (free : ∀ row ∈ above, row.marker.map Text.trim ≠ some (startMark name)) :
    (table.between above below).IsBlock name (above.length + start) (above.length + stop) := by
  have inside := h.closed.lt_length
  refine ⟨h.opened.between, h.closed.between, Nat.add_lt_add_left h.before _, ?_, ?_⟩
  · intro i j opens closes behind
    rcases opens.of_between with ⟨-, row, member, opened⟩ | ⟨i, rfl, opened⟩ | later
    · exact absurd opened (free row member)
    · rcases closes.of_between with ⟨early, -⟩ | ⟨j, rfl, closed⟩ | later
      · omega
      · have first := h.first i j opened closed (by omega)
        omega
      · omega
    · omega
  · intro i opens before
    rcases opens.of_between with ⟨-, row, member, opened⟩ | ⟨i, rfl, opened⟩ | later
    · exact absurd opened (free row member)
    · have last := h.last i opened (by omega)
      omega
    · omega

/-- A module that is there has a block. -/
theorem exists_isBlock_of_present
    (present : MissesNoModule (table.locate name)) :
    ∃ start stop, table.IsBlock name start stop := by
  have outcome := table.located_locate name
  generalize table.locate name = result at outcome present
  cases outcome with
  | absent => exact absurd trivial (present _ rfl)
  | unclosed => exact absurd trivial (present _ rfl)
  | empty block => exact ⟨_, _, block⟩
  | block block => exact ⟨_, _, block⟩

def shifted (rows : Nat) (range : Nat × Nat) : Nat × Nat := (rows + range.1, rows + range.2)

/-- A module that is there is located among more rows where it was, behind the rows above. -/
theorem locate_between
    (free : ∀ row ∈ above, row.marker.map Text.trim ≠ some (startMark name))
    (present : MissesNoModule (table.locate name)) :
    (table.between above below).locate name = (table.locate name).map (shifted above.length) := by
  obtain ⟨start, stop, block⟩ := exists_isBlock_of_present present
  rw [locate_of_isBlock block, locate_of_isBlock (block.between free), Nat.add_sub_add_left]
  split
  · rw [Except.map, shifted, Nat.add_assoc]
  · rfl

theorem rows_of_range {first stop : Nat} (inside : stop ≤ table.rows.length) :
    ((table.between above below).rows.take (above.length + stop)).drop (above.length + first) =
      (table.rows.take stop).drop first := by
  have last : (table.between above below).rows.take (above.length + stop) =
      above ++ table.rows.take stop := by
    rw [between, List.append_assoc, List.take_length_add_append,
      List.take_append_of_le_length inside]
  rw [last, List.drop_length_add_append]

/-- The absence of a module is found when it is located. -/
theorem locate_missesNoModule (present : MissesNoModule (table.expand name)) :
    MissesNoModule (table.locate name) := by
  intro error fault
  apply present
  rw [expand, fault]
  rfl

/-- A module that is there expands among more rows as it did. -/
theorem expand_between
    (free : ∀ row ∈ above, row.marker.map Text.trim ≠ some (startMark name)) :
    Follows (table.expand name) ((table.between above below).expand name) := by
  intro present
  rw [expand, expand, locate_between free (locate_missesNoModule present)]
  cases located : table.locate name with
  | error error => rfl
  | ok range =>
      obtain ⟨first, stop⟩ := range
      obtain ⟨start, block, -⟩ := exists_isBlock_of_locate located
      have inside := Nat.le_of_lt block.closed.lt_length
      change (List.drop _ (List.take _ _)).mapM _ = (List.drop _ (List.take _ _)).mapM _
      rw [rows_of_range inside]

/-! ### References in a larger table -/

/-- A larger table expands every module that is in the smaller one in the same way. -/
def Extends (table larger : ModuleTable) : Prop :=
  ∀ name, Follows (table.expand name) (larger.expand name)

theorem extends_between (table : ModuleTable) (below : List ModuleRow) :
    table.Extends (table.between [] below) := fun _ => expand_between (by simp)

theorem highest_follows {height height' : String → Except StepError Nat}
    (h : ∀ name, Follows (height name) (height' name)) (start : Nat) (names : List String) :
    Follows (highest height start names) (highest height' start names) := by
  induction names generalizing start with
  | nil => exact .refl _
  | cons name names ih =>
      rw [highest_cons, highest_cons]
      exact (h name).bind fun found => ih (max start found)

theorem height_follows (extended : table.Extends larger) (maxDepth budget : Nat)
    (chain : List String) (name : String) :
    Follows (table.height maxDepth budget chain name)
      (larger.height maxDepth budget chain name) := by
  induction budget generalizing chain name with
  | zero =>
      by_cases member : name ∈ chain
      · rw [height_of_mem member, height_of_mem member]
        exact .refl _
      · rw [height_zero member, height_zero member]
        exact .refl _
  | succ budget ih =>
      by_cases member : name ∈ chain
      · rw [height_of_mem member, height_of_mem member]
        exact .refl _
      · rw [height_succ member, height_succ member, calls, calls]
        exact ((extended name).map _).bind fun names =>
          (highest_follows (ih (chain ++ [name])) 0 names).map _

/-- A check of references that misses no module ends in the same way in a larger table. -/
theorem checkReferences_follows (extended : table.Extends larger) (name : String)
    (maxDepth : Nat) :
    Follows (table.checkReferences name maxDepth) (larger.checkReferences name maxDepth) := by
  rw [checkReferences_eq_height, checkReferences_eq_height]
  exact (height_follows extended maxDepth maxDepth [] name).map _

/-! ### References that stay in the table -/

/-- Every module that a row calls, directly or through others, is in the table. -/
def Knows (table : ModuleTable) (row : StepRow) : Prop :=
  ∀ name, row.declared = .ok (.callModule name) →
    ∀ reached, ReflTransGen table.References name reached →
      MissesNoModule (table.expand reached)

/-- A walk that fails for the absence of a module has reached that module. -/
theorem exists_reached_of_height {maxDepth budget : Nat} {chain : List String} {name : String}
    {error : StepError} (absent : error.IsAbsence)
    (h : table.height maxDepth budget chain name = .error error) :
    ∃ reached, ReflTransGen table.References name reached ∧
      table.expand reached = .error error := by
  induction budget generalizing chain name with
  | zero =>
      by_cases member : name ∈ chain
      · rw [height_of_mem member] at h
        cases h
        exact absent.elim
      · rw [height_zero member] at h
        cases h
        exact absent.elim
  | succ budget ih =>
      by_cases member : name ∈ chain
      · rw [height_of_mem member] at h
        cases h
        exact absent.elim
      rw [height_succ member] at h
      cases hcalls : table.calls name with
      | error fault =>
          simp only [hcalls, Except.bind, Except.error.injEq] at h
          subst h
          exact ⟨name, .refl, calls_eq_error_iff.mp hcalls⟩
      | ok names =>
          simp only [hcalls, Except.bind] at h
          cases hbelow : highest (table.height maxDepth budget (chain ++ [name])) 0 names with
          | ok below => simp [hbelow, Except.map] at h
          | error fault =>
              simp only [hbelow, Except.map, Except.error.injEq] at h
              subst h
              obtain ⟨nested, called, failed⟩ := exists_error_of_highest hbelow
              obtain ⟨reached, path, expanded⟩ := ih failed
              exact ⟨reached, .head ((references_iff_mem hcalls).mpr called) path, expanded⟩

/-- The check of a call misses no module if all that are reached are in the table. -/
theorem checkReferences_missesNoModule {row : StepRow} {name : String} {maxDepth : Nat}
    (known : table.Knows row) (call : row.declared = .ok (.callModule name)) :
    MissesNoModule (table.checkReferences name maxDepth) := by
  intro error failed absent
  rw [checkReferences_eq_height] at failed
  cases found : table.height maxDepth maxDepth [] name with
  | ok height => simp [found, Except.map] at failed
  | error fault =>
      simp only [found, Except.map, Except.error.injEq] at failed
      subst failed
      obtain ⟨reached, path, expanded⟩ := exists_reached_of_height absent found
      exact known name call reached path fault expanded absent

/-- A row whose call passes the check calls modules of the table only. -/
theorem knows_of_checkReferences {row : StepRow} (maxDepth : Nat)
    (checked : ∀ name, row.declared = .ok (.callModule name) →
      table.checkReferences name maxDepth = .ok ()) : table.Knows row := by
  intro name call reached path error failed
  have passed := checked name call
  rw [checkReferences_eq_height] at passed
  cases found : table.height maxDepth maxDepth [] name with
  | error fault => simp [found, Except.map] at passed
  | ok height =>
      obtain ⟨known, -⟩ := hasHeight_of_height found
      obtain ⟨rows, expanded⟩ := (bounded_iff.mp known.1).1 reached path
      rw [expanded] at failed
      cases failed

end ModuleTable

end StepSheet
