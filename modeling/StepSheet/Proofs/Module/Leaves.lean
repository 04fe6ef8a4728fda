import StepSheet.Proofs.Module.Height

/-!
# The leaves of a tree of calls

A row that calls a module stands for the leaves of the rows of that module, in their
order; any other row is a leaf. Each leaf keeps the innermost module that it comes
from. Rows that call for ever, or a module that does not expand, have no leaves to
speak of; below a bounded tree there always are.
-/

namespace StepSheet.ModuleTable

/-- The rows that a row stands for, each with the module that it comes from. -/
def leaves (table : ModuleTable) (scope : Option String) (row : StepRow) :
    Option (List (Option String × StepRow)) :=
  match called? row with
  | none => some [(scope, row)]
  | some name =>
    match table.expand name with
    | .error _ => none
    | .ok rows => do
      let parts ← rows.mapM fun inner => table |>.leaves (some name) inner
      return parts.flatten
partial_fixpoint

variable {table : ModuleTable} {scope : Option String} {row : StepRow}

theorem leaves_of_not_call (h : ∀ name, row.declared ≠ .ok (.callModule name)) :
    table.leaves scope row = some [(scope, row)] := by
  have none : called? row = none := by
    cases called : called? row with
    | none => rfl
    | some name => exact absurd (called?_eq_some_iff.mp called) (h name)
  rw [leaves, none]

theorem leaves_of_call {name : String} {rows : List StepRow}
    {parts : List (List (Option String × StepRow))} (call : row.declared = .ok (.callModule name))
    (expanded : table.expand name = .ok rows)
    (below : rows.mapM (fun inner => table.leaves (some name) inner) = some parts) :
    table.leaves scope row = some parts.flatten := by
  rw [leaves, called?_eq_some_iff.mpr call]
  simp only [expanded, below]
  rfl

/-- Whatever is read from a list is read from one of its elements. -/
theorem exists_of_mem_mapM {α β : Type} {read : α → Option β} {items : List α} {values : List β}
    (h : items.mapM read = some values) {value : β} (member : value ∈ values) :
    ∃ item ∈ items, read item = some value := by
  induction items generalizing values with
  | nil =>
      cases h
      cases member
  | cons item items ih =>
      simp only [List.mapM_cons, bind, Option.bind_eq_some_iff, pure, Option.some.injEq] at h
      obtain ⟨first, hfirst, rest, hrest, rfl⟩ := h
      rcases List.mem_cons.mp member with rfl | member
      · exact ⟨item, by simp, hfirst⟩
      · obtain ⟨other, among, hother⟩ := ih hrest member
        exact ⟨other, by simp [among], hother⟩

/-- No leaf calls a module. -/
theorem not_call_of_mem_leaves {found : List (Option String × StepRow)}
    (h : table.leaves scope row = some found) {leaf : Option String × StepRow}
    (member : leaf ∈ found) (name : String) : leaf.2.declared ≠ .ok (.callModule name) := by
  refine leaves.partial_correctness table
    (fun _ _ found => ∀ leaf ∈ found, ∀ name, leaf.2.declared ≠ .ok (.callModule name))
    ?_ scope row found h leaf member name
  intro below ih scope row found h leaf member name
  cases called : called? row with
  | none =>
      simp only [called, Option.some.injEq] at h
      subst h
      rw [List.mem_singleton.mp member, ne_eq, ← called?_eq_some_iff, called]
      simp
  | some inside =>
      cases expanded : table.expand inside with
      | error error => simp [called, expanded] at h
      | ok rows =>
          simp only [called, expanded, bind, Option.bind_eq_some_iff, pure,
            Option.some.injEq] at h
          obtain ⟨parts, hparts, rfl⟩ := h
          obtain ⟨part, hpart, inPart⟩ := List.mem_flatten.mp member
          obtain ⟨inner, _, hinner⟩ := exists_of_mem_mapM hparts hpart
          exact ih _ inner part hinner leaf inPart name

end StepSheet.ModuleTable
