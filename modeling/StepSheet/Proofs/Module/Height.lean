import StepSheet.Module.Reference
import Mathlib.Data.List.Chain
import Mathlib.Order.Bounds.Basic

/-!
# Trees of calls

A module references another one when it expands to rows of which one calls the
other. The tree of calls below a module is bounded by `n` when every module in it
expands and no path in it has more than `n` modules; its height is the least such
bound. A bounded tree has no module below itself, because every call takes one
away from the bound.
-/

namespace StepSheet.ModuleTable

open Relation

def References (table : ModuleTable) (name nested : String) : Prop :=
  ∃ rows, table.expand name = .ok rows ∧ ∃ row ∈ rows, row.declared = .ok (.callModule nested)

/-- The tree of calls below a module is complete and at most `n` modules high. -/
def Bounded (table : ModuleTable) : Nat → String → Prop
  | 0, _ => False
  | n + 1, name => ∃ names, table.calls name = .ok names ∧
      ∀ nested ∈ names, Bounded table n nested

/-- The exact height of the tree of calls below a module. -/
def HasHeight (table : ModuleTable) (name : String) (height : Nat) : Prop :=
  IsLeast { n | table.Bounded n name } height

variable {table : ModuleTable}

theorem called?_eq_some_iff {row : StepRow} {name : String} :
    called? row = some name ↔ row.declared = .ok (.callModule name) := by
  rw [called?]
  split <;> simp_all

theorem calls_eq_ok_iff {name : String} {names : List String} :
    table.calls name = .ok names ↔
      ∃ rows, table.expand name = .ok rows ∧ rows.filterMap called? = names := by
  rw [calls]
  cases table.expand name <;> simp [Except.map]

theorem calls_eq_error_iff {name : String} {error : StepError} :
    table.calls name = .error error ↔ table.expand name = .error error := by
  rw [calls]
  cases table.expand name <;> simp [Except.map]

/-- The calls of an expanded module are exactly its references. -/
theorem references_iff_mem {name nested : String} {names : List String}
    (h : table.calls name = .ok names) : table.References name nested ↔ nested ∈ names := by
  obtain ⟨rows, expanded, rfl⟩ := calls_eq_ok_iff.mp h
  simp only [References, expanded, Except.ok.injEq, exists_eq_left', List.mem_filterMap,
    called?_eq_some_iff]

namespace Bounded

theorem mono {n m : Nat} {name : String} (h : table.Bounded n name) (hle : n ≤ m) :
    table.Bounded m name := by
  induction n generalizing m name with
  | zero => exact h.elim
  | succ n ih =>
      obtain ⟨m, rfl⟩ : ∃ k, m = k + 1 := ⟨m - 1, by omega⟩
      obtain ⟨names, hcalls, below⟩ := h
      exact ⟨names, hcalls, fun nested member => ih (below nested member) (by omega)⟩

/-- A call takes one away from the bound. -/
theorem of_references {n : Nat} {name nested : String} (h : table.Bounded (n + 1) name)
    (call : table.References name nested) : table.Bounded n nested := by
  obtain ⟨names, hcalls, below⟩ := h
  exact below nested ((references_iff_mem hcalls).mp call)

theorem expands {n : Nat} {name : String} (h : table.Bounded n name) :
    ∃ rows, table.expand name = .ok rows := by
  cases n with
  | zero => exact h.elim
  | succ n =>
      obtain ⟨names, hcalls, _⟩ := h
      obtain ⟨rows, expanded, _⟩ := calls_eq_ok_iff.mp hcalls
      exact ⟨rows, expanded⟩

theorem exists_lt {n : Nat} {name reached : String} (h : table.Bounded n name)
    (path : TransGen table.References name reached) :
    ∃ m < n, table.Bounded m reached := by
  induction path with
  | single call =>
      cases n with
      | zero => exact h.elim
      | succ n => exact ⟨n, Nat.lt_succ_self n, h.of_references call⟩
  | tail _ call ih =>
      obtain ⟨m, hlt, bounded⟩ := ih
      cases m with
      | zero => exact bounded.elim
      | succ m => exact ⟨m, by omega, bounded.of_references call⟩

/-- No module of a bounded tree is below itself. -/
theorem irrefl {n : Nat} {name : String} (h : table.Bounded n name) :
    ¬ TransGen table.References name name := by
  intro cycle
  induction n using Nat.strongRecOn with
  | ind n ih =>
      obtain ⟨m, hlt, bounded⟩ := h.exists_lt cycle
      exact ih m hlt bounded

end Bounded

/-- A tree is bounded exactly if all of its modules expand and none of its paths is
longer than the bound. -/
theorem bounded_iff {n : Nat} {name : String} :
    table.Bounded n name ↔
      (∀ reached, ReflTransGen table.References name reached →
        ∃ rows, table.expand reached = .ok rows) ∧
      ∀ path, List.IsChain table.References (name :: path) → (name :: path).length ≤ n := by
  induction n generalizing name with
  | zero =>
      refine ⟨fun h => h.elim, fun h => ?_⟩
      have short := h.2 [] (.singleton name)
      simp at short
  | succ n ih =>
      constructor
      · intro bounded
        refine ⟨fun reached reach => ?_, fun path chain => ?_⟩
        · rcases ReflTransGen.cases_head reach with rfl | ⟨nested, call, rest⟩
          · exact bounded.expands
          · exact (ih.mp (bounded.of_references call)).1 reached rest
        · cases path with
          | nil => simp
          | cons nested path =>
              obtain ⟨call, rest⟩ := List.isChain_cons_cons.mp chain
              have short := (ih.mp (bounded.of_references call)).2 path rest
              simpa using short
      · rintro ⟨expand, short⟩
        obtain ⟨rows, expanded⟩ := expand name .refl
        have hcalls := calls_eq_ok_iff.mpr ⟨rows, expanded, rfl⟩
        refine ⟨_, hcalls, ?_⟩
        intro nested member
        have call := (references_iff_mem hcalls).mpr member
        refine ih.mpr ⟨fun reached reach => expand reached (.head call reach), fun path chain => ?_⟩
        simpa using short (nested :: path) (List.isChain_cons_cons.mpr ⟨call, chain⟩)

/-- Every module on a path of references reaches the last one. -/
theorem transGen_of_isChain {chain : List String} {name earlier : String}
    (path : List.IsChain table.References (chain ++ [name])) (member : earlier ∈ chain) :
    TransGen table.References earlier name := by
  have transitive : List.IsChain (TransGen table.References) (chain ++ [name]) :=
    path.imp fun _ _ => TransGen.single
  exact (List.pairwise_append.mp (List.isChain_iff_pairwise.mp transitive)).2.2
    earlier member name (by simp)

end StepSheet.ModuleTable
