import Mathlib.Data.List.Basic
import StepSheet.Analytics.Execution

/-!
# The order of past steps

The steps of a test case stand in the order of their numbers, and steps of one number in the
order of their modules, those without a module first. Steps that share both keep the order in
which they came.
-/

namespace StepSheet

/-- A sort keeps the order of the items of a class, no two of which it tells apart. -/
theorem filter_mergeSort {α : Type} {le : α → α → Bool} {p : α → Bool}
    (trans : ∀ a b c, le a b → le b c → le a c) (total : ∀ a b, le a b || le b a)
    (tied : ∀ a b, p a → p b → le a b) (items : List α) :
    (items.mergeSort le).filter p = items.filter p := by
  have sorted : (items.filter p).Pairwise fun a b => le a b := by
    refine List.pairwise_of_forall_mem_list ?_
    intro a ha b hb
    exact tied a b (List.of_mem_filter ha) (List.of_mem_filter hb)
  have kept : (items.filter p).Sublist ((items.mergeSort le).filter p) := by
    have within := List.sublist_mergeSort trans total sorted List.filter_sublist
    simpa using within.filter p
  have size : (items.filter p).length = ((items.mergeSort le).filter p).length :=
    ((List.mergeSort_perm items le).filter p).length_eq.symm
  exact (kept.eq_of_length size).symm

/-- A past step stands no later than another one: it has a smaller number, or the same number
and a module that comes no later, where none comes first. -/
def PastStep.NotAfter (a b : PastStep) : Prop :=
  a.step < b.step ∨ a.step = b.step ∧ a.scope ≤ b.scope

namespace Analytics

/-! ### The order of modules -/

theorem scopeLe_iff {a b : Option String} : scopeLe a b ↔ a ≤ b := by
  cases a with
  | none => simp [scopeLe]
  | some a => cases b <;> simp [scopeLe]

theorem scope_le_trans {a b c : Option String} (first : a ≤ b) (second : b ≤ c) : a ≤ c := by
  match a, b, c, first, second with
  | none, _, _, _, _ => simp
  | some a, some b, some c, first, second =>
      exact Option.some_le_some.mpr
        (String.le_trans (Option.some_le_some.mp first) (Option.some_le_some.mp second))

theorem scope_le_total (a b : Option String) : a ≤ b ∨ b ≤ a := by
  match a, b with
  | none, _ => simp
  | some _, none => simp
  | some a, some b => simpa using String.le_total a b

theorem scope_le_antisymm {a b : Option String} (first : a ≤ b) (second : b ≤ a) : a = b := by
  match a, b, first, second with
  | none, none, _, _ => rfl
  | some a, some b, first, second =>
      exact congrArg some
        (String.le_antisymm (Option.some_le_some.mp first) (Option.some_le_some.mp second))

end Analytics

/-! ### The order of steps -/

namespace PastStep.NotAfter

variable {a b c : PastStep}

theorem trans (first : a.NotAfter b) (second : b.NotAfter c) : a.NotAfter c := by
  rcases first with less | ⟨same, scope⟩
  · rcases second with more | ⟨same, -⟩
    · exact .inl (Nat.lt_trans less more)
    · exact .inl (same ▸ less)
  · rcases second with more | ⟨again, later⟩
    · exact .inl (same ▸ more)
    · exact .inr ⟨same.trans again, Analytics.scope_le_trans scope later⟩

theorem total (a b : PastStep) : a.NotAfter b ∨ b.NotAfter a := by
  rcases Nat.lt_trichotomy a.step b.step with less | same | more
  · exact .inl (.inl less)
  · rcases Analytics.scope_le_total a.scope b.scope with first | second
    · exact .inl (.inr ⟨same, first⟩)
    · exact .inr (.inr ⟨same.symm, second⟩)
  · exact .inr (.inl more)

/-- Steps that stand no later than each other share number and module. -/
theorem antisymm (first : a.NotAfter b) (second : b.NotAfter a) :
    a.step = b.step ∧ a.scope = b.scope := by
  rcases first with less | ⟨same, scope⟩
  · rcases second with more | ⟨same, -⟩ <;> omega
  · rcases second with more | ⟨-, back⟩
    · omega
    · exact ⟨same, Analytics.scope_le_antisymm scope back⟩

/-- Steps that share number and module stand no later than each other. -/
theorem of_eq (number : a.step = b.step) (scope : a.scope = b.scope) : a.NotAfter b := by
  refine .inr ⟨number, ?_⟩
  rw [scope]
  exact or_self_iff.mp (Analytics.scope_le_total b.scope b.scope)

end PastStep.NotAfter

namespace Analytics

theorem stepLe_iff {a b : PastStep} : stepLe a b ↔ a.NotAfter b := by
  simp [stepLe, PastStep.NotAfter, scopeLe_iff]

theorem stepLe_trans (a b c : PastStep) (first : stepLe a b) (second : stepLe b c) :
    stepLe a c :=
  stepLe_iff.mpr ((stepLe_iff.mp first).trans (stepLe_iff.mp second))

theorem stepLe_total (a b : PastStep) : stepLe a b || stepLe b a := by
  rw [Bool.or_eq_true, stepLe_iff, stepLe_iff]
  exact PastStep.NotAfter.total a b

/-- The steps of a test case stand in order. -/
theorem pairwise_steps (descriptions : Option Descriptions) (shots : List Shot) (name : String) :
    (caseOf descriptions shots name).steps.Pairwise PastStep.NotAfter :=
  (List.pairwise_mergeSort stepLe_trans stepLe_total _).imp stepLe_iff.mp

/-- The steps of one number and module are those of the screenshots of the test case with that
number and module, as they are listed. -/
theorem filter_steps (descriptions : Option Descriptions) (shots : List Shot) (name : String)
    (number : Nat) (scope : Option String) :
    ((caseOf descriptions shots name).steps.filter
        fun step => step.step = number ∧ step.scope = scope) =
      (shots.filter fun shot => shot.testCase = name ∧ shot.step = number ∧
        shot.scope = scope).map (stepOf descriptions) := by
  have tied : ∀ a b : PastStep, decide (a.step = number ∧ a.scope = scope) →
      decide (b.step = number ∧ b.scope = scope) → stepLe a b := by
    intro a b own other
    obtain ⟨first, firstScope⟩ := of_decide_eq_true own
    obtain ⟨second, secondScope⟩ := of_decide_eq_true other
    exact stepLe_iff.mpr
      (.of_eq (first.trans second.symm) (firstScope.trans secondScope.symm))
  rw [caseOf, filter_mergeSort stepLe_trans stepLe_total tied, List.filter_map, List.filter_filter]
  congr 2
  funext shot
  simp only [Function.comp_apply, stepOf, Bool.decide_and]
  exact Bool.and_comm _ _

end Analytics

end StepSheet
