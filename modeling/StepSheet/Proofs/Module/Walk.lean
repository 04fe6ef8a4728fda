import StepSheet.Proofs.Data.Reading
import StepSheet.Proofs.Module.Height

/-!
# The plain walk over references

The plain walk enters a module each time it meets one. A height that it finds is
the exact one, and it finds the height of every bounded tree on every path that
leaves room for it. A cycle that it reports is a path of references that comes
back to one of its own modules.
-/

namespace StepSheet.ModuleTable

open Relation

variable {table : ModuleTable} {maxDepth : Nat}

/-- The greatest of the heights below a module, and of `start`. -/
def highest (height : String → Except StepError Nat) (start : Nat) (names : List String) :
    Except StepError Nat :=
  names.foldlM (fun below nested => do return max below (← height nested)) start

theorem highest_cons (height : String → Except StepError Nat) (start : Nat) (name : String)
    (names : List String) : highest height start (name :: names) =
      (height name).bind fun found => highest height (max start found) names := by
  simp only [highest, List.foldlM_cons]
  cases height name <;> rfl

/-- A greatest height is found where all heights are. -/
theorem exists_highest_eq_ok {height : String → Except StepError Nat} {names : List String}
    (h : ∀ name ∈ names, ∃ found, height name = .ok found) (start : Nat) :
    ∃ below, highest height start names = .ok below := by
  induction names generalizing start with
  | nil => exact ⟨start, rfl⟩
  | cons name names ih =>
      obtain ⟨found, hfound⟩ := h name (by simp)
      rw [highest_cons, hfound]
      exact ih (fun other member => h other (by simp [member])) (max start found)

/-- The greatest height is the least bound of the heights and of `start`. -/
theorem le_iff_of_highest {height : String → Except StepError Nat} {names : List String}
    {start below : Nat} (h : highest height start names = .ok below) :
    (∀ name ∈ names, ∃ found, height name = .ok found) ∧
      ∀ bound, below ≤ bound ↔
        start ≤ bound ∧ ∀ name ∈ names, ∀ found, height name = .ok found → found ≤ bound := by
  induction names generalizing start with
  | nil =>
      cases h
      simp
  | cons name names ih =>
      rw [highest_cons] at h
      cases hfound : height name with
      | error error => simp [hfound, Except.bind] at h
      | ok found =>
          simp only [hfound, Except.bind] at h
          obtain ⟨all, least⟩ := ih h
          refine ⟨?_, fun bound => ?_⟩
          · simpa [hfound] using all
          · simp only [least bound, Nat.max_le, List.forall_mem_cons, hfound, Except.ok.injEq,
              forall_eq', and_assoc]

/-- The first height that is not found is the fault of the whole. -/
theorem exists_error_of_highest {height : String → Except StepError Nat} {names : List String}
    {start : Nat} {error : StepError} (h : highest height start names = .error error) :
    ∃ name ∈ names, height name = .error error := by
  induction names generalizing start with
  | nil => cases h
  | cons name names ih =>
      rw [highest_cons] at h
      cases hfound : height name with
      | error fault =>
          simp only [hfound, Except.bind, Except.error.injEq] at h
          exact ⟨name, by simp, by rw [hfound, h]⟩
      | ok found =>
          simp only [hfound, Except.bind] at h
          obtain ⟨other, member, hother⟩ := ih h
          exact ⟨other, by simp [member], hother⟩

theorem height_of_mem {budget : Nat} {chain : List String} {name : String} (h : name ∈ chain) :
    table.height maxDepth budget chain name = .error (.moduleCycle (chain ++ [name])) := by
  unfold height
  rw [if_pos h]

theorem height_zero {chain : List String} {name : String} (h : name ∉ chain) :
    table.height maxDepth 0 chain name = .error (.moduleTooDeep name maxDepth) := by
  rw [height]
  rw [if_neg h]

theorem height_succ {budget : Nat} {chain : List String} {name : String} (h : name ∉ chain) :
    table.height maxDepth (budget + 1) chain name =
      (table.calls name).bind fun names =>
        (highest (table.height maxDepth budget (chain ++ [name])) 0 names).map (· + 1) := by
  rw [height]
  rw [if_neg h]
  cases table.calls name <;> rfl

/-- A height that the plain walk finds is the exact one and within the budget. -/
theorem hasHeight_of_height {budget height : Nat} {chain : List String} {name : String}
    (h : table.height maxDepth budget chain name = .ok height) :
    table.HasHeight name height ∧ height ≤ budget := by
  induction budget generalizing chain name height with
  | zero =>
      by_cases member : name ∈ chain
      · simp [height_of_mem member] at h
      · simp [height_zero member] at h
  | succ budget ih =>
      by_cases member : name ∈ chain
      · simp [height_of_mem member] at h
      rw [height_succ member] at h
      cases hcalls : table.calls name with
      | error error => simp [hcalls, Except.bind] at h
      | ok names =>
          simp only [hcalls, Except.bind] at h
          cases hbelow : highest (table.height maxDepth budget (chain ++ [name])) 0 names with
          | error error => simp [hbelow, Except.map] at h
          | ok below =>
              simp only [hbelow, Except.map, Except.ok.injEq] at h
              subst h
              obtain ⟨all, least⟩ := le_iff_of_highest hbelow
              have within := ((least below).mp le_rfl).2
              refine ⟨⟨⟨names, hcalls, fun nested called => ?_⟩, fun bound bounded => ?_⟩, ?_⟩
              · obtain ⟨found, hfound⟩ := all nested called
                exact (ih hfound).1.1.mono (within nested called found hfound)
              · -- A bound of the whole is one more than a bound of each call.
                cases bound with
                | zero => exact bounded.elim
                | succ bound =>
                    have called : ∀ nested ∈ names, table.Bounded bound nested :=
                      fun nested member =>
                        bounded.of_references ((references_iff_mem hcalls).mpr member)
                    have hle := (least bound).mpr ⟨Nat.zero_le _, fun nested member found hfound =>
                      (ih hfound).1.2 (called nested member)⟩
                    omega
              · have hle := (least budget).mpr ⟨Nat.zero_le _, fun nested _ found hfound =>
                  (ih hfound).2⟩
                omega

/-- A path of references goes on with a reference of its last module. -/
theorem isChain_snoc {chain : List String} {name nested : String}
    (path : List.IsChain table.References (chain ++ [name]))
    (call : table.References name nested) :
    List.IsChain table.References ((chain ++ [name]) ++ [nested]) := by
  rw [List.append_assoc]
  exact List.isChain_split.mpr ⟨path, List.isChain_pair.mpr call⟩

theorem locate_ne_cycle (name : String) (cycle : List String) :
    table.locate name ≠ .error (.moduleCycle cycle) := by
  rw [locate]
  split
  · simp
  · simp
  · split
    · simp
    · split <;> simp

/-- No fault in expanding a module is a cycle. -/
theorem expand_ne_cycle (name : String) (cycle : List String) :
    table.expand name ≠ .error (.moduleCycle cycle) := by
  intro h
  rw [expand] at h
  cases located : table.locate name with
  | error fault =>
      simp only [located, bind, Except.bind, Except.error.injEq] at h
      subst h
      exact locate_ne_cycle name cycle located
  | ok block =>
      simp only [located, bind, Except.bind] at h
      obtain ⟨_, row, _, _, -, fault⟩ := mapM_eq_error_iff.mp h
      rw [stepOf] at fault
      split at fault <;> cases fault

/-- The plain walk finds the height of every tree that the budget bounds, whatever
path has led there. -/
theorem exists_height_of_bounded (maxDepth : Nat) {budget : Nat} {chain : List String}
    {name : String} (bounded : table.Bounded budget name)
    (path : List.IsChain table.References (chain ++ [name])) :
    ∃ height, table.height maxDepth budget chain name = .ok height := by
  induction budget generalizing chain name with
  | zero => exact bounded.elim
  | succ budget ih =>
      have fresh : name ∉ chain := fun member =>
        bounded.irrefl (transGen_of_isChain path member)
      obtain ⟨names, hcalls, below⟩ := bounded
      have found : ∀ nested ∈ names,
          ∃ height, table.height maxDepth budget (chain ++ [name]) nested = .ok height := by
        intro nested member
        exact ih (below nested member)
          (isChain_snoc path ((references_iff_mem hcalls).mpr member))
      obtain ⟨height, hheight⟩ := exists_highest_eq_ok found 0
      exact ⟨height + 1, by rw [height_succ fresh, hcalls]; simp [Except.bind, hheight, Except.map]⟩

/-- Where a height is known, the plain walk finds it on every path that leaves room. -/
theorem height_eq_of_hasHeight {budget height : Nat} {chain : List String} {name : String}
    (known : table.HasHeight name height) (room : height ≤ budget)
    (path : List.IsChain table.References (chain ++ [name])) :
    table.height maxDepth budget chain name = .ok height := by
  obtain ⟨found, hfound⟩ := exists_height_of_bounded maxDepth (known.1.mono room) path
  rw [hfound, (hasHeight_of_height hfound).1.unique known]

/-- A cycle that the plain walk reports is a path of references, on from the one that
has led there, whose last module has been on it before. -/
theorem isChain_of_height_eq_cycle {budget : Nat} {chain cycle : List String} {name : String}
    (path : List.IsChain table.References (chain ++ [name]))
    (h : table.height maxDepth budget chain name = .error (.moduleCycle cycle)) :
    List.IsChain table.References cycle ∧ chain ++ [name] <+: cycle ∧
      ∃ before last, cycle = before ++ [last] ∧ last ∈ before := by
  induction budget generalizing chain name with
  | zero =>
      by_cases member : name ∈ chain
      · rw [height_of_mem member] at h
        cases h
        exact ⟨path, List.prefix_rfl, chain, name, rfl, member⟩
      · rw [height_zero member] at h
        cases h
  | succ budget ih =>
      by_cases member : name ∈ chain
      · rw [height_of_mem member] at h
        cases h
        exact ⟨path, List.prefix_rfl, chain, name, rfl, member⟩
      rw [height_succ member] at h
      cases hcalls : table.calls name with
      | error error =>
          simp only [hcalls, Except.bind, Except.error.injEq] at h
          exact absurd (h ▸ calls_eq_error_iff.mp hcalls) (expand_ne_cycle name cycle)
      | ok names =>
          simp only [hcalls, Except.bind] at h
          cases hbelow : highest (table.height maxDepth budget (chain ++ [name])) 0 names with
          | ok below => simp [hbelow, Except.map] at h
          | error error =>
              simp only [hbelow, Except.map, Except.error.injEq] at h
              subst h
              obtain ⟨nested, called, fault⟩ := exists_error_of_highest hbelow
              obtain ⟨walk, onward, repeated⟩ :=
                ih (isChain_snoc path ((references_iff_mem hcalls).mpr called)) fault
              exact ⟨walk, (List.prefix_append _ _).trans onward, repeated⟩

end StepSheet.ModuleTable
