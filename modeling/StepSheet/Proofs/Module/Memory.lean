import StepSheet.Proofs.Module.Walk

/-!
# The walk that remembers

The walk that remembers skips a module whose height is known to fit. It ends as
the plain walk does, because what it remembers are exact heights: a tree with a
height is bounded, so none of its modules is on the current chain, and the plain
walk would find the same height in it.
-/

namespace StepSheet.ModuleTable

open Relation

variable {table : ModuleTable} {maxDepth : Nat}

/-- Every remembered height is the exact one. -/
def Recalls (table : ModuleTable) (cleared : List (String × Nat)) : Prop :=
  ∀ name height, cleared.lookup name = some height → table.HasHeight name height

theorem Recalls.nil : table.Recalls [] := by
  intro name height h
  simp at h

theorem Recalls.cons {cleared : List (String × Nat)} {name : String} {height : Nat}
    (known : table.HasHeight name height) (recalls : table.Recalls cleared) :
    table.Recalls ((name, height) :: cleared) := by
  intro other found h
  rw [List.lookup_cons] at h
  by_cases same : other = name
  · subst same
    simp only [beq_self_eq_true, Option.some.injEq] at h
    exact h ▸ known
  · rw [beq_false_of_ne same] at h
    exact recalls other found h

/-- A walk that remembers ends as one that does not: with the same fault, or with the
same height, and then what it remembers is right. -/
inductive Agrees (table : ModuleTable) :
    Except StepError (Nat × List (String × Nat)) → Except StepError Nat → Prop
  | height {found : Nat} {cleared : List (String × Nat)} (recalls : table.Recalls cleared) :
      Agrees table (.ok (found, cleared)) (.ok found)
  | fault (error : StepError) : Agrees table (.error error) (.error error)

theorem Agrees.map_fst {memo : Except StepError (Nat × List (String × Nat))}
    {plain : Except StepError Nat} (h : table.Agrees memo plain) : memo.map Prod.fst = plain := by
  cases h <;> rfl

/-- The greatest of the heights below a module, where each walk goes on with what the
one before it remembers. -/
def highestRecalled
    (walk : List (String × Nat) → String → Except StepError (Nat × List (String × Nat)))
    (start : Nat × List (String × Nat)) (names : List String) :
    Except StepError (Nat × List (String × Nat)) :=
  names.foldlM (fun (below, cleared) nested => do
    let (height, cleared) ← walk cleared nested
    return (max below height, cleared)) start

theorem highestRecalled_cons
    (walk : List (String × Nat) → String → Except StepError (Nat × List (String × Nat)))
    (below : Nat) (cleared : List (String × Nat)) (name : String) (names : List String) :
    highestRecalled walk (below, cleared) (name :: names) =
      (walk cleared name).bind fun found =>
        highestRecalled walk (max below found.1, found.2) names := by
  simp only [highestRecalled, List.foldlM_cons]
  cases walk cleared name <;> rfl

theorem agrees_highest
    {walk : List (String × Nat) → String → Except StepError (Nat × List (String × Nat))}
    {height : String → Except StepError Nat} {names : List String}
    (step : ∀ name ∈ names, ∀ cleared, table.Recalls cleared →
      table.Agrees (walk cleared name) (height name))
    {cleared : List (String × Nat)} (recalls : table.Recalls cleared) (start : Nat) :
    table.Agrees (highestRecalled walk (start, cleared) names) (highest height start names) := by
  induction names generalizing start cleared with
  | nil => exact .height recalls
  | cons name names ih =>
      rw [highestRecalled_cons, highest_cons]
      have first := step name (by simp) cleared recalls
      generalize walk cleared name = memo at first ⊢
      generalize height name = plain at first ⊢
      cases first with
      | fault error => exact .fault error
      | height recalls =>
          exact ih (fun other member => step other (by simp [member])) recalls _

/-- The remembered height of a module, if it fits below the chain. -/
def recalled (maxDepth : Nat) (chain : List String) (cleared : List (String × Nat))
    (name : String) : Option Nat :=
  (cleared.lookup name).filter fun height => chain.length + height ≤ maxDepth

theorem clear_of_recalled {budget found : Nat} {chain : List String}
    {cleared : List (String × Nat)} {name : String}
    (h : recalled maxDepth chain cleared name = some found) :
    table.clear maxDepth budget chain cleared name = .ok (found, cleared) := by
  rw [recalled] at h
  unfold clear
  rw [h]

theorem clear_of_mem {budget : Nat} {chain : List String} {cleared : List (String × Nat)}
    {name : String}
    (h : recalled maxDepth chain cleared name = none)
    (member : name ∈ chain) :
    table.clear maxDepth budget chain cleared name =
      .error (.moduleCycle (chain ++ [name])) := by
  rw [recalled] at h
  unfold clear
  simp only [h]
  rw [if_pos member]

theorem clear_zero {chain : List String} {cleared : List (String × Nat)} {name : String}
    (h : recalled maxDepth chain cleared name = none)
    (fresh : name ∉ chain) :
    table.clear maxDepth 0 chain cleared name = .error (.moduleTooDeep name maxDepth) := by
  rw [recalled] at h
  rw [clear]
  simp only [h]
  rw [if_neg fresh]

theorem clear_succ {budget : Nat} {chain : List String} {cleared : List (String × Nat)}
    {name : String}
    (h : recalled maxDepth chain cleared name = none)
    (fresh : name ∉ chain) :
    table.clear maxDepth (budget + 1) chain cleared name =
      (table.calls name).bind fun names =>
        (highestRecalled (table.clear maxDepth budget (chain ++ [name])) (0, cleared) names).map
          fun found => (found.1 + 1, (name, found.1 + 1) :: found.2) := by
  rw [recalled] at h
  rw [clear]
  simp only [h]
  rw [if_neg fresh]
  cases table.calls name with
  | error error => rfl
  | ok names =>
      change (highestRecalled _ _ names).bind _ = (highestRecalled _ _ names).map _
      cases highestRecalled (table.clear maxDepth budget (chain ++ [name])) (0, cleared) names
      · rfl
      · rfl

/-- A remembered height that fits is the one that the plain walk finds. -/
theorem agrees_clear_of_recalled {budget found : Nat} {chain : List String}
    {cleared : List (String × Nat)} {name : String} (recalls : table.Recalls cleared)
    (path : List.IsChain table.References (chain ++ [name]))
    (depth : chain.length + budget = maxDepth)
    (h : recalled maxDepth chain cleared name = some found) :
    table.Agrees (table.clear maxDepth budget chain cleared name)
      (table.height maxDepth budget chain name) := by
  obtain ⟨remembered, fits⟩ := Option.filter_eq_some_iff.mp h
  have room : found ≤ budget := by
    simp only [decide_eq_true_eq] at fits
    omega
  rw [clear_of_recalled h, height_eq_of_hasHeight (recalls name found remembered) room path]
  exact .height recalls

/-- On every path, with right memories, the two walks agree. -/
theorem agrees_clear {budget : Nat} {chain : List String} {cleared : List (String × Nat)}
    {name : String} (recalls : table.Recalls cleared)
    (path : List.IsChain table.References (chain ++ [name]))
    (depth : chain.length + budget = maxDepth) :
    table.Agrees (table.clear maxDepth budget chain cleared name)
      (table.height maxDepth budget chain name) := by
  induction budget generalizing chain cleared name with
  | zero =>
      cases remembered : recalled maxDepth chain cleared name with
      | some found => exact agrees_clear_of_recalled recalls path depth remembered
      | none =>
          by_cases member : name ∈ chain
          · rw [clear_of_mem remembered member, height_of_mem member]
            exact .fault _
          · rw [clear_zero remembered member, height_zero member]
            exact .fault _
  | succ budget ih =>
      cases remembered : recalled maxDepth chain cleared name with
      | some found => exact agrees_clear_of_recalled recalls path depth remembered
      | none =>
          by_cases member : name ∈ chain
          · rw [clear_of_mem remembered member, height_of_mem member]
            exact .fault _
          have plain : table.height maxDepth (budget + 1) chain name = _ := height_succ member
          rw [clear_succ remembered member, plain]
          cases hcalls : table.calls name with
          | error error => exact .fault error
          | ok names =>
              rw [hcalls] at plain
              simp only [Except.bind] at plain ⊢
              have step : ∀ nested ∈ names, ∀ cleared, table.Recalls cleared →
                  table.Agrees (table.clear maxDepth budget (chain ++ [name]) cleared nested)
                    (table.height maxDepth budget (chain ++ [name]) nested) := by
                intro nested called cleared recalls
                apply ih recalls (isChain_snoc path ((references_iff_mem hcalls).mpr called))
                simp only [List.length_append, List.length_singleton]
                omega
              have below := agrees_highest step recalls 0
              generalize highestRecalled _ _ names = memo at below ⊢
              generalize highest _ 0 names = found at below plain ⊢
              cases below with
              | fault error => exact .fault error
              | height recalls => exact .height (recalls.cons (hasHeight_of_height plain).1)

/-- The check of references is the plain walk without its height. -/
theorem checkReferences_eq_height (table : ModuleTable) (name : String) (maxDepth : Nat) :
    table.checkReferences name maxDepth =
      (table.height maxDepth maxDepth [] name).map fun _ => () := by
  have agrees : table.Agrees (table.clear maxDepth maxDepth [] [] name)
      (table.height maxDepth maxDepth [] name) :=
    agrees_clear .nil (.singleton name) (by simp)
  rw [checkReferences]
  rw [← agrees.map_fst]
  cases table.clear maxDepth maxDepth [] [] name <;> rfl

/-- The check passes exactly the modules whose tree of calls is bounded. -/
theorem checkReferences_eq_ok_iff {name : String} :
    table.checkReferences name maxDepth = .ok () ↔ table.Bounded maxDepth name := by
  rw [checkReferences_eq_height]
  constructor
  · intro h
    cases found : table.height maxDepth maxDepth [] name with
    | error error => simp [found, Except.map] at h
    | ok height =>
        obtain ⟨known, room⟩ := hasHeight_of_height found
        exact known.1.mono room
  · intro bounded
    have path : List.IsChain table.References ([] ++ [name]) := .singleton name
    obtain ⟨height, found⟩ := exists_height_of_bounded maxDepth bounded path
    rw [found]
    rfl

/-- The walk that remembers is the plain one, with the same fault if there is one. It
passes a module exactly if all that it reaches expands and no path of references from
it is longer than allowed. A reported cycle is a path of references from the module
whose last module has been on it before. -/
theorem checkReferences_eq_plain_walk (table : ModuleTable) (name : String) (maxDepth : Nat) :
    table.checkReferences name maxDepth =
        (table.height maxDepth maxDepth [] name).map (fun _ => ()) ∧
      (table.checkReferences name maxDepth = .ok () ↔
        (∀ reached, ReflTransGen table.References name reached →
          ∃ rows, table.expand reached = .ok rows) ∧
        ∀ path, List.IsChain table.References (name :: path) →
          (name :: path).length ≤ maxDepth) ∧
      ∀ cycle, table.checkReferences name maxDepth = .error (.moduleCycle cycle) →
        List.IsChain table.References cycle ∧ cycle.head? = some name ∧
          ∃ before last, cycle = before ++ [last] ∧ last ∈ before := by
  refine ⟨checkReferences_eq_height table name maxDepth,
    checkReferences_eq_ok_iff.trans bounded_iff, ?_⟩
  intro cycle h
  rw [checkReferences_eq_height] at h
  cases found : table.height maxDepth maxDepth [] name with
  | ok height => simp [found, Except.map] at h
  | error error =>
      simp only [found, Except.map, Except.error.injEq] at h
      subst h
      have path : List.IsChain table.References ([] ++ [name]) := .singleton name
      obtain ⟨walk, ⟨onward, rfl⟩, repeated⟩ := isChain_of_height_eq_cycle path found
      exact ⟨walk, rfl, repeated⟩

/-- `B` is reached from `A` directly, and one module deeper through `C`. -/
def twoPaths : ModuleTable :=
  let call name := ⟨none, some ⟨1, "call", "GETMODULE", none, none, some name⟩⟩
  let mark text := ⟨some text, none⟩
  ⟨[mark "A_Start", call "B", call "C", mark "A_End", mark "B_Start", call "D", mark "B_End",
    mark "C_Start", call "B", mark "C_End", mark "D_Start",
    ⟨none, some ⟨1, "wait", "WAIT", none, none, some "5"⟩⟩, mark "D_End"]⟩

-- The height of `B` fits on the first path; on the second one it is walked again.
example : twoPaths.checkReferences "A" 3 = .error (.moduleTooDeep "D" 3) ∧
    twoPaths.checkReferences "A" 4 = .ok () := by
  decide +kernel

end StepSheet.ModuleTable
