import StepSheet.Proofs.Module.Memory

/-!
# The calls of a walk

The walk that remembers heights, with a log of its calls. It ends as the walk without a log does,
and the log has every call: the one that the walk itself is, and below each module that is read
the calls that the module makes, one after the other up to the first that fails.
-/

namespace StepSheet.ModuleTable

variable {table : ModuleTable} {maxDepth : Nat}

/-- A call of the walk: the modules that are being walked, the heights that are remembered, the
module that is called, and how the call ends. -/
structure Visit where
  chain : List String
  cleared : List (String × Nat)
  name : String
  result : Except StepError (Nat × List (String × Nat))

/-- The greatest of the heights below a module with the calls made for them. -/
def visitEach
    (walk : List (String × Nat) → String →
      Except StepError (Nat × List (String × Nat)) × List Visit) :
    Nat × List (String × Nat) → List String →
      Except StepError (Nat × List (String × Nat)) × List Visit
  | found, [] => (.ok found, [])
  | (below, cleared), name :: names =>
    match walk cleared name with
    | (.error error, visits) => (.error error, visits)
    | (.ok (height, cleared), visits) =>
      let later := visitEach walk (max below height, cleared) names
      (later.1, visits ++ later.2)

/-- The walk that remembers, with its calls in the order in which they end. -/
def visit (table : ModuleTable) (maxDepth : Nat) (budget : Nat) (chain : List String)
    (cleared : List (String × Nat)) (name : String) :
    Except StepError (Nat × List (String × Nat)) × List Visit :=
  let inner : Except StepError (Nat × List (String × Nat)) × List Visit :=
    match recalled maxDepth chain cleared name with
    | some height => (.ok (height, cleared), [])
    | none =>
      if name ∈ chain then (.error (.moduleCycle (chain ++ [name])), [])
      else match budget with
        | 0 => (.error (.moduleTooDeep name maxDepth), [])
        | budget + 1 =>
          match table.calls name with
          | .error error => (.error error, [])
          | .ok names =>
            let below := visitEach
              (fun cleared nested => table.visit maxDepth budget (chain ++ [name]) cleared nested)
              (0, cleared) names
            (below.1.map fun found => (found.1 + 1, (name, found.1 + 1) :: found.2), below.2)
  (inner.1, inner.2 ++ [⟨chain, cleared, name, inner.1⟩])

theorem fst_visitEach
    (walk : List (String × Nat) → String →
      Except StepError (Nat × List (String × Nat)) × List Visit)
    (start : Nat × List (String × Nat)) (names : List String) :
    (visitEach walk start names).1 =
      highestRecalled (fun cleared name => (walk cleared name).1) start names := by
  induction names generalizing start with
  | nil => rfl
  | cons name names ih =>
      obtain ⟨below, cleared⟩ := start
      rw [highestRecalled_cons, visitEach]
      rcases walk cleared name with ⟨error | found, visits⟩
      · rfl
      · exact ih _

section equations

variable {budget : Nat} {chain : List String} {cleared : List (String × Nat)} {name : String}

theorem visit_of_recalled {height : Nat}
    (h : recalled maxDepth chain cleared name = some height) :
    table.visit maxDepth budget chain cleared name =
      (.ok (height, cleared), [⟨chain, cleared, name, .ok (height, cleared)⟩]) := by
  unfold visit
  simp [h]

theorem visit_of_mem (h : recalled maxDepth chain cleared name = none) (member : name ∈ chain) :
    table.visit maxDepth budget chain cleared name =
      (.error (.moduleCycle (chain ++ [name])),
        [⟨chain, cleared, name, .error (.moduleCycle (chain ++ [name]))⟩]) := by
  unfold visit
  simp [h, member]

theorem visit_zero (h : recalled maxDepth chain cleared name = none) (fresh : name ∉ chain) :
    table.visit maxDepth 0 chain cleared name =
      (.error (.moduleTooDeep name maxDepth),
        [⟨chain, cleared, name, .error (.moduleTooDeep name maxDepth)⟩]) := by
  unfold visit
  simp [h, fresh]

theorem visit_of_fault {error : StepError} (h : recalled maxDepth chain cleared name = none)
    (fresh : name ∉ chain) (fault : table.calls name = .error error) :
    table.visit maxDepth (budget + 1) chain cleared name =
      (.error error, [⟨chain, cleared, name, .error error⟩]) := by
  unfold visit
  simp [h, fresh, fault]

theorem visit_of_calls {names : List String} (h : recalled maxDepth chain cleared name = none)
    (fresh : name ∉ chain) (hcalls : table.calls name = .ok names) :
    table.visit maxDepth (budget + 1) chain cleared name =
      let below := visitEach (table.visit maxDepth budget (chain ++ [name])) (0, cleared) names
      let result := below.1.map fun found => (found.1 + 1, (name, found.1 + 1) :: found.2)
      (result, below.2 ++ [⟨chain, cleared, name, result⟩]) := by
  rw [visit]
  simp [h, fresh, hcalls]

/-- The walk ends in the same way when its calls are told. -/
theorem fst_visit (table : ModuleTable) (maxDepth budget : Nat) (chain : List String)
    (cleared : List (String × Nat)) (name : String) :
    (table.visit maxDepth budget chain cleared name).1 =
      table.clear maxDepth budget chain cleared name := by
  induction budget generalizing chain cleared name with
  | zero =>
      cases remembered : recalled maxDepth chain cleared name with
      | some found => rw [visit_of_recalled remembered, clear_of_recalled remembered]
      | none =>
          by_cases member : name ∈ chain
          · rw [visit_of_mem remembered member, clear_of_mem remembered member]
          · rw [visit_zero remembered member, clear_zero remembered member]
  | succ budget ih =>
      cases remembered : recalled maxDepth chain cleared name with
      | some found => rw [visit_of_recalled remembered, clear_of_recalled remembered]
      | none =>
          by_cases member : name ∈ chain
          · rw [visit_of_mem remembered member, clear_of_mem remembered member]
          rw [clear_succ remembered member]
          cases hcalls : table.calls name with
          | error error => rw [visit_of_fault remembered member hcalls]; rfl
          | ok names =>
              rw [visit_of_calls remembered member hcalls]
              simp only [fst_visitEach, ih]
              rfl

/-- How a call ends, and what is told of it: its height is remembered and fits, or it fails before
its module is read, or the calls that the module makes come before it. -/
inductive Ending (table : ModuleTable) (maxDepth : Nat) (chain : List String)
    (cleared : List (String × Nat)) (name : String) :
    Nat → Except StepError (Nat × List (String × Nat)) × List Visit → Prop
  | recalled {budget height : Nat}
      (remembered : recalled maxDepth chain cleared name = some height) :
      Ending table maxDepth chain cleared name budget
        (.ok (height, cleared), [⟨chain, cleared, name, .ok (height, cleared)⟩])
  | failed {budget : Nat} {error : StepError}
      (unread : name ∈ chain ∨ budget = 0 ∨ table.calls name = .error error) :
      Ending table maxDepth chain cleared name budget
        (.error error, [⟨chain, cleared, name, .error error⟩])
  | called {budget : Nat} {names : List String}
      {below : Except StepError (Nat × List (String × Nat)) × List Visit}
      {result : Except StepError (Nat × List (String × Nat))}
      (forgotten : recalled maxDepth chain cleared name = none)
      (calls : table.calls name = .ok names)
      (each : visitEach (table.visit maxDepth budget (chain ++ [name])) (0, cleared) names = below)
      (ends : (below.1.map fun found => (found.1 + 1, (name, found.1 + 1) :: found.2)) = result) :
      Ending table maxDepth chain cleared name (budget + 1)
        (result, below.2 ++ [⟨chain, cleared, name, result⟩])

theorem ending_visit (table : ModuleTable) (maxDepth budget : Nat) (chain : List String)
    (cleared : List (String × Nat)) (name : String) :
    Ending table maxDepth chain cleared name budget
      (table.visit maxDepth budget chain cleared name) := by
  cases remembered : recalled maxDepth chain cleared name with
  | some found =>
      rw [visit_of_recalled remembered]
      exact .recalled remembered
  | none =>
      by_cases member : name ∈ chain
      · rw [visit_of_mem remembered member]
        exact .failed (.inl member)
      cases budget with
      | zero =>
          rw [visit_zero remembered member]
          exact .failed (.inr (.inl rfl))
      | succ budget =>
          cases hcalls : table.calls name with
          | error error =>
              rw [visit_of_fault remembered member hcalls]
              exact .failed (.inr (.inr hcalls))
          | ok names =>
              rw [visit_of_calls remembered member hcalls]
              exact .called remembered hcalls rfl rfl

end equations

/-! ### No call is left out -/

/-- The call reads the module: its height is not taken from what is remembered, and nothing is
wrong with the chain. -/
structure Visit.Opens (maxDepth : Nat) (visit : Visit) : Prop where
  forgotten : recalled maxDepth visit.chain visit.cleared visit.name = none
  fresh : visit.name ∉ visit.chain
  room : visit.chain.length < maxDepth

/-- Modules are called one after the other, and a log has all these calls. Each call finds what
is remembered at the end of the one before, and none follows one that fails. -/
inductive Successive (log : List Visit) (chain : List String) :
    List (String × Nat) → List String → Prop
  | done {cleared : List (String × Nat)} : Successive log chain cleared []
  | failed {cleared : List (String × Nat)} {name : String} {names : List String}
      {error : StepError} (logged : ⟨chain, cleared, name, .error error⟩ ∈ log) :
      Successive log chain cleared (name :: names)
  | next {cleared : List (String × Nat)} {name : String} {names : List String}
      {found : Nat × List (String × Nat)} (logged : ⟨chain, cleared, name, .ok found⟩ ∈ log)
      (rest : Successive log chain found.2 names) : Successive log chain cleared (name :: names)

/-- If the call reads its module, the calls that the module makes are in the log. -/
def Visit.IsFollowed (table : ModuleTable) (maxDepth : Nat) (log : List Visit)
    (visit : Visit) : Prop :=
  visit.Opens maxDepth → ∀ names, table.calls visit.name = .ok names →
    Successive log (visit.chain ++ [visit.name]) visit.cleared names

theorem Successive.mono {log more : List Visit} (grown : log ⊆ more) {chain : List String}
    {cleared : List (String × Nat)} {names : List String}
    (h : Successive log chain cleared names) : Successive more chain cleared names := by
  induction h with
  | done => exact .done
  | failed logged => exact .failed (grown logged)
  | next logged _ ih => exact .next (grown logged) ih

theorem Visit.IsFollowed.mono {log more : List Visit} (grown : log ⊆ more) {visit : Visit}
    (h : visit.IsFollowed table maxDepth log) : visit.IsFollowed table maxDepth more :=
  fun opens names calls => (h opens names calls).mono grown

section walk

variable {walk : List (String × Nat) → String →
    Except StepError (Nat × List (String × Nat)) × List Visit}
  {start : Nat × List (String × Nat)} {names : List String}

/-- What is told of the modules was told by the walk of one of them, all of which is kept. -/
theorem exists_walk_of_mem_visitEach {visit : Visit}
    (member : visit ∈ (visitEach walk start names).2) :
    ∃ cleared name, visit ∈ (walk cleared name).2 ∧
      (walk cleared name).2 ⊆ (visitEach walk start names).2 := by
  induction names generalizing start with
  | nil => cases member
  | cons name names ih =>
      obtain ⟨below, cleared⟩ := start
      rw [visitEach] at member ⊢
      rcases told : walk cleared name with ⟨error | ⟨height, left⟩, visits⟩
      · rw [told] at member
        exact ⟨cleared, name, by rwa [told], by rw [told]; exact fun _ own => own⟩
      · rw [told] at member
        rcases List.mem_append.mp member with own | later
        · exact ⟨cleared, name, by rwa [told],
            by rw [told]; exact List.subset_append_left _ _⟩
        · obtain ⟨cleared', other, among, kept⟩ := ih later
          exact ⟨cleared', other, among, fun _ own => List.mem_append_right _ (kept own)⟩

/-- If each walk tells of the call that it is, the calls for the modules are told in turn. -/
theorem successive_visitEach {chain : List String}
    (tells : ∀ cleared name,
      ⟨chain, cleared, name, (walk cleared name).1⟩ ∈ (walk cleared name).2) :
    Successive (visitEach walk start names).2 chain start.2 names := by
  induction names generalizing start with
  | nil => exact .done
  | cons name names ih =>
      obtain ⟨below, cleared⟩ := start
      have own := tells cleared name
      rw [visitEach]
      generalize walk cleared name = told at own ⊢
      rcases told with ⟨error | ⟨height, left⟩, visits⟩
      · exact .failed own
      · exact .next (List.mem_append_left _ own) (ih.mono (List.subset_append_right _ _))

end walk

section followed

variable {budget : Nat} {chain : List String} {cleared : List (String × Nat)} {name : String}

/-- A walk tells of the call that it is. -/
theorem mem_visit (table : ModuleTable) (maxDepth budget : Nat) (chain : List String)
    (cleared : List (String × Nat)) (name : String) :
    ⟨chain, cleared, name, (table.visit maxDepth budget chain cleared name).1⟩ ∈
      (table.visit maxDepth budget chain cleared name).2 := by
  unfold visit
  exact List.mem_append_right _ (List.mem_singleton_self _)

/-- The calls of a walk are followed by those of their modules if its further calls are. -/
theorem isFollowed_of_calls (depth : chain.length + budget = maxDepth)
    (further : ∀ below, budget = below + 1 → ∀ cleared nested,
      ∀ visit ∈ (table.visit maxDepth below (chain ++ [name]) cleared nested).2,
        visit.IsFollowed table maxDepth
          (table.visit maxDepth below (chain ++ [name]) cleared nested).2) :
    ∀ visit ∈ (table.visit maxDepth budget chain cleared name).2,
      visit.IsFollowed table maxDepth (table.visit maxDepth budget chain cleared name).2 := by
  have ending := ending_visit table maxDepth budget chain cleared name
  generalize table.visit maxDepth budget chain cleared name = walk at ending ⊢
  intro visit member
  cases ending with
  | recalled remembered =>
      rw [List.mem_singleton.mp member]
      intro opens
      exact absurd (remembered.symm.trans opens.forgotten) (Option.some_ne_none _)
  | failed unread =>
      rw [List.mem_singleton.mp member]
      intro opens names calls
      rcases unread with among | none | fault
      · exact absurd among opens.fresh
      · exact absurd depth (Nat.ne_of_lt (none ▸ opens.room))
      · cases calls.symm.trans fault
  | called forgotten calls each =>
      subst each
      rcases List.mem_append.mp member with nested | own
      · obtain ⟨cleared', other, within, kept⟩ := exists_walk_of_mem_visitEach nested
        exact (further _ rfl cleared' other visit within).mono
          fun _ told => List.mem_append_left _ (kept told)
      · rw [List.mem_singleton.mp own]
        intro _ names' calls'
        cases calls.symm.trans calls'
        exact (successive_visitEach fun cleared nested => mem_visit _ _ _ _ _ _).mono
          (List.subset_append_left _ _)

/-- All calls of a walk are followed by those of their modules. The induction is on the budget,
which falls with each module on the chain. -/
theorem isFollowed_visit (depth : chain.length + budget = maxDepth) :
    ∀ visit ∈ (table.visit maxDepth budget chain cleared name).2,
      visit.IsFollowed table maxDepth (table.visit maxDepth budget chain cleared name).2 := by
  induction budget generalizing chain cleared name with
  | zero => exact isFollowed_of_calls depth (by simp)
  | succ budget ih =>
      refine isFollowed_of_calls depth ?_
      intro below less cleared nested
      cases less
      apply ih
      rw [List.length_append, List.length_singleton]
      omega

end followed

end StepSheet.ModuleTable
