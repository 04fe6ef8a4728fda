import Mathlib.Data.List.Nodup
import StepSheet.Data.OrderedMap
import StepSheet.Proofs.Module.Calls

/-!
# The calls of a check

A check of references walks from module to module, and every call finds some modules on the
chain and some heights remembered. What is remembered are the lengths of the longest paths of
references. A module that is remembered has nothing below it that is on the chain, so where it
is called again and does not fit, the one thing that can be found is that the calls are nested
too deep. Hence no module is walked to its end twice.
-/

namespace StepSheet.ModuleTable

open Relation

variable {table : ModuleTable} {maxDepth : Nat}

/-! ### Exact heights -/

/-- The height of a tree of calls is the length of the longest path of references in it, and
every module in it expands. -/
theorem hasHeight_iff {name : String} {height : Nat} :
    table.HasHeight name height ↔
      (∀ reached, ReflTransGen table.References name reached →
        ∃ rows, table.expand reached = .ok rows) ∧
      IsGreatest {n | ∃ path, List.IsChain table.References (name :: path) ∧
        (name :: path).length = n} height := by
  constructor
  · rintro ⟨bounded, least⟩
    obtain ⟨expand, short⟩ := bounded_iff.mp bounded
    refine ⟨expand, ?_, fun n ⟨path, walk, size⟩ => size ▸ short path walk⟩
    by_contra none
    -- If no path had this length, one less would be a bound.
    have lower : table.Bounded (height - 1) name := by
      refine bounded_iff.mpr ⟨expand, fun path walk => ?_⟩
      have bound := short path walk
      have other : (name :: path).length ≠ height := fun same => none ⟨path, walk, same⟩
      omega
    have positive : 0 < height := by
      cases height with
      | zero => exact bounded.elim
      | succ height => exact Nat.succ_pos height
    have bound := least lower
    omega
  · rintro ⟨expand, ⟨path, walk, size⟩, longest⟩
    refine ⟨bounded_iff.mpr ⟨expand, fun other onward => longest ⟨other, onward, rfl⟩⟩, ?_⟩
    intro n bounded
    exact size ▸ (bounded_iff.mp bounded).2 path walk

/-- No module that is reached from one whose calls are bounded has led to it. -/
theorem not_mem_of_bounded {n : Nat} {chain : List String} {name : String}
    (bounded : table.Bounded n name)
    (path : List.IsChain table.References (chain ++ [name])) {reached : String}
    (reach : ReflTransGen table.References name reached) : reached ∉ chain := by
  intro member
  exact bounded.irrefl (TransGen.trans_right reach (transGen_of_isChain path member))

/-- A tree that is bounded, but not by the budget, is nested too deep for it. -/
theorem height_eq_tooDeep (maxDepth : Nat) {budget n : Nat} {chain : List String} {name : String}
    (bounded : table.Bounded n name) (high : ¬ table.Bounded budget name)
    (path : List.IsChain table.References (chain ++ [name])) :
    ∃ deepest, table.height maxDepth budget chain name =
      .error (.moduleTooDeep deepest maxDepth) := by
  induction budget generalizing chain name n with
  | zero =>
      have fresh : name ∉ chain := not_mem_of_bounded bounded path .refl
      exact ⟨name, height_zero fresh⟩
  | succ budget ih =>
      have fresh : name ∉ chain := not_mem_of_bounded bounded path .refl
      have whole : table.height maxDepth (budget + 1) chain name = _ := height_succ fresh
      obtain ⟨rows, expanded⟩ := bounded.expands
      have hcalls := calls_eq_ok_iff.mpr ⟨rows, expanded, rfl⟩
      rw [hcalls] at whole
      simp only [Except.bind] at whole
      cases hbelow : highest (table.height maxDepth budget (chain ++ [name])) 0
          (rows.filterMap called?) with
      | ok below =>
          rw [hbelow] at whole
          obtain ⟨known, room⟩ := hasHeight_of_height whole
          exact absurd (known.1.mono room) high
      | error error =>
          obtain ⟨nested, member, fault⟩ := exists_error_of_highest hbelow
          have call := (references_iff_mem hcalls).mpr member
          have onward := isChain_snoc path call
          have deep : ¬ table.Bounded budget nested := by
            intro fits
            obtain ⟨found, hfound⟩ := exists_height_of_bounded maxDepth fits onward
            rw [hfound] at fault
            cases fault
          obtain ⟨m, -, below⟩ := bounded.exists_lt (.single call)
          obtain ⟨deepest, same⟩ := ih below deep onward
          rw [same] at fault
          cases fault
          exact ⟨deepest, by rw [whole, hbelow]; rfl⟩

/-! ### What a call finds -/

theorem Agrees.recalls {found : Nat × List (String × Nat)} {plain : Except StepError Nat}
    (h : table.Agrees (.ok found) plain) : table.Recalls found.2 := by
  cases h with
  | height recalls => exact recalls

/-- A call that is made on a path of references, below some modules, with right memories; it
ends as the walk does. -/
structure Visit.IsSound (table : ModuleTable) (maxDepth : Nat) (below : List String)
    (visit : Visit) : Prop where
  recalls : table.Recalls visit.cleared
  path : List.IsChain table.References (visit.chain ++ [visit.name])
  onward : ∀ earlier ∈ below, earlier ∈ visit.chain
  depth : visit.chain.length ≤ maxDepth
  result : visit.result = table.clear maxDepth (maxDepth - visit.chain.length) visit.chain
    visit.cleared visit.name

/-- The call walks its module to the end. -/
def Visit.completes (maxDepth : Nat) (visit : Visit) : Bool :=
  (recalled maxDepth visit.chain visit.cleared visit.name).isNone && visit.result.isOk

theorem Visit.completes_error (maxDepth : Nat) {chain : List String}
    {cleared : List (String × Nat)} {name : String} {error : StepError} :
    Visit.completes maxDepth ⟨chain, cleared, name, .error error⟩ = false := by
  simp [Visit.completes, Except.isOk, Except.toBool]

theorem Visit.completes_ok {chain : List String} {cleared : List (String × Nat)} {name : String}
    {found : Nat × List (String × Nat)} (forgotten : recalled maxDepth chain cleared name = none) :
    Visit.completes maxDepth ⟨chain, cleared, name, .ok found⟩ := by
  simp [Visit.completes, forgotten, Except.isOk, Except.toBool]

namespace Visit.IsSound

variable {below : List String} {visit : Visit}

/-- A remembered module that does not fit is nested too deep. -/
theorem result_eq_tooDeep (h : visit.IsSound table maxDepth below) {height : Nat}
    (known : visit.cleared.lookup visit.name = some height)
    (high : maxDepth < visit.chain.length + height) :
    ∃ deepest, visit.result = .error (.moduleTooDeep deepest maxDepth) := by
  obtain ⟨bounded, least⟩ := h.recalls _ _ known
  have short : ¬ table.Bounded (maxDepth - visit.chain.length) visit.name := by
    intro fits
    have bound := least fits
    have room := h.depth
    omega
  obtain ⟨deepest, plain⟩ := height_eq_tooDeep maxDepth bounded short h.path
  have agrees := agrees_clear h.recalls h.path (Nat.add_sub_cancel' h.depth)
  rw [plain, ← h.result] at agrees
  generalize visit.result = result at agrees ⊢
  cases agrees with
  | fault => exact ⟨deepest, rfl⟩

/-- What is remembered after a call is right. -/
theorem recalls_result (h : visit.IsSound table maxDepth below)
    {found : Nat × List (String × Nat)} (ended : visit.result = .ok found) :
    table.Recalls found.2 := by
  have agrees := agrees_clear h.recalls h.path (Nat.add_sub_cancel' h.depth)
  rw [← h.result, ended] at agrees
  exact agrees.recalls

/-- A module that is walked to its end is not on the chain, and has not been remembered. -/
theorem fresh_of_completes (h : visit.IsSound table maxDepth below)
    (completes : visit.completes maxDepth) :
    visit.name ∉ visit.chain ∧ visit.name ∉ visit.cleared.map Prod.fst := by
  simp only [Visit.completes, Bool.and_eq_true, Option.isNone_iff_eq_none] at completes
  obtain ⟨forgotten, ended⟩ := completes
  constructor
  · intro member
    rw [h.result, clear_of_mem forgotten member] at ended
    cases ended
  · intro member
    obtain ⟨height, known⟩ := Option.isSome_iff_exists.mp (Entries.isSome_lookup.mpr member)
    have high : maxDepth < visit.chain.length + height := by
      have unfit := Option.filter_eq_none_iff.mp forgotten height known
      simpa using unfit
    obtain ⟨deepest, fault⟩ := h.result_eq_tooDeep known high
    rw [fault] at ended
    cases ended

end Visit.IsSound

/-! ### The calls of a whole walk -/

def walked (maxDepth : Nat) (visits : List Visit) : List String :=
  (visits.filter (Visit.completes maxDepth)).map Visit.name

theorem walked_append (maxDepth : Nat) (visits more : List Visit) :
    walked maxDepth (visits ++ more) = walked maxDepth visits ++ walked maxDepth more := by
  simp [walked]

theorem walked_of_completes {visit : Visit} (completes : visit.completes maxDepth) :
    walked maxDepth [visit] = [visit.name] := by
  simp [walked, completes]

theorem walked_of_incomplete {visit : Visit} (incomplete : visit.completes maxDepth = false) :
    walked maxDepth [visit] = [] := by
  simp [walked, incomplete]

/-- Calls below a module do not walk it to its end. -/
theorem not_mem_walked {below : List String} {visits : List Visit}
    (sound : ∀ visit ∈ visits, visit.IsSound table maxDepth below) {name : String}
    (member : name ∈ below) : name ∉ walked maxDepth visits := by
  intro twice
  obtain ⟨visit, among, rfl⟩ := List.mem_map.mp twice
  obtain ⟨within, completes⟩ := List.mem_filter.mp among
  have deeper := sound visit within
  exact (deeper.fresh_of_completes completes).1 (deeper.onward _ member)

/-- What is remembered is right, and remembered once. -/
structure IsMemory (table : ModuleTable) (cleared : List (String × Nat)) : Prop where
  recalls : table.Recalls cleared
  distinct : (cleared.map Prod.fst).Nodup

/-- All that is known of a walk and its calls: the calls are sound, and what is remembered at
the end are the modules walked to the end, each of them new, and those remembered before. -/
structure Accounts (table : ModuleTable) (maxDepth : Nat) (chain : List String)
    (cleared : List (String × Nat))
    (walk : Except StepError (Nat × List (String × Nat)) × List Visit) : Prop where
  sound : ∀ visit ∈ walk.2, visit.IsSound table maxDepth chain
  fresh : ((walked maxDepth walk.2).reverse ++ cleared.map Prod.fst).Nodup
  recalls : ∀ found, walk.1 = .ok found → table.Recalls found.2
  keys : ∀ found, walk.1 = .ok found →
    found.2.map Prod.fst = (walked maxDepth walk.2).reverse ++ cleared.map Prod.fst

theorem IsMemory.cons {cleared : List (String × Nat)} {name : String} {height : Nat}
    (memory : table.IsMemory cleared) (known : table.HasHeight name height)
    (new : name ∉ cleared.map Prod.fst) : table.IsMemory ((name, height) :: cleared) :=
  ⟨memory.recalls.cons known, List.nodup_cons.mpr ⟨new, memory.distinct⟩⟩

namespace Accounts

variable {chain : List String} {cleared : List (String × Nat)} {name : String}
  {result : Except StepError (Nat × List (String × Nat))} {visits : List Visit}

theorem isMemory_of_ok {found : Nat × List (String × Nat)}
    (h : table.Accounts maxDepth chain cleared (.ok found, visits)) : table.IsMemory found.2 :=
  ⟨h.recalls found rfl, by rw [h.keys found rfl]; exact h.fresh⟩

/-- A call that makes no further one and does not walk its module to the end. -/
theorem singleton_of_incomplete (memory : table.IsMemory cleared)
    (sound : Visit.IsSound table maxDepth chain ⟨chain, cleared, name, result⟩)
    (quiet : ∀ found, result = .ok found → found.2 = cleared)
    (incomplete : Visit.completes maxDepth ⟨chain, cleared, name, result⟩ = false) :
    table.Accounts maxDepth chain cleared (result, [⟨chain, cleared, name, result⟩]) := by
  have none := walked_of_incomplete incomplete
  refine ⟨by simpa using sound, ?_, fun found ended => sound.recalls_result ended,
    fun found ended => ?_⟩
  · rw [none]
    exact memory.distinct
  · rw [none, quiet found ended]
    rfl

/-- A call whose further calls are accounted for. -/
theorem concat_of_calls {told : Except StepError (Nat × List (String × Nat))}
    (inner : table.Accounts maxDepth (chain ++ [name]) cleared (told, visits))
    (forgotten : recalled maxDepth chain cleared name = none)
    (same : (told.map fun found => (found.1 + 1, (name, found.1 + 1) :: found.2)) = result)
    (sound : Visit.IsSound table maxDepth chain ⟨chain, cleared, name, result⟩) :
    table.Accounts maxDepth chain cleared
      (result, visits ++ [⟨chain, cleared, name, result⟩]) := by
  have all : ∀ visit ∈ visits ++ [⟨chain, cleared, name, result⟩],
      visit.IsSound table maxDepth chain := by
    intro visit member
    rcases List.mem_append.mp member with earlier | last
    · have deeper := inner.sound visit earlier
      exact { deeper with
        onward := fun other among => deeper.onward other (List.mem_append_left _ among) }
    · rw [List.mem_singleton.mp last]
      exact sound
  cases told with
  | error error =>
      have fault : .error error = result := same
      subst fault
      refine ⟨all, ?_, by simp, by simp⟩
      rw [walked_append, walked_of_incomplete (Visit.completes_error maxDepth), List.append_nil]
      exact inner.fresh
  | ok found =>
      have height : .ok (found.1 + 1, (name, found.1 + 1) :: found.2) = result := same
      subst height
      have completes : Visit.completes maxDepth ⟨chain, cleared, name,
          .ok (found.1 + 1, (name, found.1 + 1) :: found.2)⟩ :=
        Visit.completes_ok forgotten
      have whole : (walked maxDepth (visits ++ [⟨chain, cleared, name,
          .ok (found.1 + 1, (name, found.1 + 1) :: found.2)⟩])).reverse ++ cleared.map Prod.fst =
            name :: ((walked maxDepth visits).reverse ++ cleared.map Prod.fst) := by
        simp [walked_append, walked_of_completes completes]
      -- The module is on the chain of all further calls, so none of them walks it to its end.
      have later : name ∉ walked maxDepth visits := not_mem_walked inner.sound (by simp)
      have new : name ∉ (walked maxDepth visits).reverse ++ cleared.map Prod.fst := by
        rw [List.mem_append, List.mem_reverse]
        exact not_or.mpr ⟨later, (sound.fresh_of_completes completes).2⟩
      refine ⟨all, ?_, fun other ended => sound.recalls_result ended, fun other ended => ?_⟩
      · exact whole ▸ List.nodup_cons.mpr ⟨new, inner.fresh⟩
      · cases ended
        exact (congrArg (name :: ·) (inner.keys found rfl)).trans whole.symm

end Accounts

theorem accounts_visitEach
    {walk : List (String × Nat) → String →
      Except StepError (Nat × List (String × Nat)) × List Visit} {names : List String}
    {chain : List String}
    (step : ∀ name ∈ names, ∀ cleared, table.IsMemory cleared →
      table.Accounts maxDepth chain cleared (walk cleared name))
    {cleared : List (String × Nat)} (memory : table.IsMemory cleared) (start : Nat) :
    table.Accounts maxDepth chain cleared (visitEach walk (start, cleared) names) := by
  induction names generalizing start cleared with
  | nil =>
      refine ⟨by simp [visitEach], by simpa [visitEach, walked] using memory.distinct, ?_, ?_⟩
      · rintro found ⟨⟩
        exact memory.recalls
      · rintro found ⟨⟩
        rfl
  | cons name names ih =>
      have first := step name (by simp) cleared memory
      rw [visitEach]
      generalize walk cleared name = told at first ⊢
      rcases told with ⟨error | ⟨height, cleared'⟩, visits⟩
      · exact ⟨first.sound, first.fresh, by simp, by simp⟩
      · have later := ih (fun other member => step other (by simp [member])) first.isMemory_of_ok
          (max start height)
        have keys : cleared'.map Prod.fst = _ := first.keys _ rfl
        have whole : (walked maxDepth (visits ++ (visitEach walk (max start height, cleared')
            names).2)).reverse ++ cleared.map Prod.fst =
              (walked maxDepth (visitEach walk (max start height, cleared') names).2).reverse ++
                cleared'.map Prod.fst := by
          rw [walked_append, List.reverse_append, List.append_assoc, keys]
        refine ⟨?_, ?_, later.recalls, fun found ended => ?_⟩
        · intro visit member
          exact (List.mem_append.mp member).elim (first.sound visit) (later.sound visit)
        · rw [whole]
          exact later.fresh
        · rw [whole]
          exact later.keys found ended

section visits

variable {budget : Nat} {chain : List String} {cleared : List (String × Nat)} {name : String}

theorem isSound_visit (recalls : table.Recalls cleared)
    (path : List.IsChain table.References (chain ++ [name]))
    (depth : chain.length + budget = maxDepth) : Visit.IsSound table maxDepth chain
      ⟨chain, cleared, name, (table.visit maxDepth budget chain cleared name).1⟩ := by
  refine ⟨recalls, path, fun _ member => member, depth ▸ Nat.le_add_right _ _, ?_⟩
  rw [fst_visit, ← depth, Nat.add_sub_cancel_left]

/-- A call that fails at once. -/
theorem Accounts.singleton_of_error {error : StepError} (memory : table.IsMemory cleared)
    (sound : Visit.IsSound table maxDepth chain ⟨chain, cleared, name, .error error⟩) :
    table.Accounts maxDepth chain cleared
      (.error error, [⟨chain, cleared, name, .error error⟩]) :=
  .singleton_of_incomplete memory sound (by simp) (Visit.completes_error maxDepth)

/-- A call accounts for what it remembers if its further calls do. -/
theorem accounts_of_calls (memory : table.IsMemory cleared)
    (path : List.IsChain table.References (chain ++ [name]))
    (depth : chain.length + budget = maxDepth)
    (further : ∀ below names, budget = below + 1 → table.calls name = .ok names →
      ∀ nested ∈ names, ∀ cleared, table.IsMemory cleared →
        table.Accounts maxDepth (chain ++ [name]) cleared
          (table.visit maxDepth below (chain ++ [name]) cleared nested)) :
    table.Accounts maxDepth chain cleared
      (table.visit maxDepth budget chain cleared name) := by
  have sound := isSound_visit memory.recalls path depth
  have ending := ending_visit table maxDepth budget chain cleared name
  generalize table.visit maxDepth budget chain cleared name = walk at sound ending ⊢
  cases ending with
  | @recalled budget height remembered =>
      have incomplete :
          Visit.completes maxDepth ⟨chain, cleared, name, .ok (height, cleared)⟩ = false := by
        simp [Visit.completes, remembered]
      exact .singleton_of_incomplete memory sound (by simp) incomplete
  | failed => exact .singleton_of_error memory sound
  | called forgotten calls each ends =>
      subst each
      have inner := accounts_visitEach (further _ _ rfl calls) memory 0
      exact inner.concat_of_calls forgotten ends sound

/-- A walk on a path of references with right memories accounts for what it remembers. -/
theorem accounts_visit (memory : table.IsMemory cleared)
    (path : List.IsChain table.References (chain ++ [name]))
    (depth : chain.length + budget = maxDepth) :
    table.Accounts maxDepth chain cleared
      (table.visit maxDepth budget chain cleared name) := by
  induction budget generalizing chain cleared name with
  | zero => exact accounts_of_calls memory path depth (by simp)
  | succ budget ih =>
      refine accounts_of_calls memory path depth ?_
      intro below names less hcalls nested called cleared memory
      cases less
      apply ih memory (isChain_snoc path ((references_iff_mem hcalls).mpr called))
      rw [List.length_append, List.length_singleton]
      omega

end visits

def checkVisits (table : ModuleTable) (name : String) (maxDepth : Nat) :
    Except StepError (Nat × List (String × Nat)) × List Visit :=
  table.visit maxDepth maxDepth [] [] name

/-- Every call of a check is a call of the walk, and no call is left out: the first one is among
them, and where one reads its module, so are the calls that the module makes, one after the
other. All heights that are remembered, before a call and after it, are the lengths of the
longest paths of references, where all that is reached expands. A module that is called while it
is remembered reaches nothing on the chain; if its height does not fit, the call ends with calls
nested too deep. No module is walked to its end twice. -/
theorem check_walks_each_module_once (table : ModuleTable) (name : String) (maxDepth : Nat) :
    (table.checkVisits name maxDepth).1.map (fun _ => ()) = table.checkReferences name maxDepth ∧
      ⟨[], [], name, (table.checkVisits name maxDepth).1⟩ ∈ (table.checkVisits name maxDepth).2 ∧
      (∀ visit ∈ (table.checkVisits name maxDepth).2,
        visit.result = table.clear maxDepth (maxDepth - visit.chain.length) visit.chain
          visit.cleared visit.name ∧
        visit.IsFollowed table maxDepth (table.checkVisits name maxDepth).2 ∧
        (∀ cleared, (cleared = visit.cleared ∨ ∃ height, visit.result = .ok (height, cleared)) →
          ∀ known height, cleared.lookup known = some height →
            (∀ reached, ReflTransGen table.References known reached →
              ∃ rows, table.expand reached = .ok rows) ∧
            IsGreatest {n | ∃ path, List.IsChain table.References (known :: path) ∧
              (known :: path).length = n} height) ∧
        ∀ height, visit.cleared.lookup visit.name = some height →
          (∀ reached, ReflTransGen table.References visit.name reached →
            reached ∉ visit.chain) ∧
          (maxDepth < visit.chain.length + height →
            ∃ deepest, visit.result = .error (.moduleTooDeep deepest maxDepth))) ∧
      (walked maxDepth (table.checkVisits name maxDepth).2).Nodup := by
  have memory : table.IsMemory [] := ⟨.nil, List.nodup_nil⟩
  have accounts : table.Accounts maxDepth [] [] (table.checkVisits name maxDepth) :=
    accounts_visit memory (.singleton name) (by simp)
  have followed : ∀ visit ∈ (table.checkVisits name maxDepth).2,
      visit.IsFollowed table maxDepth (table.checkVisits name maxDepth).2 :=
    isFollowed_visit (Nat.zero_add maxDepth)
  refine ⟨?_, mem_visit table maxDepth maxDepth [] [] name, fun visit member => ?_, ?_⟩
  · rw [checkVisits, fst_visit, checkReferences]
  · have sound := accounts.sound visit member
    refine ⟨sound.result, followed visit member, fun cleared here known height stands => ?_,
      fun height stands => ?_⟩
    · have recalls : table.Recalls cleared := by
        rcases here with rfl | ⟨found, ended⟩
        · exact sound.recalls
        · exact sound.recalls_result ended
      exact hasHeight_iff.mp (recalls known height stands)
    · refine ⟨fun reached reach => ?_, fun high => sound.result_eq_tooDeep stands high⟩
      exact not_mem_of_bounded (sound.recalls _ height stands).1 sound.path reach
  · simpa using accounts.fresh

-- `B` and `D` are walked to their ends once; on the way through `C` the height of `B` fits.
example : walked 4 (twoPaths.checkVisits "A" 4).2 = ["D", "B", "C", "A"] := by
  decide +kernel

end StepSheet.ModuleTable
