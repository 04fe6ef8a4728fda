import StepSheet.Proofs.Dispatch.Closing

/-!
# The steps of a dispatch

A dispatch executes leaves, one after the other, up to the first that fails. Each of
them meets the world that the one before it has left. So the trace of a dispatch is
that of its steps, its outcomes are theirs, and it fails exactly when one of them does.
-/

namespace StepSheet.Dispatch

variable {ε : Type} {E : Environment ε} {ctx : Context} {testCase : String}

/-- The steps of items that are carried out in order. Those behind a failure are not
reached. -/
def stepsInOrder {α : Type} (run : α → World ε → Except StepFailure Unit × World ε)
    (steps : α → World ε → List (Frame ε)) : List α → World ε → List (Frame ε)
  | [], _ => []
  | first :: rest, w =>
    steps first w ++
      match run first w with
      | (.ok (), w) => stepsInOrder run steps rest w
      | (.error _, _) => []

/-- The steps that a row stands for, each with the world that it meets. -/
def stepsIn (E : Environment ε) (ctx : Context) (testCase : String) (budget : Nat)
    (scope : Option String) (row : StepRow) (w : World ε) : List (Frame ε) :=
  match row.declared with
  | .ok (.callModule name) =>
    match budget with
    | 0 => [⟨0, scope, row, w⟩]
    | budget + 1 =>
      match resolve ctx scope name with
      | .error _ => [⟨budget + 1, scope, row, w⟩]
      | .ok rows =>
        stepsInOrder (executeIn E ctx testCase budget (some name))
          (stepsIn E ctx testCase budget (some name)) rows (entered row name rows w)
  | _ => [⟨budget, scope, row, w⟩]

def steps (E : Environment ε) (ctx : Context) (testCase : String) (row : StepRow) (w : World ε) :
    List (Frame ε) :=
  stepsIn E ctx testCase ctx.options.maxModuleDepth none row w

theorem stepsIn_of_isLeaf {frame : Frame ε} (leaf : frame.IsLeaf ctx) :
    stepsIn E ctx testCase frame.budget frame.scope frame.row frame.world = [frame] := by
  obtain ⟨budget, scope, row, w⟩ := frame
  rw [stepsIn]
  split
  · next name call =>
      cases budget with
      | zero => rfl
      | succ budget =>
          obtain ⟨error, fault⟩ := leaf.exists_error call
          change resolve ctx scope name = .error error at fault
          simp only [fault]
  · rfl

theorem stepsIn_of_resolve {budget : Nat} {scope : Option String} {row : StepRow}
    {name : String} {rows : List StepRow} (call : row.declared = .ok (.callModule name))
    (resolved : resolve ctx scope name = .ok rows) (w : World ε) :
    stepsIn E ctx testCase (budget + 1) scope row w =
      stepsInOrder (executeIn E ctx testCase budget (some name))
        (stepsIn E ctx testCase budget (some name)) rows (entered row name rows w) := by
  rw [stepsIn]
  simp only [call, resolved]

/-- A row is a leaf, or it calls a module that can be had. -/
theorem isLeaf_or_resolve (ctx : Context) (budget : Nat) (scope : Option String) (row : StepRow)
    (w : World ε) :
    Frame.IsLeaf ctx ⟨budget, scope, row, w⟩ ∨ ∃ below name rows, budget = below + 1 ∧
      row.declared = .ok (.callModule name) ∧ resolve ctx scope name = .ok rows := by
  by_cases leaf : Frame.IsLeaf ctx ⟨budget, scope, row, w⟩
  · exact .inl leaf
  · simp only [Frame.IsLeaf, not_forall, ne_eq, not_not] at leaf
    obtain ⟨name, rows, call, resolved⟩ := leaf
    cases budget with
    | zero => cases resolved
    | succ budget => exact .inr ⟨budget, name, rows, rfl, call, resolved⟩

/-- What holds of leaves, and of a call if it holds below it, holds of every dispatch. -/
@[elab_as_elim]
theorem dispatch_induction (ctx : Context)
    {motive : Nat → Option String → StepRow → World ε → Prop}
    (leaf : ∀ frame : Frame ε, frame.IsLeaf ctx →
      motive frame.budget frame.scope frame.row frame.world)
    (call : ∀ budget scope row name rows w, row.declared = .ok (.callModule name) →
      resolve ctx scope name = .ok rows → (∀ inner w, motive budget (some name) inner w) →
      motive (budget + 1) scope row w)
    (budget : Nat) (scope : Option String) (row : StepRow) (w : World ε) :
    motive budget scope row w := by
  induction budget generalizing scope row w with
  | zero =>
      rcases isLeaf_or_resolve ctx 0 scope row w with h | ⟨_, _, _, impossible, _⟩
      · exact leaf _ h
      · cases impossible
  | succ budget ih =>
      rcases isLeaf_or_resolve ctx (budget + 1) scope row w with
        h | ⟨_, name, rows, same, called, resolved⟩
      · exact leaf _ h
      · cases same
        exact call budget scope row name rows w called resolved (ih (some name))

/-- Leaves that are executed one after the other from a world, each in a world like the
one that the leaf before it has left, up to the first that fails. -/
inductive Threads (E : Environment ε) (ctx : Context) (testCase : String) :
    World ε → List (Frame ε) → Except StepFailure Unit × World ε → Prop
  | done {v w : World ε} (alike : v.Alike w) : Threads E ctx testCase v [] (.ok (), w)
  | passed {v w : World ε} {frame : Frame ε} {frames : List (Frame ε)}
      {ended : Except StepFailure Unit × World ε} (alike : v.Alike frame.world)
      (leaf : frame.IsLeaf ctx) (run : frame.run E ctx testCase = (.ok (), w))
      (rest : Threads E ctx testCase w frames ended) :
      Threads E ctx testCase v (frame :: frames) ended
  | failed {v w w' : World ε} {frame : Frame ε} {failure : StepFailure}
      (alike : v.Alike frame.world) (leaf : frame.IsLeaf ctx)
      (run : frame.run E ctx testCase = (.error failure, w)) (told : w.Alike w') :
      Threads E ctx testCase v [frame] (.error failure, w')

namespace Threads

variable {v w : World ε} {frames : List (Frame ε)} {result : Except StepFailure Unit}
  {ended : Except StepFailure Unit × World ε}

theorem alike_left (alike : v.Alike w) (h : Threads E ctx testCase w frames ended) :
    Threads E ctx testCase v frames ended := by
  cases h with
  | done alike' => exact .done (alike.trans alike')
  | passed alike' leaf run rest => exact .passed (alike.trans alike') leaf run rest
  | failed alike' leaf run told => exact .failed (alike.trans alike') leaf run told

theorem alike_right (h : Threads E ctx testCase v frames ended) (alike : ended.2.Alike w) :
    Threads E ctx testCase v frames (ended.1, w) := by
  induction h with
  | done alike' => exact .done (alike'.trans alike)
  | passed alike' leaf run _ ih => exact .passed alike' leaf run (ih alike)
  | failed alike' leaf run told => exact .failed alike' leaf run (told.trans alike)

theorem append {more : List (Frame ε)} (h : Threads E ctx testCase v frames (.ok (), w))
    (h' : Threads E ctx testCase w more ended) :
    Threads E ctx testCase v (frames ++ more) ended := by
  generalize same : ((.ok (), w) : Except StepFailure Unit × World ε) = middle at h
  induction h with
  | done alike =>
      cases same
      exact h'.alike_left alike
  | passed alike leaf run _ ih => exact .passed alike leaf run (ih same)
  | failed => cases same

theorem of_isLeaf {frame : Frame ε} (leaf : frame.IsLeaf ctx) :
    Threads E ctx testCase frame.world [frame] (frame.run E ctx testCase) := by
  cases ended : frame.run E ctx testCase with
  | mk result w =>
      cases result with
      | ok _ => exact .passed (.refl _) leaf ended (.done (.refl w))
      | error failure => exact .failed (.refl _) leaf ended (.refl w)

end Threads

/-- Items that each thread their steps do so in order. -/
theorem inOrder_threads {α : Type} {run : α → World ε → Except StepFailure Unit × World ε}
    {steps : α → World ε → List (Frame ε)}
    (each : ∀ item w, Threads E ctx testCase w (steps item w) (run item w)) (items : List α)
    (w : World ε) :
    Threads E ctx testCase w (stepsInOrder run steps items w) (inOrder run items w) := by
  induction items generalizing w with
  | nil => exact .done (.refl w)
  | cons item items ih =>
      have first := each item w
      rw [stepsInOrder, inOrder_cons]
      cases ended : run item w with
      | mk result w' =>
          rw [ended] at first
          cases result with
          | ok _ => exact first.append (ih w')
          | error failure =>
              rw [List.append_nil]
              exact first

/-- A dispatch threads its steps. -/
theorem executeIn_threads (budget : Nat) (scope : Option String) (row : StepRow) (w : World ε) :
    Threads E ctx testCase w (stepsIn E ctx testCase budget scope row w)
      (executeIn E ctx testCase budget scope row w) := by
  induction budget, scope, row, w using dispatch_induction ctx with
  | leaf frame leaf =>
      rw [stepsIn_of_isLeaf leaf]
      exact .of_isLeaf leaf
  | call budget scope row name rows w call resolved ih =>
      rw [stepsIn_of_resolve call resolved, executeIn_of_resolve call resolved]
      have inside : Threads E ctx testCase (entered row name rows w) _ _ :=
        inOrder_threads ih rows (entered row name rows w)
      -- The lines in front of the module and behind it are neither traced nor recorded.
      have alike : w.Alike (entered row name rows w) := ⟨rfl, rfl, rfl⟩
      generalize inOrder (executeIn E ctx testCase budget (some name)) rows
        (entered row name rows w) = ended at inside ⊢
      obtain ⟨failure | _, w'⟩ := ended
      · exact inside.alike_left alike
      · exact (inside.alike_left alike).alike_right ⟨rfl, rfl, rfl⟩

/-! ### What a step adds -/

namespace Frame

def outcome (E : Environment ε) (ctx : Context) (testCase : String) (frame : Frame ε) :
    StepOutcome :=
  .ofResult frame.row (frame.run E ctx testCase).1 (E.now (frame.run E ctx testCase).2.env)

/-- The events of a frame: what its run adds to the trace. -/
def events (E : Environment ε) (ctx : Context) (testCase : String) (frame : Frame ε) :
    List Event :=
  (frame.run E ctx testCase).2.trace.toList.drop frame.world.trace.size

variable {frame : Frame ε}

theorem IsLeaf.tracker_eq (E : Environment ε) (testCase : String) (leaf : frame.IsLeaf ctx) :
    (frame.run E ctx testCase).2.tracker =
      frame.world.tracker.record testCase (frame.outcome E ctx testCase) := by
  obtain ⟨acted, did, env, -, shot, closing, env', -, ended⟩ :=
    leaf.closesFrom E testCase
  rw [outcome, ended.world.tracker, ended.result, ended.world.env]
  rfl

theorem IsLeaf.exists_trace (E : Environment ε) (testCase : String) (leaf : frame.IsLeaf ctx) :
    ∃ acted did env shot closing env', frame.Acted E ctx testCase acted did env ∧
      frame.Shown E ctx testCase env shot closing env' ∧
      (frame.run E ctx testCase).2.trace.toList = frame.world.trace.toList ++
        (did ++ closing ++ [.outcome testCase (frame.outcome E ctx testCase)]) := by
  obtain ⟨acted, did, env, before, shot, closing, env', shown, ended⟩ :=
    leaf.closesFrom E testCase
  refine ⟨acted, did, env, shot, closing, env', before, shown, ?_⟩
  rw [outcome, ended.world.trace, ended.result, ended.world.env]
  simp [closed, World.report]

/-- The events of a step: what is done for its action, its screenshot, its outcome. -/
theorem IsLeaf.exists_events (E : Environment ε) (testCase : String) (leaf : frame.IsLeaf ctx) :
    ∃ acted did env shot closing env', frame.Acted E ctx testCase acted did env ∧
      frame.Shown E ctx testCase env shot closing env' ∧
      frame.events E ctx testCase =
        did ++ closing ++ [.outcome testCase (frame.outcome E ctx testCase)] := by
  obtain ⟨acted, did, env, shot, closing, env', before, shown, trace⟩ :=
    leaf.exists_trace E testCase
  refine ⟨acted, did, env, shot, closing, env', before, shown, ?_⟩
  rw [events, trace, ← Array.length_toList, List.drop_left]

theorem IsLeaf.trace_eq (E : Environment ε) (testCase : String) (leaf : frame.IsLeaf ctx) :
    (frame.run E ctx testCase).2.trace.toList =
      frame.world.trace.toList ++ frame.events E ctx testCase := by
  obtain ⟨_, _, _, _, _, _, _, _, trace⟩ := leaf.exists_trace E testCase
  rw [events, trace, ← Array.length_toList, List.drop_left]

theorem outcome_isFailed_iff :
    (frame.outcome E ctx testCase).isFailed = true ↔ (frame.run E ctx testCase).1 ≠ .ok () :=
  StepOutcome.ofResult_isFailed _ _ _

end Frame

namespace Threads

variable {v : World ε} {frames : List (Frame ε)} {ended : Except StepFailure Unit × World ε}

theorem isLeaf_of_mem (h : Threads E ctx testCase v frames ended) :
    ∀ frame ∈ frames, frame.IsLeaf ctx := by
  induction h with
  | done => simp
  | passed _ leaf _ _ ih => exact List.forall_mem_cons.mpr ⟨leaf, ih⟩
  | failed _ leaf => simpa using leaf

/-- Threads leave the events of their steps. -/
theorem trace_eq (h : Threads E ctx testCase v frames ended) :
    ended.2.trace.toList = v.trace.toList ++ frames.flatMap (Frame.events E ctx testCase) := by
  induction h with
  | done alike => simp [alike.trace]
  | passed alike leaf run _ ih =>
      have first := leaf.trace_eq E testCase
      rw [run] at first
      rw [ih, first, alike.trace, List.flatMap_cons, List.append_assoc]
  | failed alike leaf run told =>
      have last := leaf.trace_eq E testCase
      rw [run] at last
      rw [← told.trace, last, alike.trace, List.flatMap_singleton]

/-- Threads record the outcomes of their steps, and nothing else. -/
theorem tracker_eq (h : Threads E ctx testCase v frames ended) :
    ended.2.tracker = (frames.map (Frame.outcome E ctx testCase)).foldl
      (fun tracker outcome => tracker.record testCase outcome) v.tracker := by
  induction h with
  | done alike => exact alike.tracker.symm
  | passed alike leaf run _ ih =>
      have first := leaf.tracker_eq E testCase
      rw [run] at first
      rw [ih, first, alike.tracker, List.map_cons, List.foldl_cons]
  | failed alike leaf run told =>
      have last := leaf.tracker_eq E testCase
      rw [run] at last
      rw [← told.tracker, last, alike.tracker]
      rfl

/-- Threads go wrong exactly when one of their steps does. -/
theorem result_ne_ok_iff (h : Threads E ctx testCase v frames ended) :
    ended.1 ≠ .ok () ↔
      ∃ outcome ∈ frames.map (Frame.outcome E ctx testCase), outcome.isFailed := by
  induction h with
  | done => simp
  | passed alike leaf run _ ih => simp [ih, Frame.outcome_isFailed_iff, run]
  | failed alike leaf run told => simp [Frame.outcome_isFailed_iff, run]

end Threads

end StepSheet.Dispatch
