import StepSheet.Module.Table

/-!
# References between modules

A step of a module may call a module in turn. Before a module runs, the modules
it reaches are walked: each has to expand, none may call itself through others,
and calls may not be nested deeper than allowed. A module that has been walked
to the end is not walked again where its height is known to fit.
-/

namespace StepSheet.ModuleTable

/-- The module that a row calls, if its action is such a call. -/
def called? (row : StepRow) : Option String :=
  match row.declared with
  | .ok (.callModule name) => some name
  | _ => none

/-- The modules that the rows of a module call, in order. -/
def calls (table : ModuleTable) (name : String) : Except StepError (List String) :=
  (table.expand name).map fun rows => rows.filterMap called?

/-- The height of the tree of calls below a module, itself included. `chain` holds
the modules that are being walked, outermost first, and `budget` how many more
may be nested. -/
def height (table : ModuleTable) (maxDepth : Nat) (budget : Nat) (chain : List String)
    (name : String) : Except StepError Nat :=
  if name ∈ chain then .error (.moduleCycle (chain ++ [name]))
  else match budget with
    | 0 => .error (.moduleTooDeep name maxDepth)
    | budget + 1 => do
      let below ← (← table.calls name).foldlM
        (fun below nested => do
          return max below (← table.height maxDepth budget (chain ++ [name]) nested)) 0
      return below + 1

/-- The height of the tree of calls below a module, and the heights of the modules
walked to the end: those in `cleared` and those walked now. -/
def clear (table : ModuleTable) (maxDepth : Nat) (budget : Nat) (chain : List String)
    (cleared : List (String × Nat)) (name : String) :
    Except StepError (Nat × List (String × Nat)) :=
  match (cleared.lookup name).filter fun height => chain.length + height ≤ maxDepth with
  | some height => .ok (height, cleared)
  | none =>
    if name ∈ chain then .error (.moduleCycle (chain ++ [name]))
    else match budget with
      | 0 => .error (.moduleTooDeep name maxDepth)
      | budget + 1 => do
        let (below, cleared) ← (← table.calls name).foldlM
          (fun (below, cleared) nested => do
            let (height, cleared) ← table.clear maxDepth budget (chain ++ [name]) cleared nested
            return (max below height, cleared)) (0, cleared)
        return (below + 1, (name, below + 1) :: cleared)

/-- Whether all modules reached from a module expand, without a cycle and at most
`maxDepth` of them nested; the first fault found otherwise. -/
def checkReferences (table : ModuleTable) (name : String) (maxDepth : Nat) :
    Except StepError Unit :=
  (table.clear maxDepth maxDepth [] [] name).map fun _ => ()

end StepSheet.ModuleTable
