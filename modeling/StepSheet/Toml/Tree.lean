import StepSheet.Data.Basic

/-!
# Putting a TOML document together

Tables come about in three ways: by a header of their own, as parents in the
header of another table, or by dotted keys. A header may take up a table that so
far was a parent only, once; dotted keys may not reach into a table that has a
header, and no name is given twice. Within an array of tables a path leads to the
last of them.
-/

namespace StepSheet.Toml

/-- How a table came about. -/
inductive Origin where
  | header
  | parent
  | dotted
deriving DecidableEq

/-- A part of a document in the making: a value, a table, or an array of tables. -/
inductive Node where
  | leaf (value : Data)
  | table (origin : Origin) (entries : List (String × Node))
  | tables (items : List Node)

abbrev Entries := List (String × Node)

/-- The entries with another node under a key; a new key goes to the end. -/
def put (key : String) (node : Node) : Entries → Entries
  | [] => [(key, node)]
  | entry :: entries =>
    if entry.1 = key then (key, node) :: entries else entry :: put key node entries

/-- The entries after a change of the table at the end of a path. Tables that are
missing on the way are made. The change is told whether dotted keys made the table. -/
def within (dotted : Bool) (change : Bool → Entries → Option Entries) (byDots : Bool) :
    List String → Entries → Option Entries
  | [], entries => change byDots entries
  | key :: path, entries =>
    match entries.lookup key with
    | none => do
      let below ← within dotted change dotted path []
      return put key (.table (if dotted then .dotted else .parent) below) entries
    | some (.leaf _) => none
    | some (.table origin below) =>
      if dotted ∧ origin = .header then none
      else do
        let below ← within dotted change (origin = .dotted) path below
        return put key (.table origin below) entries
    | some (.tables items) =>
      match items.reverse with
      | .table origin below :: before => do
        let below ← within dotted change false path below
        return put key (.tables (.table origin below :: before).reverse) entries
      | _ => none

/-- The entries of a table with one more value under a path of keys. -/
def assign (path : List String) (key : String) (value : Data) (entries : Entries) :
    Option Entries :=
  let dotted := !path.isEmpty
  within dotted (fun byDots entries =>
    if byDots ≠ dotted ∨ (entries.lookup key).isSome then none
    else some (entries ++ [(key, .leaf value)])) false path entries

/-- A header: the path to its table, the last key, and whether the table is one of
an array. -/
structure Header where
  path : List String
  key : String
  inArray : Bool

/-- A document in the making: what is complete, and the table at whose end it is. -/
structure Draft where
  root : Entries
  header : Option Header
  current : Entries

namespace Draft

def empty : Draft := ⟨[], none, []⟩

/-- The draft with one more value in the table at its end. -/
def assign (draft : Draft) (path : List String) (key : String) (value : Data) : Option Draft :=
  (Toml.assign path key value draft.current).map fun current => { draft with current }

/-- The whole of the draft. -/
def finish (draft : Draft) : Option Entries :=
  match draft.header with
  | none => some draft.current
  | some header =>
    within false (fun _ entries =>
      let table := Node.table .header draft.current
      if header.inArray then
        match entries.lookup header.key with
        | none => some (put header.key (.tables [table]) entries)
        | some (.tables items) => some (put header.key (.tables (items ++ [table])) entries)
        | _ => none
      else some (put header.key table entries)) false header.path draft.root

/-- The draft behind a header. -/
def start (draft : Draft) (header : Header) : Option Draft := do
  let root ← draft.finish
  let root ← within false (fun _ entries => some entries) false header.path root
  let found ← find? header.path root
  match found.lookup header.key with
  | none => return ⟨root, some header, []⟩
  | some (.tables _) => if header.inArray then return ⟨root, some header, []⟩ else none
  | some (.table .parent entries) =>
    if header.inArray then none else return ⟨root, some header, entries⟩
  | _ => none
where
  /-- The entries of the table at the end of a path. -/
  find? : List String → Entries → Option Entries
    | [], entries => some entries
    | key :: path, entries =>
      match entries.lookup key with
      | some (.table _ below) => find? path below
      | some (.tables items) =>
        match items.getLast? with
        | some (.table _ below) => find? path below
        | _ => none
      | _ => none

end Draft

mutual

def Node.toData : Node → Data
  | .leaf value => value
  | .table _ entries => .object (membersOf entries)
  | .tables items => .array (itemsOf items)

/-- The entries of a table as members in the order of their names. -/
def membersOf : List (String × Node) → List (String × Data)
  | [] => []
  | (key, node) :: entries => Data.place (key, node.toData) (membersOf entries)

/-- The tables of an array as data. -/
def itemsOf : List Node → List Data
  | [] => []
  | node :: nodes => node.toData :: itemsOf nodes

end

end StepSheet.Toml
