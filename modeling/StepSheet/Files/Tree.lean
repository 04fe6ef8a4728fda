import StepSheet.Files.Path
import StepSheet.Run.Screenshot

/-!
# Trees of files

A tree of files tells what is at each place below its root: nothing, a folder or
a file with its bytes. A path is followed name by name, from the root or from the
current folder, and every name but the last has to be that of a folder. The places
are kept in ascending order, so that listing a folder gives its files in the order
of their names.
-/

namespace StepSheet

/-- The names that lead from the root to a place. -/
abbrev Location := List String

/-- What may be at a place. -/
inductive FileEntry where
  | folder
  | file (content : Bytes)
deriving DecidableEq

/-- Why an operation on files fails. -/
inductive FileError where
  | notFound
  | notADirectory
  | isADirectory
  | alreadyExists
  | nameTooLong
  | nulByte
  | notText
deriving DecidableEq

def FileError.message : FileError → String
  | notFound => "No such file or directory (os error 2)"
  | notADirectory => "Not a directory (os error 20)"
  | isADirectory => "Is a directory (os error 21)"
  | alreadyExists => "File exists (os error 17)"
  | nameTooLong => "File name too long (os error 36)"
  | nulByte => "file name contained an unexpected NUL byte"
  | notText => "stream did not contain valid UTF-8"

namespace Entries

/-- An entry put at its place among entries in ascending order; it replaces the one that
is there. -/
def placeAt (place : Location) (entry : FileEntry) :
    List (Location × FileEntry) → List (Location × FileEntry)
  | [] => [(place, entry)]
  | other :: rest =>
    if place < other.1 then (place, entry) :: other :: rest
    else if place = other.1 then (place, entry) :: rest
    else other :: placeAt place entry rest

theorem mem_placeAt {place : Location} {entry : FileEntry} {entries : List (Location × FileEntry)}
    {x : Location × FileEntry} (h : x ∈ placeAt place entry entries) :
    x = (place, entry) ∨ x ∈ entries := by
  induction entries with
  | nil => simpa [placeAt] using h
  | cons other rest ih =>
    unfold placeAt at h
    split at h
    · simpa using h
    · split at h
      · rcases List.mem_cons.1 h with h | h
        · exact .inl h
        · exact .inr (List.mem_cons_of_mem _ h)
      · rcases List.mem_cons.1 h with h | h
        · exact .inr (h ▸ List.mem_cons_self)
        · exact (ih h).imp_right (List.mem_cons_of_mem _)

theorem pairwise_placeAt (place : Location) (entry : FileEntry)
    {entries : List (Location × FileEntry)} (h : entries.Pairwise fun a b => a.1 < b.1) :
    (placeAt place entry entries).Pairwise fun a b => a.1 < b.1 := by
  induction entries with
  | nil => simp [placeAt]
  | cons other rest ih =>
    obtain ⟨front, tail⟩ := List.pairwise_cons.1 h
    unfold placeAt
    split
    · next before =>
      refine List.pairwise_cons.2 ⟨fun x hx => ?_, h⟩
      rcases List.mem_cons.1 hx with rfl | hx
      · exact before
      · exact List.lt_trans before (front x hx)
    · next notBefore =>
      split
      · next same => exact List.pairwise_cons.2 ⟨fun x hx => same ▸ front x hx, tail⟩
      · next other_ne =>
        refine List.pairwise_cons.2 ⟨fun x hx => ?_, ih tail⟩
        rcases mem_placeAt hx with rfl | hx
        · exact List.not_le.1 fun le => other_ne (List.le_antisymm le (List.not_lt.1 notBefore))
        · exact front x hx

end Entries

/-- What is at every place below the root, and the current folder. -/
structure FileTree where
  entries : List (Location × FileEntry)
  here : Location
  ascending : entries.Pairwise fun a b => a.1 < b.1

namespace FileTree

def empty : FileTree := ⟨[], [], .nil⟩

instance : Inhabited FileTree := ⟨empty⟩

def entry? (tree : FileTree) (place : Location) : Option FileEntry :=
  if place = [] then some .folder else tree.entries.lookup place

/-- The tree after something is put at a place. -/
def put (tree : FileTree) (place : Location) (entry : FileEntry) : FileTree :=
  { tree with
    entries := Entries.placeAt place entry tree.entries
    ascending := Entries.pairwise_placeAt place entry tree.ascending }

/-- The folder that names lead to from a place. -/
def follow (tree : FileTree) (place : Location) : List String → Except FileError Location
  | [] => .ok place
  | name :: names =>
    if name = "." then tree.follow place names
    else if name = ".." then tree.follow place.dropLast names
    else if 255 < name.utf8ByteSize then .error .nameTooLong
    else match tree.entry? (place ++ [name]) with
      | some .folder => tree.follow (place ++ [name]) names
      | some (.file _) => .error .notADirectory
      | none => .error .notFound

/-- Where a path ends: in a folder that is there, or at a name in such a folder. -/
inductive Target where
  | folder (place : Location)
  | name (parent : Location) (name : String) (slash : Bool)
deriving DecidableEq

/-- Where a path ends. `slash` tells whether a slash follows the last name. -/
def target (tree : FileTree) (path : Path) : Except FileError Target :=
  let names := (Text.splitOn '/' path.text).filter (· ≠ "")
  if path.text.toList.contains '\x00' then .error .nulByte
  else if path.isEmpty then .error .notFound
  else if 4096 ≤ path.text.utf8ByteSize then .error .nameTooLong
  else
    let start := if path.isAbsolute then [] else tree.here
    match names.getLast? with
    | none => .ok (.folder start)
    | some last => do
      let parent ← tree.follow start names.dropLast
      if last = "." then return .folder parent
      else if last = ".." then return .folder parent.dropLast
      else if 255 < last.utf8ByteSize then throw .nameTooLong
      else return .name parent last (path.text.toList.getLast? = some '/')

/-- What a path leads to, and its place. -/
def find (tree : FileTree) (path : Path) : Except FileError (Location × FileEntry) := do
  match ← tree.target path with
  | .folder place => return (place, .folder)
  | .name parent name slash =>
    match tree.entry? (parent ++ [name]) with
    | none => throw .notFound
    | some (.file content) =>
      if slash then throw .notADirectory else return (parent ++ [name], .file content)
    | some .folder => return (parent ++ [name], .folder)

def hasPath (tree : FileTree) (path : Path) : Bool := (tree.find path).isOk

def isFolder (tree : FileTree) (path : Path) : Bool :=
  match tree.find path with
  | .ok (_, .folder) => true
  | _ => false

def read (tree : FileTree) (path : Path) : Except FileError Bytes := do
  match ← tree.find path with
  | (_, .folder) => throw .isADirectory
  | (_, .file content) => return content

def readText (tree : FileTree) (path : Path) : Except FileError String := do
  match String.fromUTF8? ⟨(← tree.read path).toArray⟩ with
  | some text => return text
  | none => throw .notText

/-- The tree after the bytes of a file are written; the file is made if need be. -/
def write (tree : FileTree) (path : Path) (content : Bytes) : Except FileError FileTree := do
  match ← tree.target path with
  | .folder _ => throw .isADirectory
  | .name parent name slash =>
    if slash || tree.entry? (parent ++ [name]) = some .folder then throw .isADirectory
    else return tree.put (parent ++ [name]) (.file content)

def makeFolder (tree : FileTree) (path : Path) : Except FileError FileTree := do
  match ← tree.target path with
  | .folder _ => throw .alreadyExists
  | .name parent name _ =>
    if (tree.entry? (parent ++ [name])).isSome then throw .alreadyExists
    else return tree.put (parent ++ [name]) .folder

/-- The tree after the first of some paths is made a folder, each of which is the parent
of the one before; those that are missing are made first. -/
def makeFirst (tree : FileTree) : List Path → Except FileError Unit × FileTree
  | [] => (.ok (), tree)
  | path :: parents =>
    match tree.makeFolder path with
    | .ok tree => (.ok (), tree)
    | .error .notFound =>
      match tree.makeFirst parents with
      | (.error error, tree) => (.error error, tree)
      | (.ok (), tree) =>
        match tree.makeFolder path with
        | .ok tree => (.ok (), tree)
        | .error error => (if tree.isFolder path then .ok () else .error error, tree)
    | .error error => (if tree.isFolder path then .ok () else .error error, tree)

def makeFolders (tree : FileTree) (path : Path) : Except FileError Unit × FileTree :=
  if path.isEmpty then (.ok (), tree) else tree.makeFirst (path :: path.parents)

/-- The tree after a file is stored, in folders that are made if need be. -/
def store (tree : FileTree) (path : Path) (content : Bytes) : Except FileError Unit × FileTree :=
  match tree.makeFirst path.parents with
  | (.error error, tree) => (.error error, tree)
  | (.ok (), tree) =>
    match tree.write path content with
    | .ok tree => (.ok (), tree)
    | .error error => (.error error, tree)

/-- The names that lead on to a place from one above it. -/
def below? (place : Location) : Location → Option (List String)
  | [] => some place
  | name :: names => match place with
    | [] => none
    | first :: rest => if first = name then below? rest names else none

/-- The paths of the files below a folder; of anything else there are none. -/
def list (tree : FileTree) (path : Path) : List Path :=
  match tree.find path with
  | .ok (place, .folder) => tree.entries.filterMap fun
    | (_, .folder) => none
    | (file, .file _) => (below? file place).map fun names => names.foldl Path.child path
  | _ => []

/-- The place that a path means from the current folder, where two dots lead back from
the name before. -/
def locate (here : Location) (path : Path) : Location :=
  path.components.foldl (fun place part => match part with
    | .root => []
    | .current => place
    | .parent => place.dropLast
    | .normal name => place ++ [name]) here

@[simp] theorem entry?_root (tree : FileTree) : tree.entry? [] = some .folder := rfl

@[simp] theorem here_put (tree : FileTree) (place : Location) (entry : FileEntry) :
    (tree.put place entry).here = tree.here := rfl

end FileTree

end StepSheet
