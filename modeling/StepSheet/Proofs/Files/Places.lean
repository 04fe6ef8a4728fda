import Mathlib.Data.List.Basic
import StepSheet.Files.Tree
import StepSheet.Proofs.Files.Relative

/-!
# The places of a tree

In a tree of files everything that is there has a name and stands in a folder. What leads to a
folder or to a name in a folder is read in the current folder, as the text of the path is, and
the way there stays the same as long as its folders do.
-/

namespace StepSheet

/-! ### Entries -/

namespace Entries

variable {place other : Location} {entry : FileEntry} {entries : List (Location × FileEntry)}

theorem lookup_placeAt_self (place : Location) (entry : FileEntry)
    (entries : List (Location × FileEntry)) :
    (placeAt place entry entries).lookup place = some entry := by
  induction entries with
  | nil => simp [placeAt]
  | cons first entries ih =>
      rw [placeAt]
      split
      · simp
      · split
        · simp
        · next differ => rw [List.lookup_cons, beq_false_of_ne differ, ih]

theorem lookup_placeAt_of_ne (h : other ≠ place) (entry : FileEntry)
    (entries : List (Location × FileEntry)) :
    (placeAt place entry entries).lookup other = entries.lookup other := by
  have differ : (other == place) = false := beq_false_of_ne h
  induction entries with
  | nil => rw [placeAt, List.lookup_cons, differ]
  | cons first entries ih =>
      rw [placeAt]
      split
      · rw [List.lookup_cons, differ]
      · split
        · next same =>
          rw [List.lookup_cons, List.lookup_cons, ← same, differ]
        · rw [List.lookup_cons, List.lookup_cons, ih]

theorem lookup_eq_some_iff (ascending : entries.Pairwise fun a b => a.1 < b.1) :
    entries.lookup place = some entry ↔ (place, entry) ∈ entries := by
  induction entries with
  | nil => simp
  | cons first entries ih =>
      obtain ⟨before, rest⟩ := List.pairwise_cons.mp ascending
      rw [List.lookup_cons, List.mem_cons]
      by_cases same : place = first.1
      · have last : (place, entry) ∉ entries := by
          intro member
          exact List.lt_irrefl _ (same ▸ before _ member)
        rw [beq_iff_eq.mpr same, or_iff_left last]
        simp [Prod.ext_iff, same, eq_comm]
      · rw [beq_false_of_ne same, ih rest]
        simp [Prod.ext_iff, same]

end Entries

namespace FileTree

variable {tree tree' : FileTree} {place other : Location} {entry : FileEntry}

def content? (tree : FileTree) (place : Location) : Option Bytes :=
  match tree.entry? place with
  | some (.file content) => some content
  | _ => none

theorem content?_eq_some_iff {content : Bytes} :
    tree.content? place = some content ↔ tree.entry? place = some (.file content) := by
  rw [content?]
  split <;> simp_all

theorem mem_entries_iff (below : place ≠ []) :
    (place, entry) ∈ tree.entries ↔ tree.entry? place = some entry := by
  rw [ entry?, if_neg below, Entries.lookup_eq_some_iff tree.ascending]

theorem entry?_put_self (below : place ≠ []) (tree : FileTree) (entry : FileEntry) :
    FileTree.entry? (tree.put place entry) place = some entry := by
  rw [ entry?, if_neg below]
  exact Entries.lookup_placeAt_self place entry tree.entries

theorem entry?_put_of_ne (h : other ≠ place) (tree : FileTree) (entry : FileEntry) :
    FileTree.entry? (tree.put place entry) other = tree.entry? other := by
  rw [ entry?, entry?]
  split
  · rfl
  · exact Entries.lookup_placeAt_of_ne h entry tree.entries

/-- What holds of the place where something is put, and of all that is there, holds of all that is
there then. -/
theorem forall_mem_put {p : Location → Prop} (new : p place)
    (old : ∀ other entry', (other, entry') ∈ tree.entries → p other) :
    ∀ other entry', (other, entry') ∈ (tree.put place entry).entries → p other := by
  intro other entry' member
  rcases Entries.mem_placeAt member with same | before
  · rw [(Prod.mk.inj same).1]
    exact new
  · exact old other entry' before

/-- Everything has a name and stands in a folder, and so does the current folder. -/
structure IsTree (tree : FileTree) : Prop where
  below : ∀ place entry, (place, entry) ∈ tree.entries → place ≠ []
  named : ∀ place entry, (place, entry) ∈ tree.entries → ∀ name ∈ place, Path.IsName name
  parent : ∀ place entry, (place, entry) ∈ tree.entries → tree.entry? place.dropLast = some .folder
  here : tree.entry? tree.here = some .folder

theorem isTree_empty : empty.IsTree := ⟨by simp [empty], by simp [empty], by simp [empty], rfl⟩

namespace IsTree

theorem named_of_entry? (h : tree.IsTree) (found : tree.entry? place = some entry) :
    ∀ name ∈ place, Path.IsName name := by
  by_cases top : place = []
  · simp [top]
  · exact h.named place entry ((mem_entries_iff top).mpr found)

theorem entry?_dropLast (h : tree.IsTree) (found : tree.entry? place = some entry) :
    tree.entry? place.dropLast = some .folder := by
  by_cases top : place = []
  · rw [top]
    rfl
  · exact h.parent place entry ((mem_entries_iff top).mpr found)

/-- Something with a name that is put into a folder, and is not put over one. -/
theorem put (h : tree.IsTree) {name : String} (within : tree.entry? place = some .folder)
    (named : Path.IsName name)
    (free : entry = .folder ∨ tree.entry? (place ++ [name]) ≠ some .folder) :
    (tree.put (place ++ [name]) entry).IsTree := by
  have below : place ++ [name] ≠ [] := by simp
  -- A folder stays one.
  have stays : ∀ other, tree.entry? other = some .folder →
      FileTree.entry? (tree.put (place ++ [name]) entry) other = some .folder := by
    intro other found
    by_cases same : other = place ++ [name]
    · subst same
      rw [entry?_put_self below, free.resolve_right (not_not_intro found)]
    · rw [entry?_put_of_ne same, found]
  refine ⟨forall_mem_put below h.below, forall_mem_put ?_ h.named, forall_mem_put ?_ ?_,
    stays _ h.here⟩
  · intro part among
    rcases List.mem_append.mp among with above | last
    · exact h.named_of_entry? within part above
    · exact List.mem_singleton.mp last ▸ named
  · rw [List.dropLast_concat]
    exact stays _ within
  · exact fun other entry' before => stays _ (h.parent other entry' before)

end IsTree

/-! ### The way to a place -/

/-- A name leads from one folder to another one. -/
inductive Enters (tree : FileTree) (place : Location) : String → Location → Prop
  | stay : Enters tree place "." place
  | up : Enters tree place ".." place.dropLast
  | down {name : String} (dot : name ≠ ".") (dots : name ≠ "..") (size : name.utf8ByteSize ≤ 255)
      (there : tree.entry? (place ++ [name]) = some .folder) :
      Enters tree place name (place ++ [name])

theorem Enters.eq_enter {name : String} {reached : Location} (nonempty : name ≠ "")
    (h : tree.Enters place name reached) : reached = Path.enter place name := by
  cases h with
  | stay => rfl
  | up => rfl
  | down dot dots => simp [Path.enter, nonempty, dot, dots]

/-- A way leads on name by name. -/
theorem follow_cons_eq_ok_iff {name : String} {names : List String} {reached : Location} :
    tree.follow place (name :: names) = .ok reached ↔
      ∃ next, tree.Enters place name next ∧ tree.follow next names = .ok reached := by
  rw [follow]
  constructor
  · intro h
    split at h
    · next dot => exact ⟨place, dot ▸ .stay, h⟩
    split at h
    · next dots => exact ⟨place.dropLast, dots ▸ .up, h⟩
    split at h
    · cases h
    next dot dots size =>
    split at h
    · next there => exact ⟨place ++ [name], .down dot dots (Nat.not_lt.mp size) there, h⟩
    · cases h
    · cases h
  · rintro ⟨next, enters, onward⟩
    cases enters with
    | stay => simpa using onward
    | up => simpa using onward
    | down dot dots size there => simpa [dot, dots, Nat.not_lt.mpr size, there] using onward

theorem follow_append_eq_ok_iff {names more : List String} {reached : Location} :
    tree.follow place (names ++ more) = .ok reached ↔
      ∃ next, tree.follow place names = .ok next ∧ tree.follow next more = .ok reached := by
  induction names generalizing place with
  | nil => simp [follow]
  | cons name names ih =>
      simp only [List.cons_append, follow_cons_eq_ok_iff, ih]
      grind

theorem follow_single_eq_ok_iff {name : String} {reached : Location} :
    tree.follow place [name] = .ok reached ↔ tree.Enters place name reached := by
  rw [follow_cons_eq_ok_iff]
  simp [follow]

/-- A way leads where its names do. -/
theorem eq_foldl_of_follow {names : List String} (nonempty : "" ∉ names) {reached : Location}
    (h : tree.follow place names = .ok reached) : reached = names.foldl Path.enter place := by
  induction names generalizing place with
  | nil =>
      cases h
      rfl
  | cons name names ih =>
      obtain ⟨some, rest⟩ := not_or.mp (List.mem_cons.not.mp nonempty)
      obtain ⟨next, enters, onward⟩ := follow_cons_eq_ok_iff.mp h
      rw [ih rest onward, enters.eq_enter (Ne.symm some), List.foldl_cons]

/-- A way leads from a folder to a folder. -/
theorem IsTree.entry?_of_follow (h : tree.IsTree) {names : List String} {reached : Location}
    (folder : tree.entry? place = some .folder) (way : tree.follow place names = .ok reached) :
    tree.entry? reached = some .folder := by
  induction names generalizing place with
  | nil =>
      cases way
      exact folder
  | cons name names ih =>
      obtain ⟨next, enters, onward⟩ := follow_cons_eq_ok_iff.mp way
      refine ih ?_ onward
      cases enters with
      | stay => exact folder
      | up => exact h.entry?_dropLast folder
      | down dot dots size there => exact there

/-- Dots lead nowhere. -/
theorem follow_filter (tree : FileTree) (place : Location) (names : List String) :
    tree.follow place (names.filter (· ≠ ".")) = tree.follow place names := by
  induction names generalizing place with
  | nil => rfl
  | cons name names ih =>
      by_cases dot : name = "."
      · rw [List.filter_cons_of_neg (by simpa using dot), ih, follow, if_pos dot]
      · rw [List.filter_cons_of_pos (by simpa using dot), follow, follow]
        simp only [ih]

/-- The folders of one tree are folders of another one, which has the same current folder. -/
structure Extends (tree tree' : FileTree) : Prop where
  here : tree'.here = tree.here
  folders : ∀ place, tree.entry? place = some .folder → tree'.entry? place = some .folder

theorem Extends.follow (h : tree.Extends tree') {names : List String} {reached : Location}
    (way : tree.follow place names = .ok reached) : tree'.follow place names = .ok reached := by
  induction names generalizing place with
  | nil => exact way
  | cons name names ih =>
      obtain ⟨next, enters, onward⟩ := follow_cons_eq_ok_iff.mp way
      refine follow_cons_eq_ok_iff.mpr ⟨next, ?_, ih onward⟩
      cases enters with
      | stay => exact .stay
      | up => exact .up
      | down dot dots size there => exact .down dot dots size (h.folders _ there)

end FileTree

/-! ### Where a path leads -/

/-- A text that is taken for a path. -/
structure Path.IsAccepted (p : Path) : Prop where
  nonempty : ¬ p.isEmpty
  noNul : '\x00' ∉ p.text.toList
  short : p.text.utf8ByteSize < 4096

/-- The names of a path, with its dots. -/
def Path.steps (p : Path) : List String := (Text.splitOn '/' p.text).filter (· ≠ "")

namespace FileTree

def start (tree : FileTree) (path : Path) : Location := if path.isAbsolute then [] else tree.here

variable {tree tree' : FileTree} {place : Location} {path : Path} {target : Target}

theorem place_eq_foldl_steps (tree : FileTree) (path : Path) :
    path.place tree.here = path.steps.foldl Path.enter (tree.start path) := by
  rw [Path.place, Path.steps, ← start]
  generalize tree.start path = from_
  generalize Text.splitOn '/' path.text = pieces
  induction pieces generalizing from_ with
  | nil => rfl
  | cons piece pieces ih =>
      by_cases blank : piece = ""
      · simp [blank, Path.enter, ih]
      · simp [blank, ih]

/-- A path leads to a folder if all of its names are there and the last one is a dot or two,
and otherwise to its last name in the folder of the others. -/
inductive LeadsTo (tree : FileTree) (path : Path) : Target → Prop
  | folder {reached : Location} (accepted : path.IsAccepted)
      (dots : ∀ last ∈ path.steps.getLast?, last = "." ∨ last = "..")
      (way : tree.follow (tree.start path) path.steps = .ok reached) :
      LeadsTo tree path (.folder reached)
  | name {names : List String} {last : String} {parent : Location} (accepted : path.IsAccepted)
      (steps : path.steps = names ++ [last])
      (way : tree.follow (tree.start path) names = .ok parent)
      (dot : last ≠ ".") (dots : last ≠ "..") (size : last.utf8ByteSize ≤ 255) :
      LeadsTo tree path (.name parent last (path.text.toList.getLast? = some '/'))

/-- What a last name in a folder is. -/
def targetIn (path : Path) (last : String) (parent : Location) : Except FileError Target :=
  if last = "." then .ok (.folder parent)
  else if last = ".." then .ok (.folder parent.dropLast)
  else if 255 < last.utf8ByteSize then .error .nameTooLong
  else .ok (.name parent last (path.text.toList.getLast? = some '/'))

theorem target_of_isAccepted (accepted : path.IsAccepted) :
    tree.target path = match path.steps.getLast? with
      | none => .ok (.folder (tree.start path))
      | some last =>
        (tree.follow (tree.start path) path.steps.dropLast).bind (targetIn path last) := by
  have noNul : path.text.toList.contains '\x00' = false := by simpa using accepted.noNul
  have whole : tree.target path =
      if path.text.toList.contains '\x00' then .error .nulByte
      else if path.isEmpty then .error .notFound
      else if 4096 ≤ path.text.utf8ByteSize then .error .nameTooLong
      else match path.steps.getLast? with
        | none => .ok (.folder (tree.start path))
        | some last =>
          (tree.follow (tree.start path) path.steps.dropLast).bind (targetIn path last) := rfl
  rw [whole, noNul, if_neg (by simp), if_neg accepted.nonempty,
    if_neg (Nat.not_le.mpr accepted.short)]

theorem isAccepted_of_target (h : tree.target path = .ok target) : path.IsAccepted := by
  rw [FileTree.target] at h
  simp only at h
  split at h
  · cases h
  next noNul =>
  split at h
  · cases h
  next nonempty =>
  split at h
  · cases h
  next short => exact ⟨nonempty, by simpa using noNul, Nat.not_le.mp short⟩

theorem targetIn_eq_ok_iff (tree : FileTree) {last : String} {parent : Location} :
    targetIn path last parent = .ok target ↔
      (∃ reached, (last = "." ∨ last = "..") ∧ tree.Enters parent last reached ∧
        target = .folder reached) ∨
      last ≠ "." ∧ last ≠ ".." ∧ last.utf8ByteSize ≤ 255 ∧
        target = .name parent last (path.text.toList.getLast? = some '/') := by
  rw [targetIn]
  constructor
  · intro h
    split at h
    · next dot =>
      cases h
      exact .inl ⟨parent, .inl dot, dot ▸ .stay, rfl⟩
    split at h
    · next dots =>
      cases h
      exact .inl ⟨parent.dropLast, .inr dots, dots ▸ .up, rfl⟩
    split at h
    · cases h
    next dot dots size =>
      cases h
      exact .inr ⟨dot, dots, Nat.not_lt.mp size, rfl⟩
  · rintro (⟨reached, which, enters, rfl⟩ | ⟨dot, dots, size, rfl⟩)
    · cases enters with
      | stay => simp
      | up => simp
      | down dot dots => exact absurd which (by simp [dot, dots])
    · simp [dot, dots, Nat.not_lt.mpr size]

theorem target_eq_ok_iff : tree.target path = .ok target ↔ tree.LeadsTo path target := by
  constructor
  · intro h
    have accepted := isAccepted_of_target h
    rw [target_of_isAccepted accepted] at h
    rcases List.eq_nil_or_concat' path.steps with none | ⟨names, last, steps⟩
    · simp only [none, List.getLast?_nil, Except.ok.injEq] at h
      subst h
      exact .folder accepted (by simp [none]) (by rw [none]; rfl)
    · simp only [steps, List.getLast?_concat, List.dropLast_concat] at h
      cases way : tree.follow (tree.start path) names with
      | error error => simp [way, Except.bind] at h
      | ok parent =>
          simp only [way, Except.bind, targetIn_eq_ok_iff tree] at h
          rcases h with ⟨reached, dots, enters, rfl⟩ | ⟨dot, dots, size, rfl⟩
          · refine .folder accepted (by simpa [steps] using dots) ?_
            rw [steps, follow_append_eq_ok_iff]
            exact ⟨parent, way, follow_single_eq_ok_iff.mpr enters⟩
          · exact .name accepted steps way dot dots size
  · intro h
    cases h with
    | folder accepted dots way =>
        rw [target_of_isAccepted accepted]
        rcases List.eq_nil_or_concat' path.steps with none | ⟨names, last, steps⟩
        · rw [none] at way ⊢
          cases way
          rfl
        · simp only [steps, List.getLast?_concat, List.dropLast_concat] at dots ⊢
          rw [steps, follow_append_eq_ok_iff] at way
          obtain ⟨parent, way, onward⟩ := way
          rw [way]
          exact (targetIn_eq_ok_iff tree).mpr
            (.inl ⟨_, by simpa using dots, follow_single_eq_ok_iff.mp onward, rfl⟩)
    | name accepted steps way dot dots size =>
        rw [target_of_isAccepted accepted]
        simp only [steps, List.getLast?_concat, List.dropLast_concat, way]
        exact (targetIn_eq_ok_iff tree).mpr (.inr ⟨dot, dots, size, rfl⟩)

/-- What is done at the end of a path is done where it leads. -/
theorem target_bind_eq_ok_iff {α : Type} {act : Target → Except FileError α} {result : α} :
    (tree.target path).bind act = .ok result ↔
      ∃ target, tree.LeadsTo path target ∧ act target = .ok result := by
  simp only [← target_eq_ok_iff]
  cases tree.target path <;> simp [Except.bind]

theorem mem_steps {name : String} (member : name ∈ path.steps) :
    name ≠ "" ∧ '/' ∉ name.toList := by
  obtain ⟨among, some⟩ := List.mem_filter.mp member
  obtain ⟨cs, split, rfl⟩ := List.mem_map.mp among
  exact ⟨by simpa using some, by simpa using Chars.not_mem_of_mem_splitOn split⟩

/-- A path leads to a name in a folder, which is the place that it denotes. -/
theorem LeadsTo.concat_eq_place {parent : Location} {last : String} {slash : Bool}
    (h : tree.LeadsTo path (.name parent last slash)) :
    parent ++ [last] = path.place tree.here ∧ Path.IsName last := by
  cases h with
  | name accepted steps way dot dots size =>
      have named : last ∈ path.steps := by simp [steps]
      have nonempty : last ≠ "" := (mem_steps named).1
      refine ⟨?_, nonempty, dot, dots, (mem_steps named).2⟩
      rw [place_eq_foldl_steps, steps, List.foldl_append, ← eq_foldl_of_follow ?_ way]
      · simp [Path.enter, nonempty, dot, dots]
      · intro blank
        have among : "" ∈ path.steps := steps ▸ List.mem_append_left [last] blank
        exact (mem_steps among).1 rfl

theorem IsTree.entry?_start (h : tree.IsTree) (path : Path) :
    tree.entry? (tree.start path) = some .folder := by
  rw [start]
  split
  · rfl
  · exact h.here

theorem Extends.leadsTo (h : tree.Extends tree') (leads : tree.LeadsTo path target) :
    tree'.LeadsTo path target := by
  have same : tree'.start path = tree.start path := by rw [start, start, h.here]
  cases leads with
  | folder accepted dots way => exact .folder accepted dots (h.follow (same ▸ way))
  | name accepted steps way dot dots size =>
      exact .name accepted steps (h.follow (same ▸ way)) dot dots size

theorem find_of_folder {reached : Location} (h : tree.LeadsTo path (.folder reached)) :
    tree.find path = .ok (reached, .folder) := by
  rw [find, target_eq_ok_iff.mpr h]
  rfl

theorem find_of_name {parent : Location} {last : String} {slash : Bool}
    (h : tree.LeadsTo path (.name parent last slash)) :
    tree.find path = match tree.entry? (parent ++ [last]) with
      | none => .error .notFound
      | some (.file content) =>
        if slash then .error .notADirectory else .ok (parent ++ [last], .file content)
      | some .folder => .ok (parent ++ [last], .folder) := by
  rw [find, target_eq_ok_iff.mpr h]
  rfl

/-- A path is that of a folder if all of its names lead on from one folder to the next. -/
theorem find_eq_folder_iff {reached : Location} :
    tree.find path = .ok (reached, .folder) ↔
      path.IsAccepted ∧ tree.follow (tree.start path) path.steps = .ok reached := by
  constructor
  · intro h
    obtain ⟨target, leads, -⟩ := target_bind_eq_ok_iff.mp h
    cases leads with
    | folder accepted dots way =>
        rw [find_of_folder (.folder accepted dots way)] at h
        cases h
        exact ⟨accepted, way⟩
    | name accepted steps way dot dots size =>
        rw [find_of_name (.name accepted steps way dot dots size)] at h
        split at h
        · cases h
        · split at h <;> cases h
        next there =>
          cases h
          refine ⟨accepted, ?_⟩
          rw [steps, follow_append_eq_ok_iff]
          exact ⟨_, way, follow_single_eq_ok_iff.mpr (.down dot dots size there)⟩
  · rintro ⟨accepted, way⟩
    rcases List.eq_nil_or_concat' path.steps with none | ⟨names, last, steps⟩
    · exact find_of_folder (.folder accepted (by simp [none]) way)
    · have onward := way
      rw [steps, follow_append_eq_ok_iff] at onward
      obtain ⟨parent, before, enters⟩ := onward
      cases follow_single_eq_ok_iff.mp enters with
      | stay => exact find_of_folder (.folder accepted (by simp [steps]) way)
      | up => exact find_of_folder (.folder accepted (by simp [steps]) way)
      | down dot dots size there =>
          rw [find_of_name (.name accepted steps before dot dots size), there]

/-- A folder is found at the place that its path denotes. -/
theorem isFolder_iff :
    tree.isFolder path ↔ tree.find path = .ok (path.place tree.here, .folder) := by
  rw [isFolder]
  constructor
  · intro h
    split at h
    · next place found =>
      obtain ⟨accepted, way⟩ := find_eq_folder_iff.mp found
      rw [found, place_eq_foldl_steps,
        ← eq_foldl_of_follow (fun member => (mem_steps member).1 rfl) way]
    · cases h
  · intro found
    rw [found]

end FileTree

end StepSheet
