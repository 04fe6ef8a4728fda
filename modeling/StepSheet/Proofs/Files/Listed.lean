import Mathlib.Data.List.Lex
import Mathlib.Data.List.Nodup
import StepSheet.Proofs.Files.Stored

/-!
# Listed files

A folder is listed with all files below it, each by the path of the folder and the names that
lead on from there. The paths stand in ascending order of their parts, and no two of them have
the same parts. So after files are stored a folder lists each of them once, however often it was
stored, and besides them only the files that were there before.
-/

namespace StepSheet

/-! ### The order of paths -/

namespace Path

/-- The place of a kind of parts among the others. -/
def Component.rank : Component → Nat
  | .root => 0
  | .current => 1
  | .parent => 2
  | .normal _ => 3

/-- A part comes before another one: names in their own order, behind all other parts. -/
def Component.Before : Component → Component → Prop
  | .normal name, .normal other => name < other
  | part, other => part.rank < other.rank

/-- A path comes before another one at the first part where they differ, or where it ends. -/
def Before (p q : Path) : Prop := List.Lex Component.Before p.components q.components

theorem Component.not_before_self (part : Component) : ¬ part.Before part := by
  cases part with
  | normal name => exact String.lt_irrefl name
  | _ => exact Nat.lt_irrefl _

theorem ne_of_before {p q : Path} (h : p.Before q) : p.components ≠ q.components := by
  intro same
  rw [Before, same] at h
  exact List.lex_irrefl Component.not_before_self _ h

theorem lex_map_normal {names others : List String} (h : names < others) :
    List.Lex Component.Before (names.map .normal) (others.map .normal) := by
  induction h with
  | nil => exact .nil
  | cons _ ih => exact .cons ih
  | rel less => exact .rel less

/-- The path that names lead to from a folder. -/
def below (root : Path) (names : List String) : Path := names.foldl child root

variable {root : Path} {names others : List String}

theorem components_below (named : ∀ name ∈ names, IsName name) :
    (root.below names).components = root.components ++ names.map .normal := by
  induction names generalizing root with
  | nil => simp [below]
  | cons name names ih =>
      obtain ⟨first, rest⟩ := List.forall_mem_cons.mp named
      have onward : root.below (name :: names) = (root.child name).below names := rfl
      rw [onward, ih rest, components_child root first]
      simp

/-- Paths below a folder stand in the order of the names that lead to them. -/
theorem below_before (named : ∀ name ∈ names, IsName name) (named' : ∀ name ∈ others, IsName name)
    (less : names < others) : (root.below names).Before (root.below others) := by
  rw [Before, components_below named, components_below named']
  exact List.Lex.append_left _ (lex_map_normal less) _

theorem place_of_components {p : Path} (h : p.components = root.components ++ names.map .normal)
    (here : List String) : p.place here = root.place here ++ names := by
  rw [place_eq_follow, place_eq_follow, h, follow_append, follow_names]

/-! ### The names of a path among its parts -/

/-- The name of a part on the way of a path. -/
def Component.step? : Component → Option String
  | .root => none
  | .current => none
  | .parent => some ".."
  | .normal name => some name

theorem filterMap_step?_components (p : Path) :
    p.components.filterMap Component.step? = p.steps.filter (· ≠ ".") := by
  have front : p.front.filterMap Component.step? = [] := by
    rcases front_cases p with ⟨-, is⟩ | ⟨-, -, is⟩ | ⟨-, -, is⟩ <;> rw [is] <;> rfl
  rw [components_eq_front, List.filterMap_append, front, List.nil_append, steps, List.filter_filter]
  generalize Text.splitOn '/' p.text = pieces
  induction pieces with
  | nil => rfl
  | cons piece pieces ih =>
      by_cases blank : piece = ""
      · simpa [blank, component?] using ih
      · by_cases dot : piece = "."
        · simpa [dot, component?] using ih
        · by_cases dots : piece = ".."
          · simpa [dots, component?, Component.step?] using ih
          · simpa [blank, dot, dots, component?, Component.step?] using ih

theorem isAbsolute_iff_head? (p : Path) : p.isAbsolute ↔ p.components.head? = some .root := by
  rw [components_eq_front]
  rcases front_cases p with ⟨absolute, is⟩ | ⟨relative, -, is⟩ | ⟨relative, -, is⟩
  · simp [absolute, is]
  · simp [relative, is]
  · rw [is, List.nil_append]
    refine iff_of_false relative fun root => ?_
    obtain ⟨piece, -, reads⟩ := List.mem_filterMap.mp (List.mem_of_head? root)
    rcases component?_cases reads with same | ⟨same, -⟩ <;> cases same

end Path

namespace FileTree

variable {tree : FileTree} {root : Path}

theorem below?_eq_some_iff {place above : Location} {names : List String} :
    below? place above = some names ↔ place = above ++ names := by
  induction above generalizing place with
  | nil => simp [below?]
  | cons name above ih =>
      cases place with
      | nil => simp [below?]
      | cons first place =>
          by_cases same : first = name
          · simp [below?, same, ih]
          · simp [below?, same]

theorem list_of_not_isFolder (h : ¬ tree.isFolder root) : tree.list root = [] := by
  rw [list]
  rw [isFolder] at h
  split
  · next found => exact absurd (by simp [found]) h
  · rfl

theorem list_of_isFolder (h : tree.isFolder root) :
    tree.list root = tree.entries.filterMap fun
      | (_, .folder) => none
      | (file, .file _) => (below? file (root.place tree.here)).map root.below := by
  rw [list, isFolder_iff.mp h]
  rfl

theorem IsTree.entry?_of_isFolder (sound : tree.IsTree) (folder : tree.isFolder root) :
    tree.entry? (root.place tree.here) = some .folder := by
  obtain ⟨-, way⟩ := find_eq_folder_iff.mp (isFolder_iff.mp folder)
  exact sound.entry?_of_follow (sound.entry?_start root) way

/-- A folder lists the files below it. -/
theorem mem_list_iff (sound : tree.IsTree) (folder : tree.isFolder root) {path : Path} :
    path ∈ tree.list root ↔ ∃ names, names ≠ [] ∧ path = root.below names ∧
      (tree.content? (root.place tree.here ++ names)).isSome := by
  rw [list_of_isFolder folder, List.mem_filterMap]
  constructor
  · rintro ⟨⟨place, entry⟩, member, listed⟩
    cases entry with
    | folder => cases listed
    | file content =>
        obtain ⟨names, leads, rfl⟩ := Option.map_eq_some_iff.mp listed
        rw [below?_eq_some_iff] at leads
        have stands := (mem_entries_iff (sound.below _ _ member)).mp member
        refine ⟨names, ?_, rfl, Option.isSome_iff_exists.mpr ⟨content, ?_⟩⟩
        · rintro rfl
          rw [leads, List.append_nil, sound.entry?_of_isFolder folder] at stands
          cases stands
        · exact content?_eq_some_iff.mpr (leads ▸ stands)
  · rintro ⟨names, some, rfl, held⟩
    obtain ⟨content, stands⟩ := Option.isSome_iff_exists.mp held
    refine ⟨(root.place tree.here ++ names, .file content), ?_, ?_⟩
    · rw [mem_entries_iff (by simp [some])]
      exact content?_eq_some_iff.mp stands
    · simp [below?_eq_some_iff.mpr rfl]

/-- The names of a file below a folder. -/
theorem IsTree.named_of_content? (sound : tree.IsTree) {place : Location} {names : List String}
    (held : (tree.content? (place ++ names)).isSome) : ∀ name ∈ names, Path.IsName name := by
  obtain ⟨content, stands⟩ := Option.isSome_iff_exists.mp held
  intro name member
  exact sound.named_of_entry? (content?_eq_some_iff.mp stands) name
    (List.mem_append_right place member)

theorem append_lt_append_iff {place names others : Location} :
    place ++ names < place ++ others ↔ names < others := by
  induction place with
  | nil => rfl
  | cons name place ih => rw [List.cons_append, List.cons_append, List.cons_lt_cons_self, ih]

/-- A listing is in ascending order. -/
theorem pairwise_list (sound : tree.IsTree) (root : Path) :
    (tree.list root).Pairwise Path.Before := by
  by_cases folder : tree.isFolder root
  · rw [list_of_isFolder folder, List.pairwise_filterMap]
    refine tree.ascending.imp_of_mem ?_
    rintro ⟨place, entry⟩ ⟨place', entry'⟩ member member' less path listed path' listed'
    cases entry with
    | folder => cases listed
    | file content =>
        cases entry' with
        | folder => cases listed'
        | file content' =>
            obtain ⟨names, leads, rfl⟩ := Option.map_eq_some_iff.mp listed
            obtain ⟨others, leads', rfl⟩ := Option.map_eq_some_iff.mp listed'
            rw [below?_eq_some_iff] at leads leads'
            subst leads leads'
            refine Path.below_before ?_ ?_ (append_lt_append_iff.mp less)
            · exact fun name among =>
                sound.named _ _ member name (List.mem_append_right _ among)
            · exact fun name among =>
                sound.named _ _ member' name (List.mem_append_right _ among)
  · rw [list_of_not_isFolder folder]
    exact .nil

/-- The parts of the paths that a folder lists. -/
theorem mem_map_components_list_iff (sound : tree.IsTree) {parts : List Path.Component} :
    parts ∈ (tree.list root).map Path.components ↔
      tree.isFolder root ∧ ∃ names, names ≠ [] ∧ parts = root.components ++ names.map .normal ∧
        (tree.content? (root.place tree.here ++ names)).isSome := by
  by_cases folder : tree.isFolder root
  · simp only [List.mem_map, mem_list_iff sound folder, folder, true_and]
    constructor
    · rintro ⟨-, ⟨names, some, rfl, held⟩, rfl⟩
      exact ⟨names, some, Path.components_below (sound.named_of_content? held), held⟩
    · rintro ⟨names, some, rfl, held⟩
      exact ⟨_, ⟨names, some, rfl, held⟩, Path.components_below (sound.named_of_content? held)⟩
  · simp [list_of_not_isFolder folder, folder]

/-- What is listed is listed once. -/
theorem nodup_map_components_list (sound : tree.IsTree) (root : Path) :
    ((tree.list root).map Path.components).Nodup :=
  List.pairwise_map.mpr ((pairwise_list sound root).imp Path.ne_of_before)

/-! ### A folder above a file -/

theorem isFolder_of_follow {reached : Location} (accepted : root.IsAccepted)
    (way : tree.follow (tree.start root) (root.steps.filter (· ≠ ".")) = .ok reached) :
    tree.isFolder root := by
  rw [follow_filter] at way
  rw [isFolder, find_eq_folder_iff.mpr ⟨accepted, way⟩]

/-- Where a path leads to a name, what is above it in its parts is a folder. -/
theorem isFolder_of_leadsTo {path : Path} {parent : Location} {last : String} {slash : Bool}
    (leads : tree.LeadsTo path (.name parent last slash)) (accepted : root.IsAccepted)
    {names : List String} (some : names ≠ [])
    (parts : path.components = root.components ++ names.map .normal) : tree.isFolder root := by
  have dotless := Path.filterMap_step?_components root
  by_cases top : root.components = []
  · -- A path without parts leads nowhere.
    rw [top, List.filterMap_nil] at dotless
    exact isFolder_of_follow accepted (by rw [← dotless]; rfl)
  cases leads with
  | @name before _ _ _ steps way dot =>
      have start : tree.start path = tree.start root := by
        have same : path.isAbsolute ↔ root.isAbsolute := by
          rw [Path.isAbsolute_iff_head?, Path.isAbsolute_iff_head?, parts,
            List.head?_append_of_ne_nil _ top]
        simp only [FileTree.start, same]
      obtain ⟨onward, final, rfl⟩ := (List.eq_nil_or_concat' names).resolve_left some
      -- The names before the last one are those of the folder and some more.
      have whole : before.filter (· ≠ ".") ++ [last] =
          (root.steps.filter (· ≠ ".") ++ onward) ++ [final] := by
        have read := Path.filterMap_step?_components path
        rw [parts, List.filterMap_append, dotless, steps, List.filter_append] at read
        simpa [Path.Component.step?, dot, List.filterMap_map, Function.comp_def] using read.symm
      have above := List.append_inj_left' whole rfl
      rw [← follow_filter, above, follow_append_eq_ok_iff, start] at way
      obtain ⟨reached, way, -⟩ := way
      exact isFolder_of_follow accepted way

/-! ### What is listed after files are stored -/

/-- After files are stored, a file holds the bytes last stored at its place, or those that it
held before, and a stored path reads the former. What is not a folder lists nothing. A folder
lists, in ascending order, the paths of the files below it, and these are the stored ones and
those that were there before; each path below it that was stored is listed once. -/
theorem stored_files_are_listed (sound : tree.IsTree) (files : List (Path × Bytes))
    (root : Path) :
    let stored := (tree.storeAll files).1
    let after := (tree.storeAll files).2
    (∀ place, after.content? place =
        (lastStored? tree.here stored place).or (tree.content? place)) ∧
      (∀ file ∈ stored, ∃ content,
        lastStored? tree.here stored (file.1.place tree.here) = some content ∧
          after.read file.1 = .ok content) ∧
      (¬ after.isFolder root → after.list root = []) ∧
      (after.list root).Pairwise Path.Before ∧
      (∀ parts, parts ∈ (after.list root).map Path.components ↔
        after.isFolder root ∧
          ∃ names, names ≠ [] ∧ parts = root.components ++ names.map .normal ∧
            ((∃ file ∈ stored, file.1.place tree.here = root.place tree.here ++ names) ∨
              (tree.content? (root.place tree.here ++ names)).isSome)) ∧
      ∀ file ∈ stored, ∀ names, names ≠ [] →
        file.1.components = root.components ++ names.map .normal → root.IsAccepted →
          ((after.list root).map Path.components).count file.1.components = 1 := by
  intro stored after
  have holds : tree.Holds stored after := holds_storeAll tree files
  have sound' : after.IsTree := holds.isTree sound
  have here : after.here = tree.here := holds.here
  have kept : ∀ place, (after.content? place).isSome ↔
      (∃ file ∈ stored, file.1.place tree.here = place) ∨ (tree.content? place).isSome := by
    intro place
    rw [holds.contents, Option.isSome_or, Bool.or_eq_true, isSome_lastStored?]
  refine ⟨holds.contents, fun file member => ?_, list_of_not_isFolder, pairwise_list sound' root,
    fun parts => ?_, fun file member names some parts accepted => ?_⟩
  · obtain ⟨content, last⟩ := Option.isSome_iff_exists.mp
      (isSome_lastStored?.mpr ⟨file, member, rfl⟩)
    obtain ⟨parent, name, leads⟩ := holds.leads file member
    refine ⟨content, last, read_of_leadsTo leads ?_⟩
    rw [here, holds.contents, last]
    rfl
  · rw [mem_map_components_list_iff sound']
    simp only [here, kept]
  · obtain ⟨parent, name, leads⟩ := holds.leads file member
    have folder := isFolder_of_leadsTo leads accepted some parts
    refine List.count_eq_one_of_mem (nodup_map_components_list sound' root) ?_
    rw [mem_map_components_list_iff sound']
    refine ⟨folder, names, some, parts, ?_⟩
    rw [kept, here]
    exact .inl ⟨file, member, Path.place_of_components parts tree.here⟩

/-- A file that is stored twice beside one that was there. -/
theorem stored_twice_listed_once :
    let tree := (FileTree.empty.storeAll [(⟨"shots/old.png"⟩, [0])]).2
    let files : List (Path × Bytes) :=
      [(⟨"shots/b/2.png"⟩, [1]), (⟨"shots/a.png"⟩, [2]), (⟨"shots//b/2.png"⟩, [3])]
    let after := (tree.storeAll files).2
    tree.IsTree ∧
      after.list ⟨"shots"⟩ = [⟨"shots/a.png"⟩, ⟨"shots/b/2.png"⟩, ⟨"shots/old.png"⟩] ∧
      after.content? ["shots", "b", "2.png"] = some [3] ∧
      ((after.list ⟨"shots"⟩).map Path.components).count
        (Path.mk "shots//b/2.png").components = 1 := by
  intro tree files after
  have sound : tree.IsTree := (holds_storeAll empty _).isTree isTree_empty
  refine ⟨sound, by decide +kernel, by decide +kernel, ?_⟩
  exact (stored_files_are_listed sound files ⟨"shots"⟩).2.2.2.2.2 (⟨"shots//b/2.png"⟩, [3])
    (by decide +kernel) ["b", "2.png"] (by decide) (by decide +kernel)
    ⟨by decide +kernel, by decide +kernel, by decide +kernel⟩

end FileTree

end StepSheet
