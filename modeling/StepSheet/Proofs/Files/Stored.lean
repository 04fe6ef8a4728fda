import StepSheet.Proofs.Files.Places

/-!
# Stored files

Storing a file makes the folders above it and then writes it. Folders are made only where there
was nothing, so all other files keep their bytes, and they do so when the store fails. After any
number of stores a file holds what was last stored at its place, or what it held before.
-/

namespace StepSheet.FileTree

variable {tree tree' tree'' : FileTree} {place other : Location} {path : Path} {content : Bytes}

/-! ### Folders are made -/

theorem content?_put_of_ne (h : other ≠ place) (tree : FileTree) (entry : FileEntry) :
    (tree.put place entry).content? other = tree.content? other := by
  rw [content?, content?, entry?_put_of_ne h]

theorem content?_put_file (below : place ≠ []) (tree : FileTree) (content : Bytes) :
    (tree.put place (.file content)).content? place = some content := by
  rw [content?_eq_some_iff, entry?_put_self below]

/-- What is not put over a folder leaves all folders. -/
theorem Extends.put {entry : FileEntry} (free : tree.entry? place ≠ some .folder) :
    tree.Extends (tree.put place entry) := by
  refine ⟨rfl, fun other folder => ?_⟩
  have differ : other ≠ place := fun same => free (same ▸ folder)
  rw [entry?_put_of_ne differ, folder]

theorem Extends.trans (first : tree.Extends tree') (second : tree'.Extends tree'') :
    tree.Extends tree'' :=
  ⟨second.here.trans first.here,
    fun place folder => second.folders place (first.folders place folder)⟩

/-- A tree in which folders were made: no folder and no file is lost or changed. -/
structure Grows (tree tree' : FileTree) : Prop extends tree.Extends tree' where
  contents : ∀ place, tree'.content? place = tree.content? place
  isTree : tree.IsTree → tree'.IsTree

theorem Grows.refl (tree : FileTree) : tree.Grows tree :=
  ⟨⟨rfl, fun _ folder => folder⟩, fun _ => rfl, id⟩

theorem Grows.trans (first : tree.Grows tree') (second : tree'.Grows tree'') :
    tree.Grows tree'' :=
  ⟨first.toExtends.trans second.toExtends,
    fun place => (second.contents place).trans (first.contents place),
    second.isTree ∘ first.isTree⟩

/-- The folder of the last name of a path. -/
theorem IsTree.entry?_of_leadsTo (h : tree.IsTree) {parent : Location} {last : String}
    {slash : Bool} (leads : tree.LeadsTo path (.name parent last slash)) :
    tree.entry? parent = some .folder := by
  cases leads with
  | name accepted steps way => exact h.entry?_of_follow (h.entry?_start path) way

theorem grows_of_makeFolder (h : tree.makeFolder path = .ok tree') : tree.Grows tree' := by
  obtain ⟨target, leads, made⟩ := target_bind_eq_ok_iff.mp h
  cases target with
  | folder place => cases made
  | name parent name slash =>
      simp only at made
      split at made
      · cases made
      next free =>
        cases made
        have nothing : tree.entry? (parent ++ [name]) = none := by simpa using free
        have below : parent ++ [name] ≠ [] := by simp
        refine ⟨Extends.put (by simp [nothing]), fun place => ?_, fun sound => ?_⟩
        · by_cases same : place = parent ++ [name]
          · subst same
            rw [content?, entry?_put_self below, content?, nothing]
          · exact content?_put_of_ne same tree .folder
        · exact sound.put (sound.entry?_of_leadsTo leads) leads.concat_eq_place.2 (.inl rfl)

theorem grows_makeFirst (tree : FileTree) (paths : List Path) :
    tree.Grows (tree.makeFirst paths).2 := by
  induction paths with
  | nil => exact .refl tree
  | cons path parents ih =>
      rw [makeFirst]
      split
      · next made => exact grows_of_makeFolder made
      · generalize tree.makeFirst parents = above at ih ⊢
        obtain ⟨error | done, tree'⟩ := above
        · exact ih
        · dsimp only at ih ⊢
          split
          · next made => exact ih.trans (grows_of_makeFolder made)
          · exact ih
      · exact .refl tree

/-! ### A file is stored -/

/-- How a store ends: in a tree where at most folders were made, or with the file written in
such a tree, at the last name of its path. -/
inductive Stores (tree : FileTree) (path : Path) (content : Bytes) :
    Except FileError Unit × FileTree → Prop
  | failed {error : FileError} {tree' : FileTree} (grows : tree.Grows tree') :
      Stores tree path content (.error error, tree')
  | stored {middle : FileTree} {parent : Location} {name : String} (grows : tree.Grows middle)
      (leads : middle.LeadsTo path (.name parent name false))
      (free : middle.entry? (parent ++ [name]) ≠ some .folder) :
      Stores tree path content (.ok (), middle.put (parent ++ [name]) (.file content))

theorem stores_store (tree : FileTree) (path : Path) (content : Bytes) :
    tree.Stores path content (tree.store path content) := by
  rw [store]
  have grows := grows_makeFirst tree path.parents
  generalize tree.makeFirst path.parents = made at grows ⊢
  obtain ⟨error | done, middle⟩ := made
  · exact .failed grows
  · dsimp only at grows ⊢
    cases written : middle.write path content with
    | error error => exact .failed grows
    | ok tree' =>
        obtain ⟨target, leads, put⟩ := target_bind_eq_ok_iff.mp written
        cases target with
        | folder place => cases put
        | name parent name slash =>
            simp only [Bool.or_eq_true, decide_eq_true_eq] at put
            split at put
            · cases put
            next free =>
              obtain ⟨ends, vacant⟩ := not_or.mp free
              cases put
              cases slash with
              | true => exact absurd rfl ends
              | false => exact .stored grows leads vacant

namespace Stores

variable {result : Except FileError Unit}

theorem toExtends (h : tree.Stores path content (result, tree')) : tree.Extends tree' := by
  cases h with
  | failed grows => exact grows.toExtends
  | stored grows leads free => exact grows.toExtends.trans (.put free)

theorem isTree (h : tree.Stores path content (result, tree')) (sound : tree.IsTree) :
    tree'.IsTree := by
  cases h with
  | failed grows => exact grows.isTree sound
  | stored grows leads free =>
      have middle := grows.isTree sound
      exact middle.put (middle.entry?_of_leadsTo leads) leads.concat_eq_place.2 (.inr free)

/-- A store that fails changes no file. -/
theorem content?_of_error {error : FileError}
    (h : tree.Stores path content (.error error, tree')) (place : Location) :
    tree'.content? place = tree.content? place := by
  cases h with
  | failed grows => exact grows.contents place

/-- A store that succeeds changes the file of its path and no other. -/
theorem content?_of_ok (h : tree.Stores path content (.ok (), tree')) (place : Location) :
    tree'.content? place =
      if path.place tree.here = place then some content else tree.content? place := by
  cases h with
  | stored grows leads free =>
      have written := leads.concat_eq_place.1
      rw [grows.here] at written
      split
      · next same =>
        rw [← same, ← written]
        exact content?_put_file (by simp) _ content
      · next differ =>
        rw [content?_put_of_ne (by rw [written]; exact Ne.symm differ)]
        exact grows.contents place

theorem leadsTo (h : tree.Stores path content (.ok (), tree')) :
    ∃ parent name, tree'.LeadsTo path (.name parent name false) := by
  cases h with
  | stored grows leads free => exact ⟨_, _, (Extends.put free).leadsTo leads⟩

end Stores

/-- What a file holds is read by a path that leads to it. -/
theorem read_of_leadsTo {parent : Location} {name : String}
    (leads : tree.LeadsTo path (.name parent name false))
    (held : tree.content? (path.place tree.here) = some content) :
    tree.read path = .ok content := by
  rw [← leads.concat_eq_place.1, content?_eq_some_iff] at held
  rw [read, find_of_name leads, held]
  rfl

/-! ### Files are stored one after the other -/

/-- The files that were stored, of some that are to be, and the tree at the end. -/
def storeAll (tree : FileTree) : List (Path × Bytes) → List (Path × Bytes) × FileTree
  | [] => ([], tree)
  | file :: files =>
    match tree.store file.1 file.2 with
    | (.ok (), tree) =>
      let rest := tree.storeAll files
      (file :: rest.1, rest.2)
    | (.error _, tree) => tree.storeAll files

/-- The bytes last stored at a place, by paths that are read in `here`. -/
def lastStored? (here : Location) (stored : List (Path × Bytes)) (place : Location) :
    Option Bytes :=
  (stored.filter fun file => file.1.place here = place).getLast?.map Prod.snd

theorem lastStored?_cons (here : Location) (file : Path × Bytes) (stored : List (Path × Bytes))
    (place : Location) :
    lastStored? here (file :: stored) place =
      (lastStored? here stored place).or
        (if file.1.place here = place then some file.2 else none) := by
  by_cases same : file.1.place here = place
  · simp only [lastStored?, List.filter_cons, same, decide_true, if_true, List.getLast?_cons]
    cases (stored.filter fun file => file.1.place here = place).getLast? <;> rfl
  · simp [lastStored?, same]

theorem isSome_lastStored? {here : Location} {stored : List (Path × Bytes)} {place : Location} :
    (lastStored? here stored place).isSome ↔ ∃ file ∈ stored, file.1.place here = place := by
  simp [lastStored?]

/-- A tree after stores: its folders stay, and a file holds what was last stored at its place, or
what it held before. -/
structure Holds (tree : FileTree) (stored : List (Path × Bytes)) (tree' : FileTree) : Prop
    extends tree.Extends tree' where
  isTree : tree.IsTree → tree'.IsTree
  contents : ∀ place,
    tree'.content? place = (lastStored? tree.here stored place).or (tree.content? place)
  leads : ∀ file ∈ stored, ∃ parent name, tree'.LeadsTo file.1 (.name parent name false)

theorem holds_storeAll (tree : FileTree) (files : List (Path × Bytes)) :
    tree.Holds (tree.storeAll files).1 (tree.storeAll files).2 := by
  induction files generalizing tree with
  | nil => exact ⟨⟨rfl, fun _ folder => folder⟩, id, fun _ => rfl, by simp [storeAll]⟩
  | cons file files ih =>
      have stores := stores_store tree file.1 file.2
      rw [storeAll]
      generalize tree.store file.1 file.2 = first at stores ⊢
      obtain ⟨error | ⟨⟩, tree'⟩ := first
      · have rest := ih tree'
        refine ⟨stores.toExtends.trans rest.toExtends, rest.isTree ∘ stores.isTree, fun place => ?_,
          rest.leads⟩
        rw [rest.contents, stores.content?_of_error, stores.toExtends.here]
      · have rest := ih tree'
        refine ⟨stores.toExtends.trans rest.toExtends, rest.isTree ∘ stores.isTree, fun place => ?_,
          List.forall_mem_cons.mpr ⟨?_, rest.leads⟩⟩
        · rw [rest.contents, stores.content?_of_ok, stores.toExtends.here, lastStored?_cons]
          split <;> simp
        · obtain ⟨parent, name, leads⟩ := stores.leadsTo
          exact ⟨parent, name, rest.toExtends.leadsTo leads⟩

end StepSheet.FileTree
