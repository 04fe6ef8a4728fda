import StepSheet.Proofs.Files.Components

/-!
# Relative paths and the places they lead to

Read from a directory, a path denotes a place: each of its pieces is entered in turn, a dot stays
where it is, two dots go up, and a path from the root forgets the directory.
-/

namespace StepSheet.Path

/-! ### The place of a path -/

/-- The place that a piece between slashes leads to. A place is given by the names on the way to
it from the root, which is above itself. -/
def enter (here : List String) (piece : String) : List String :=
  if piece = "" || piece = "." then here
  else if piece = ".." then here.dropLast
  else here ++ [piece]

/-- The place that a path denotes when it is read in the directory `here`. No file is looked at. -/
def place (here : List String) (p : Path) : List String :=
  (Text.splitOn '/' p.text).foldl enter (if p.isAbsolute then [] else here)

def Component.enter (here : List String) : Component → List String
  | .root => []
  | .current => here
  | .parent => here.dropLast
  | .normal name => here ++ [name]

variable {here : List String} {p base next : Path}

theorem place_of_isAbsolute (absolute : p.isAbsolute) (here there : List String) :
    p.place here = p.place there := by
  rw [place, place, if_pos absolute, if_pos absolute]

theorem place_of_empty (empty : p.text.toList = []) (here : List String) : p.place here = here := by
  simp [place, isAbsolute, Text.splitOn, Chars.splitOn, enter, empty]

/-- A path behind a directory and a slash. -/
theorem place_of_slash {front : List Char} (relative : ¬ next.isAbsolute)
    (text : p.text.toList = front ++ '/' :: next.text.toList)
    (before : base.text.toList = front ++ ['/'] ∨ base.text.toList = front ∧ front ≠ [])
    (here : List String) : p.place here = next.place (base.place here) := by
  rw [place, place, place, if_neg relative, isAbsolute_of_slash text before]
  rcases before with before | ⟨before, -⟩
  -- The blank piece behind a slash at the end leads nowhere.
  · simp [Text.splitOn, text, before, Chars.splitOn_append, Chars.splitOn, enter]
  · simp [Text.splitOn, text, before, Chars.splitOn_append]

/-- A path joined to a directory is read in that directory. -/
theorem place_join (here : List String) (base next : Path) :
    (base.join next).place here = next.place (base.place here) := by
  by_cases absolute : next.isAbsolute
  · rw [join_absolute absolute]
    exact place_of_isAbsolute absolute _ _
  · rcases join_cases base absolute with ⟨empty, same⟩ | ⟨front, text, before⟩
    · rw [same, place_of_empty empty]
    · exact place_of_slash absolute text before here

/-! ### The place of parts -/

/-- The place that parts lead to, one after the other. -/
def follow (here : List String) (parts : List Component) : List String :=
  parts.foldl Component.enter here

theorem follow_append (here : List String) (parts more : List Component) :
    follow here (parts ++ more) = follow (follow here parts) more := List.foldl_append

theorem foldl_enter (here : List String) (pieces : List String) :
    pieces.foldl enter here = follow here (pieces.filterMap component?) := by
  induction pieces generalizing here with
  | nil => rfl
  | cons piece pieces ih =>
      rw [List.foldl_cons, ih, List.filterMap_cons]
      by_cases stay : piece = "" || piece = "."
      · simp [enter, component?, stay]
      · by_cases up : piece = ".."
        · simp [enter, component?, up, follow, Component.enter]
        · simp [enter, component?, stay, up, follow, Component.enter]

/-- A path leads where its parts do. -/
theorem place_eq_follow (here : List String) (p : Path) :
    p.place here = follow here p.components := by
  rw [place, components, foldl_enter]
  split
  · rfl
  · split <;> rfl

/-- A part is written as it is read. -/
def Component.IsWritten : Component → Prop
  | .normal name => IsName name
  | _ => True

theorem place_component {part : Component} (written : part.IsWritten) (here : List String) :
    (Path.mk part.text).place here = part.enter here := by
  cases part with
  | root => rfl
  | current => rfl
  | parent => rfl
  | normal name =>
      rw [place_eq_follow, Component.text, components_name written]
      rfl

/-- A path made of parts leads where they do. -/
theorem place_ofComponents {parts : List Component} (written : ∀ part ∈ parts, part.IsWritten)
    (here : List String) : (ofComponents parts).place here = follow here parts := by
  have onward : ∀ base : Path,
      (parts.foldl (fun p part => p.child part.text) base).place here =
        follow (base.place here) parts := by
    induction parts with
    | nil => exact fun _ => rfl
    | cons part parts ih =>
        obtain ⟨first, rest⟩ := List.forall_mem_cons.mp written
        intro base
        rw [List.foldl_cons, ih rest, child, place_join, place_component first]
        rfl
  rw [ofComponents, onward, place_of_empty (by simp)]

/-! ### The parts of a path that never goes up -/

/-- What a path starts with before its names. -/
def front (p : Path) : List Component :=
  if p.isAbsolute then [.root]
  else if (Text.splitOn '/' p.text).head? = some "." then [.current]
  else []

/-- The parts of a path behind what it starts with. -/
theorem components_eq_front (p : Path) :
    p.components = p.front ++ (Text.splitOn '/' p.text).filterMap component? := rfl

theorem component?_cases {piece : String} {part : Component} (h : component? piece = some part) :
    part = .parent ∨ part = .normal piece ∧ piece ≠ "" ∧ piece ≠ "." ∧ piece ≠ ".." := by
  grind [component?]

theorem isWritten_of_mem_components {part : Component} (h : part ∈ p.components) :
    part.IsWritten := by
  rw [components_eq_front, List.mem_append, List.mem_filterMap] at h
  rcases h with starts | ⟨piece, member, reads⟩
  · rw [front] at starts
    split at starts
    · simp_all [Component.IsWritten]
    · split at starts <;> simp_all [Component.IsWritten]
  · rcases component?_cases reads with rfl | ⟨rfl, nonempty, notCurrent, notParent⟩
    · trivial
    · obtain ⟨cs, split, rfl⟩ := List.mem_map.mp member
      refine ⟨nonempty, notCurrent, notParent, ?_⟩
      simpa using Chars.not_mem_of_mem_splitOn split

/-- A path that never goes up has names only, behind what it starts with. -/
theorem exists_names (onward : .parent ∉ p.components) :
    ∃ names : List String, p.components = p.front ++ names.map .normal := by
  rw [components_eq_front] at onward ⊢
  generalize Text.splitOn '/' p.text = pieces at onward ⊢
  suffices named : ∃ names : List String, pieces.filterMap component? = names.map .normal by
    obtain ⟨names, same⟩ := named
    exact ⟨names, by rw [same]⟩
  induction pieces with
  | nil => exact ⟨[], rfl⟩
  | cons piece pieces ih =>
      rw [List.filterMap_cons] at onward ⊢
      cases reads : component? piece with
      | none =>
          rw [reads] at onward
          exact ih onward
      | some part =>
          rw [reads] at onward
          rcases component?_cases reads with rfl | ⟨rfl, -⟩
          · exact absurd (by simp) onward
          · obtain ⟨names, same⟩ := ih fun up => onward (by simp_all)
            exact ⟨piece :: names, by simp [same]⟩

/-- A path from the root starts with it, and any other with a dot or with nothing. -/
theorem front_cases (p : Path) :
    p.isAbsolute ∧ p.front = [.root] ∨
      ¬ p.isAbsolute ∧ .current ∈ p.components ∧ p.front = [.current] ∨
      ¬ p.isAbsolute ∧ .current ∉ p.components ∧ p.front = [] := by
  have behind : .current ∉ (Text.splitOn '/' p.text).filterMap component? := by
    intro member
    obtain ⟨piece, -, reads⟩ := List.mem_filterMap.mp member
    rcases component?_cases reads with same | ⟨same, -⟩ <;> cases same
  rw [components_eq_front, List.mem_append]
  by_cases absolute : p.isAbsolute
  · exact .inl ⟨absolute, by rw [front, if_pos absolute]⟩
  · by_cases dot : (Text.splitOn '/' p.text).head? = some "."
    · exact .inr (.inl ⟨absolute, by simp [front, absolute, dot]⟩)
    · exact .inr (.inr ⟨absolute, by simp [front, absolute, dot, behind]⟩)

/-! ### Up and down again -/

theorem follow_names (here names : List String) :
    follow here (names.map .normal) = here ++ names := by
  induction names generalizing here with
  | nil => simp [follow]
  | cons name names ih =>
      have entered : follow here (.normal name :: names.map .normal) =
          follow (here ++ [name]) (names.map .normal) := rfl
      rw [List.map_cons, entered, ih, List.append_assoc, List.singleton_append]

/-- Going up leaves out the last names. -/
theorem follow_up (here : List String) (count : Nat) :
    follow here (List.replicate count .parent) = here.take (here.length - count) := by
  induction count generalizing here with
  | zero => simp [follow]
  | succ count ih =>
      have entered : follow here (.parent :: List.replicate count .parent) =
          follow here.dropLast (List.replicate count .parent) := rfl
      rw [List.replicate_succ, entered, ih, List.length_dropLast, List.dropLast_eq_take,
        List.take_take]
      congr 1
      omega

/-- A path from the root leads to one place, and any other adds its names to where it is read. -/
theorem place_of_relative (onward : .parent ∉ p.components) (relative : ¬ p.isAbsolute)
    (here : List String) : p.place here = here ++ p.place [] := by
  obtain ⟨names, parts⟩ := exists_names onward
  have start : ∀ there, follow there p.front = there := by
    intro there
    rcases front_cases p with ⟨absolute, -⟩ | ⟨-, -, starts⟩ | ⟨-, -, starts⟩
    · exact absurd absolute relative
    · rw [starts]
      rfl
    · rw [starts]
      rfl
  simp only [place_eq_follow, parts, follow_append, start, follow_names, List.nil_append]

/-- Two lists start with what is dropped from both. -/
theorem exists_shared (parts above : List Component) :
    ∃ shared, parts = shared ++ (dropCommon parts above).1 ∧
      above = shared ++ (dropCommon parts above).2 := by
  induction parts generalizing above with
  | nil => exact ⟨[], by cases above <;> rfl, by cases above <;> rfl⟩
  | cons part parts ih =>
      cases above with
      | nil => exact ⟨[], rfl, rfl⟩
      | cons first above =>
          by_cases same : part = first
          · obtain ⟨shared, left, right⟩ := ih above
            refine ⟨part :: shared, ?_, ?_⟩
            · simpa [dropCommon, same] using left
            · simpa [dropCommon, same] using right
          · exact ⟨[], by simp [dropCommon, same], by simp [dropCommon, same]⟩

/-- The relative path is read in the directory part by part. -/
theorem place_relativeTo {down up : List Component}
    (dropped : dropCommon p.components base.components = (down, up)) (here : List String) :
    (base.join (p.relativeTo base)).place here =
      follow (follow (base.place here) (List.replicate up.length .parent)) down := by
  obtain ⟨shared, parts, -⟩ := exists_shared p.components base.components
  rw [dropped] at parts
  have written : ∀ part ∈ List.replicate up.length .parent ++ down, part.IsWritten := by
    intro part member
    rcases List.mem_append.mp member with climbs | member
    · rw [List.eq_of_mem_replicate climbs]
      trivial
    · exact isWritten_of_mem_components (parts ▸ List.mem_append_right shared member)
  rw [place_join, relativeTo, dropped, place_ofComponents written, follow_append]

/-- Up from the names that the directory has for itself, and down to the path. -/
theorem leads_back_of_names {down : List Component} {names : List String}
    (dropped : dropCommon p.components base.components = (down, names.map .normal))
    (here : List String) : (base.join (p.relativeTo base)).place here = p.place here := by
  obtain ⟨shared, parts, above⟩ := exists_shared p.components base.components
  rw [dropped] at parts above
  rw [place_relativeTo dropped, place_eq_follow, place_eq_follow, parts, above, follow_append,
    follow_append, follow_names, List.length_map, follow_up, List.length_append,
    Nat.add_sub_cancel, List.take_left]

/-- Names are left of names. -/
theorem dropCommon_names (parts : List Component) (names : List String) :
    ∃ (down : List Component) (rest : List String),
      dropCommon parts (names.map .normal) = (down, rest.map .normal) := by
  obtain ⟨shared, -, above⟩ := exists_shared parts (names.map .normal)
  obtain ⟨before, rest, -, -, left⟩ := List.map_eq_append_iff.mp above
  exact ⟨_, rest, Prod.ext rfl left.symm⟩

/-- A directory that starts with nothing, or with what the path starts with, is climbed by its
names only. -/
theorem leads_back_of_front (onward : .parent ∉ p.components) (onward' : .parent ∉ base.components)
    (start : base.front = [] ∨ p.front = base.front) (here : List String) :
    (base.join (p.relativeTo base)).place here = p.place here := by
  obtain ⟨names, parts⟩ := exists_names onward
  obtain ⟨names', above⟩ := exists_names onward'
  rcases start with nothing | same
  · rw [nothing, List.nil_append] at above
    obtain ⟨down, rest, dropped⟩ := dropCommon_names p.components names'
    rw [← above] at dropped
    exact leads_back_of_names dropped here
  · obtain ⟨down, rest, dropped⟩ := dropCommon_names (names.map .normal) names'
    rw [← dropCommon_append base.front, ← above, ← same, ← parts] at dropped
    exact leads_back_of_names dropped here

theorem dropCommon_of_head? {parts above : List Component} (differ : parts.head? ≠ above.head?) :
    dropCommon parts above = (parts, above) := by
  cases parts with
  | nil => cases above <;> rfl
  | cons part parts =>
      cases above with
      | nil => rfl
      | cons first above => simp_all [dropCommon]

/-- What a directory starts with is climbed like a directory if the path does not start with
it. -/
theorem place_of_front {first : Component} (onward : .parent ∉ p.components)
    (onward' : .parent ∉ base.components) (start : base.front = [first])
    (differ : p.front ≠ [first]) (here : List String) :
    (base.join (p.relativeTo base)).place here = p.place (first.enter here).dropLast := by
  obtain ⟨names, parts⟩ := exists_names onward
  obtain ⟨names', above⟩ := exists_names onward'
  have dropped : dropCommon p.components base.components = (p.components, base.components) := by
    apply dropCommon_of_head?
    have unnamed : ∀ name, Component.normal name ≠ first := by
      rcases front_cases base with ⟨-, is⟩ | ⟨-, -, is⟩ | ⟨-, -, is⟩ <;> grind
    rw [parts, above, start]
    rcases front_cases p with ⟨-, start'⟩ | ⟨-, -, start'⟩ | ⟨-, -, start'⟩
    · simpa [start'] using differ
    · simpa [start'] using differ
    · cases names <;> simp [start', unnamed]
  have entered : follow here (first :: names'.map .normal) =
      follow (first.enter here) (names'.map .normal) := rfl
  rw [place_relativeTo dropped, place_eq_follow, place_eq_follow, above, start,
    List.singleton_append, entered, follow_names, follow_up, List.length_append, List.length_cons,
    List.length_map, List.take_append_of_le_length (by omega), List.dropLast_eq_take]
  congr 2
  omega

/-- From a relative path, no other place than `here` leads where it leads from there. -/
theorem place_inj (onward : .parent ∉ p.components) (relative : ¬ p.isAbsolute)
    {here there : List String} : p.place there = p.place here ↔ there = here := by
  rw [place_of_relative onward relative here, place_of_relative onward relative there,
    List.append_left_inj]

/-- Only the root is above itself. -/
theorem dropLast_eq_self {here : List String} : here.dropLast = here ↔ here = [] := by
  constructor
  · intro same
    have shorter := congrArg List.length same
    rw [List.length_dropLast] at shorter
    apply List.eq_nil_of_length_eq_zero
    omega
  · rintro rfl
    rfl

/-- The path that leads from a directory to a path without two dots leads back to it exactly if
it does not climb what the directory starts with: from the root, to a path from the root, or
between relative paths where the directory has no dot in front that the path lacks. -/
theorem leads_back_iff (onward : .parent ∉ p.components) (onward' : .parent ∉ base.components)
    (here : List String) :
    (base.join (p.relativeTo base)).place here = p.place here ↔
      here = [] ∨ p.isAbsolute ∨
        ¬ base.isAbsolute ∧ (.current ∈ base.components → .current ∈ p.components) := by
  rcases front_cases base with ⟨absolute', start⟩ | ⟨relative', dot', start⟩ |
      ⟨relative', dotless', start⟩
  · rcases front_cases p with ⟨absolute, start'⟩ | ⟨relative, -, start'⟩ | ⟨relative, -, start'⟩
    · simp [leads_back_of_front onward onward' (.inr (start'.trans start.symm)), absolute]
    · rw [place_of_front onward onward' start (by simp [start']), place_inj onward relative]
      simp [Component.enter, absolute', relative, eq_comm]
    · rw [place_of_front onward onward' start (by simp [start']), place_inj onward relative]
      simp [Component.enter, absolute', relative, eq_comm]
  · rcases front_cases p with ⟨absolute, start'⟩ | ⟨-, dot, start'⟩ | ⟨relative, dotless, start'⟩
    · rw [place_of_front onward onward' start (by simp [start'])]
      simp [place_of_isAbsolute absolute _ here, absolute]
    · simp [leads_back_of_front onward onward' (.inr (start'.trans start.symm)), relative', dot]
    · rw [place_of_front onward onward' start (by simp [start']), place_inj onward relative]
      simp [Component.enter, relative, dot', dotless, dropLast_eq_self]
  · simp [leads_back_of_front onward onward' (.inl start), relative', dotless']

/-- From a folder beside the screenshots. -/
theorem summaries_lead_back :
    let p : Path := ⟨"screenshots/2025-01-02/TestA/Step_1_FILL.png"⟩
    let base : Path := ⟨"report-summary/summaries"⟩
    (base.join (p.relativeTo base)).place ["home", "run"] = p.place ["home", "run"] :=
  (leads_back_iff (by decide +kernel) (by decide +kernel) ["home", "run"]).mpr
    (.inr (.inr ⟨by decide +kernel, by decide +kernel⟩))

/-- A dot in front of the directory takes the path one step too far up. -/
theorem dot_leads_astray :
    let p : Path := ⟨"report/shots/2030-01-01/TestIn/Step_1_FILL.png"⟩
    let base : Path := ⟨"./report"⟩
    .parent ∉ p.components ∧ .parent ∉ base.components ∧
      p.relativeTo base = ⟨"../../report/shots/2030-01-01/TestIn/Step_1_FILL.png"⟩ ∧
      (base.join (p.relativeTo base)).place ["home", "run"] ≠ p.place ["home", "run"] := by
  decide +kernel

end StepSheet.Path
