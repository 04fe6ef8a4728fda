import StepSheet.Files.Path

/-!
# The parts of a child

A name that is a single part of a path adds that part to those of any directory it is
joined to. What leads from a directory to a path below it are the parts that were added.
-/

namespace StepSheet

namespace Chars

variable {sep : Char}

theorem splitOn_append (sep : Char) (front back : List Char) :
    splitOn sep (front ++ sep :: back) = splitOn sep front ++ splitOn sep back := by
  induction front with
  | nil => simp [splitOn]
  | cons c front ih =>
      by_cases same : c = sep
      · simp [splitOn, same, ih]
      · obtain ⟨piece, pieces, split⟩ := List.exists_cons_of_ne_nil (splitOn_ne_nil sep front)
        rw [split] at ih
        simp [splitOn, same, ih, split]

theorem splitOn_of_not_mem {cs : List Char} (h : sep ∉ cs) : splitOn sep cs = [cs] := by
  induction cs with
  | nil => rfl
  | cons c cs ih =>
      have ne : c ≠ sep := fun same => h (by simp [same])
      have rest : sep ∉ cs := fun member => h (List.mem_cons_of_mem c member)
      simp [splitOn, ih rest, ne]

theorem not_mem_of_mem_splitOn {cs piece : List Char} (h : piece ∈ splitOn sep cs) :
    sep ∉ piece := by
  induction cs generalizing piece with
  | nil => simp_all [splitOn]
  | cons c cs ih =>
      obtain ⟨first, pieces, split⟩ := List.exists_cons_of_ne_nil (splitOn_ne_nil sep cs)
      rw [split] at ih
      by_cases same : c = sep
      · rw [splitOn, if_pos same, split, List.mem_cons] at h
        rcases h with rfl | later
        · simp
        · exact ih later
      · simp only [splitOn, if_neg same, split, List.mem_cons] at h
        rcases h with rfl | later
        · simpa [Ne.symm same] using ih (List.mem_cons_self ..)
        · exact ih (List.mem_cons_of_mem _ later)

end Chars

namespace Path

/-- A text that is a single part of a path, of the kind that has a name. -/
structure IsName (name : String) : Prop where
  nonempty : name ≠ ""
  notCurrent : name ≠ "."
  notParent : name ≠ ".."
  noSlash : '/' ∉ name.toList

variable {base next p : Path} {name : String}

/-- A text too long for dots that mean a directory. -/
theorem IsName.of_length (long : 2 < name.toList.length) (noSlash : '/' ∉ name.toList) :
    IsName name := by
  refine ⟨?_, ?_, ?_, noSlash⟩
  · rintro rfl
    exact absurd long (by decide)
  · rintro rfl
    exact absurd long (by decide)
  · rintro rfl
    exact absurd long (by decide)

theorem IsName.component? (h : IsName name) : Path.component? name = some (.normal name) := by
  simp [Path.component?, h.nonempty, h.notCurrent, h.notParent]

theorem IsName.splitOn (h : IsName name) : Chars.splitOn '/' name.toList = [name.toList] :=
  Chars.splitOn_of_not_mem h.noSlash

theorem IsName.not_isAbsolute (h : IsName name) : ¬ (Path.mk name).isAbsolute := by
  intro absolute
  exact h.noSlash (List.mem_of_mem_head? (of_decide_eq_true absolute))

theorem components_name (h : IsName name) : (Path.mk name).components = [.normal name] := by
  have relative := h.not_isAbsolute
  simp [components, Text.splitOn, h.splitOn, h.component?, h.notCurrent, relative]

/-! ### Behind a directory -/

/-- A relative path joined to a directory stands behind it and a slash, of which the directory may
have the last one, unless the directory has no text. -/
theorem join_cases (base : Path) (relative : ¬ next.isAbsolute) :
    base.text.toList = [] ∧ base.join next = next ∨
      ∃ front, (base.join next).text.toList = front ++ '/' :: next.text.toList ∧
        (base.text.toList = front ++ ['/'] ∨ base.text.toList = front ∧ front ≠ []) := by
  by_cases empty : base.text.toList = []
  · have none : base.text = "" := by simpa using empty
    exact .inl ⟨empty, by simp [join, relative, isEmpty, none]⟩
  by_cases slash : base.text.toList.getLast? = some '/'
  · obtain ⟨front, ends⟩ := List.getLast?_eq_some_iff.mp slash
    exact .inr ⟨front, by simp [join, relative, ends], .inl ends⟩
  · refine .inr ⟨base.text.toList, ?_, .inr ⟨rfl, empty⟩⟩
    simp [join, relative, isEmpty, slash, empty]

theorem isAbsolute_of_slash {front back : List Char} (text : p.text.toList = front ++ '/' :: back)
    (before : base.text.toList = front ++ ['/'] ∨ base.text.toList = front ∧ front ≠ []) :
    p.isAbsolute = base.isAbsolute := by
  cases front with
  | nil => simp_all [isAbsolute]
  | cons c front => rcases before with before | ⟨before, -⟩ <;> simp [isAbsolute, text, before]

/-- A name behind a directory and a slash. -/
theorem components_of_slash {front : List Char} (h : IsName name)
    (text : p.text.toList = front ++ '/' :: name.toList)
    (before : base.text.toList = front ++ ['/'] ∨ base.text.toList = front ∧ front ≠ []) :
    p.components = base.components ++ [.normal name] := by
  have absolute := isAbsolute_of_slash text before
  obtain ⟨piece, pieces, split⟩ := List.exists_cons_of_ne_nil (Chars.splitOn_ne_nil '/' front)
  have last : [name].filterMap component? = [.normal name] := by simp [h.component?]
  -- A slash at the end of the directory leaves a blank piece, which is no part.
  have blank : [""].filterMap component? = [] := rfl
  rcases before with before | ⟨before, -⟩
  · simp only [components, Text.splitOn, text, before, Chars.splitOn_append, split, h.splitOn,
      Chars.splitOn, absolute, List.map_append, List.map_cons, List.map_nil, List.cons_append,
      List.head?_cons, String.ofList_toList, String.ofList_nil]
    simp only [← List.cons_append, List.filterMap_append, last, blank, List.append_nil,
      List.append_assoc]
  · simp only [components, Text.splitOn, text, before, Chars.splitOn_append, split, h.splitOn,
      absolute, List.map_append, List.map_cons, List.map_nil, List.cons_append, List.head?_cons,
      String.ofList_toList]
    simp only [← List.cons_append, List.filterMap_append, last, List.append_assoc]

/-- A child has the parts of its directory and its name. -/
theorem components_child (base : Path) (h : IsName name) :
    (base.child name).components = base.components ++ [.normal name] := by
  rw [child]
  rcases join_cases base h.not_isAbsolute with ⟨empty, same⟩ | ⟨front, text, before⟩
  · have root : base.components = [] := by
      simp [components, Text.splitOn, empty, isAbsolute, Chars.splitOn, component?]
    rw [same, root, components_name h, List.nil_append]
  · exact components_of_slash h text before

/-- Two children of a directory are the same only if their names are. -/
theorem child_injective (base : Path) {other : String} (relative : ¬ (Path.mk name).isAbsolute)
    (relative' : ¬ (Path.mk other).isAbsolute) (same : base.child name = base.child other) :
    name = other := by
  have texts := congrArg (fun p : Path => p.text.toList) same
  simp only [child, join, relative, relative', Bool.false_eq_true, if_false] at texts
  apply String.toList_inj.mp
  split at texts <;> simpa using texts

/-- The parts behind a directory lead from it to a path. -/
theorem below?_of_components {rest : List Component}
    (h : p.components = base.components ++ rest) : p.below? base = some rest := by
  have dropped : dropCommon p.components base.components = dropCommon rest [] := by
    rw [h]
    simpa using dropCommon_append base.components rest []
  have all : dropCommon rest [] = (rest, []) := by
    cases rest <;> rfl
  rw [below?, dropped, all]

theorem components_of_dropCommon {parts above rest : List Component}
    (h : dropCommon parts above = (rest, [])) : parts = above ++ rest := by
  induction above generalizing parts with
  | nil => cases parts <;> simpa [dropCommon] using h
  | cons part above ih =>
      cases parts with
      | nil => simp [dropCommon] at h
      | cons first parts =>
          rw [dropCommon] at h
          split at h
          · next same => rw [same, ih h, List.cons_append]
          · simp at h

theorem components_of_below? {rest : List Component} (h : p.below? base = some rest) :
    p.components = base.components ++ rest := by
  rw [below?] at h
  split at h
  · next same =>
    cases h
    exact components_of_dropCommon same
  · simp at h

end Path

end StepSheet
