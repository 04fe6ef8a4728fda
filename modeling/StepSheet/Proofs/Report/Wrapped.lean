import Mathlib.Data.List.Chain
import StepSheet.Report.Console
import StepSheet.Proofs.Text.Words

/-!
# Wrapped lines

Wrapping groups the words of a text into lines, without a change to the words or their order.
A line takes words as long as they fit, so a line that is wider than allowed is a single word,
and the first word of a line did not fit on the line before.
-/

namespace StepSheet.Chars

/-- Words grouped into lines of a width: a line is wider only with a single word, and the first
word of a line does not fit behind the line before. -/
structure IsLayout (width : Nat) (words : List (List Char)) (lines : List (List (List Char))) :
    Prop where
  flatten : lines.flatten = words
  nonempty : [] ∉ lines
  fits : ∀ line ∈ lines, (joined line).length ≤ width ∨ ∃ word, line = [word]
  full : lines.IsChain fun line next =>
    ∃ word, next.head? = some word ∧ width < (joined line ++ ' ' :: word).length

variable {width : Nat} {line words : List (List Char)} {lines : List (List (List Char))}

theorem IsLayout.single (nonempty : line ≠ [])
    (fits : (joined line).length ≤ width ∨ ∃ word, line = [word]) :
    IsLayout width line [line] := by
  refine ⟨by simp, ?_, ?_, .singleton line⟩
  · simpa using nonempty.symm
  · simpa using fits

/-- A line in front of others, on which their first word does not fit. -/
theorem IsLayout.cons {word : List Char} (rest : IsLayout width (word :: words) lines)
    (nonempty : line ≠ []) (fits : (joined line).length ≤ width ∨ ∃ word, line = [word])
    (full : width < (joined line ++ ' ' :: word).length) :
    IsLayout width (line ++ word :: words) (line :: lines) := by
  refine ⟨by rw [List.flatten_cons, rest.flatten], ?_, List.forall_mem_cons.mpr ⟨fits, rest.fits⟩,
    List.isChain_cons.mpr ⟨fun next first => ?_, rest.full⟩⟩
  · exact List.not_mem_cons_of_ne_of_not_mem nonempty.symm rest.nonempty
  · obtain ⟨later, rfl⟩ := List.head?_eq_some_iff.mp (Option.mem_def.mp first)
    -- The lines hold the words in order, so the next line begins with the next word.
    cases next with
    | nil => exact absurd List.mem_cons_self rest.nonempty
    | cons head more =>
        have same := rest.flatten
        rw [List.flatten_cons, List.cons_append, List.cons.injEq] at same
        exact ⟨head, rfl, same.1 ▸ full⟩

/-- Filling goes on with the line that is begun. -/
theorem exists_layout_fill (ink : ∀ word ∈ line ++ words, word ≠ [])
    (fits : (joined line).length ≤ width ∨ ∃ word, line = [word]) :
    ∃ lines, fill width (joined line) words = lines.map joined ∧
      IsLayout width (line ++ words) lines := by
  induction words generalizing line with
  | nil =>
      by_cases begun : line = []
      · subst begun
        exact ⟨[], by simp [fill], rfl, by simp, by simp, .nil⟩
      · have some : joined line ≠ [] := joined_ne_nil begun (by simpa using ink)
        refine ⟨[line], by simp [fill, some], ?_⟩
        simpa using IsLayout.single begun fits
  | cons word words ih =>
      -- A line that begins with the word takes it however long it is.
      have fresh : ∃ lines, fill width word words = lines.map joined ∧
          IsLayout width (word :: words) lines := by
        have inked : ∀ other ∈ [word] ++ words, other ≠ [] :=
          fun other member => ink other (List.mem_append_right line member)
        have alone := ih inked (.inr ⟨word, rfl⟩)
        rwa [joined_singleton] at alone
      by_cases begun : line = []
      · subst begun
        simpa [fill] using fresh
      have some : joined line ≠ [] :=
        joined_ne_nil begun fun other member => ink other (List.mem_append_left _ member)
      have onward : joined (line ++ [word]) = joined line ++ ' ' :: word := by
        rw [joined_append begun (by simp), joined_singleton]
      by_cases room : (joined line).length + word.length + 1 ≤ width
      · have fits' : (joined (line ++ [word])).length ≤ width := by
          rw [onward, List.length_append, List.length_cons]
          omega
        have longer := ih (by simpa using ink) (.inl fits')
        rw [onward] at longer
        simpa [fill, some, room] using longer
      · obtain ⟨lines, filled, layout⟩ := fresh
        refine ⟨line :: lines, by simp [fill, some, room, filled], layout.cons begun fits ?_⟩
        rw [List.length_append, List.length_cons]
        omega

/-- Wrapping lays out the words of a text. -/
theorem exists_layout_wrap (width : Nat) (cs : List Char) :
    ∃ lines, wrap width cs = lines.map joined ∧ IsLayout width (Chars.words cs) lines := by
  have ink : ∀ word ∈ [] ++ Chars.words cs, word ≠ [] :=
    fun word member => (isWord_of_mem_words member).nonempty
  exact exists_layout_fill ink (.inl (Nat.zero_le width))

/-- Without an empty line, there are no words only if there are no lines. -/
theorem flatten_eq_nil_iff_of_nonempty (nonempty : [] ∉ lines) :
    lines.flatten = [] ↔ lines = [] := by
  constructor
  · intro none
    refine List.eq_nil_iff_forall_not_mem.mpr fun line member => nonempty ?_
    exact List.flatten_eq_nil_iff.mp none line member ▸ member
  · rintro rfl
    rfl

/-- Lines joined are their words joined. -/
theorem joined_map_joined (nonempty : [] ∉ lines) :
    joined (lines.map joined) = joined lines.flatten := by
  induction lines with
  | nil => rfl
  | cons line lines ih =>
      obtain ⟨some, rest⟩ := not_or.mp (List.mem_cons.not.mp nonempty)
      by_cases last : lines = []
      · simp [last]
      · have more : lines.flatten ≠ [] := (flatten_eq_nil_iff_of_nonempty rest).not.mpr last
        rw [List.map_cons, joined_cons (List.map_eq_nil_iff.not.mpr last), ih rest,
          List.flatten_cons, joined_append (Ne.symm some) more]

/-- Lines that were joined are read back word by word. -/
theorem flatMap_words_map_joined (each : ∀ line ∈ lines, ∀ word ∈ line, IsWord word) :
    (lines.map joined).flatMap Chars.words = lines.flatten := by
  have read : ∀ line ∈ lines, Chars.words (joined line) = line :=
    fun line member => words_joined (each line member)
  calc (lines.map joined).flatMap Chars.words
      = lines.flatMap fun line => Chars.words (joined line) := List.flatMap_map ..
    _ = lines.flatMap id := List.flatMap_congr read
    _ = lines.flatten := List.flatMap_id ..

/-- The lines of a text joined by spaces are its words joined by spaces, and each holds words of
the text in order. No line is empty, and one that is wider than allowed is a single word. The
first word of a line does not fit behind the line before. There are no lines exactly if the
text is blank. -/
theorem wrap_keeps_words (width : Nat) (cs : List Char) :
    [' '].intercalate (wrap width cs) = [' '].intercalate (Chars.words cs) ∧
      (wrap width cs).flatMap Chars.words = Chars.words cs ∧
      (∀ line ∈ wrap width cs, line ≠ [] ∧ (line.length ≤ width ∨ line ∈ Chars.words cs)) ∧
      (wrap width cs).IsChain (fun line next =>
        ∃ word, (Chars.words next).head? = some word ∧
          width < (line ++ ' ' :: word).length) ∧
      (wrap width cs = [] ↔ cs.all isBlank) := by
  obtain ⟨lines, wrapped, layout⟩ := exists_layout_wrap width cs
  have each : ∀ line ∈ lines, ∀ word ∈ line, IsWord word := by
    intro line member word within
    have among : word ∈ Chars.words cs := layout.flatten ▸ List.mem_flatten_of_mem member within
    exact isWord_of_mem_words among
  rw [wrapped]
  refine ⟨?_, ?_, ?_, ?_, ?_⟩
  · exact (joined_map_joined layout.nonempty).trans (congrArg joined layout.flatten)
  · rw [flatMap_words_map_joined each, layout.flatten]
  · intro line member
    obtain ⟨group, among, rfl⟩ := List.mem_map.mp member
    have some : group ≠ [] := fun none => layout.nonempty (none ▸ among)
    refine ⟨joined_ne_nil some fun word within => (each group among word within).nonempty, ?_⟩
    refine (layout.fits group among).imp_right ?_
    rintro ⟨word, rfl⟩
    rw [joined_singleton, ← layout.flatten]
    exact List.mem_flatten_of_mem among List.mem_cons_self
  · rw [List.isChain_map]
    refine layout.full.imp_of_mem_imp fun line next _ member full => ?_
    rwa [words_joined (each next member)]
  · rw [← words_eq_nil_iff, ← layout.flatten, List.map_eq_nil_iff,
      flatten_eq_nil_iff_of_nonempty layout.nonempty]

-- A word longer than a line has one of its own.
example : (wrap 4 "averyverylongword x".toList).map String.ofList =
    ["averyverylongword", "x"] := by
  decide +kernel

end StepSheet.Chars
