import Mathlib.Data.List.DropRight
import Mathlib.Data.List.TakeWhile
import StepSheet.Text.Blank

/-!
# Texts up to blanks and case

Trimming takes the blanks off both ends of a text and nothing else. Blanks at the ends and the
case of ASCII letters do not show in what is left when both are dropped. They can be dropped in
either order, since no letter is a blank in either case.
-/

namespace StepSheet

/-- What no ASCII letter shows in one case only does not depend on the case. -/
theorem apply_toLower {p : Char → Bool}
    (letters : ∀ n < 26, p (Char.ofNat (65 + n)).toLower = p (Char.ofNat (65 + n))) (c : Char) :
    p c.toLower = p c := by
  by_cases upper : 65 ≤ c.toNat ∧ c.toNat ≤ 90
  · have found := letters (c.toNat - 65) (by omega)
    rwa [Nat.add_sub_cancel' upper.1, Char.ofNat_toNat] at found
  · have same : c.toLower = c := by
      refine dif_neg ?_
      rintro ⟨low, high⟩
      exact upper ⟨UInt32.le_iff_toNat_le.mp low, UInt32.le_iff_toNat_le.mp high⟩
    rw [same]

theorem isBlank_toLower (c : Char) : isBlank c.toLower = isBlank c := apply_toLower (by decide) c

namespace Chars

variable {before cs after : List Char}

/-- Characters without those of a kind at the ends. -/
def strip (p : Char → Bool) (cs : List Char) : List Char := (cs.dropWhile p).rdropWhile p

theorem trim_eq_strip (cs : List Char) : trim cs = strip isBlank cs := rfl

/-- Characters of the kind around a text are stripped with its own. -/
theorem strip_append {p : Char → Bool} (h : before.all p) (h' : after.all p) :
    strip p (before ++ cs ++ after) = strip p cs := by
  rw [strip, List.append_assoc, List.dropWhile_append_of_pos (List.all_eq_true.mp h),
    List.dropWhile_append]
  split
  · next nothing =>
    have left : cs.dropWhile p = [] := List.isEmpty_iff.mp nothing
    have right : after.dropWhile p = [] := List.dropWhile_eq_nil_iff.mpr (List.all_eq_true.mp h')
    rw [strip, left, right]
  · have reversed : ∀ c ∈ after.reverse, p c :=
      fun c member => List.all_eq_true.mp h' c (List.mem_reverse.mp member)
    rw [List.rdropWhile, List.reverse_append, List.dropWhile_append_of_pos reversed]
    rfl

theorem strip_eq_self {p : Char → Bool} (first : ∀ c ∈ cs.head?, p c = false)
    (last : ∀ c ∈ cs.getLast?, p c = false) : strip p cs = cs := by
  have left : cs.dropWhile p = cs := by
    cases cs with
    | nil => rfl
    | cons c cs => exact List.dropWhile_cons_of_neg (by simpa using first)
  rw [strip, left, List.rdropWhile_eq_self_iff]
  intro nonempty
  simpa using last _ (List.getLast?_eq_some_getLast nonempty)

/-- Only characters of the kind are stripped. -/
theorem exists_around_strip (p : Char → Bool) (cs : List Char) :
    ∃ before after, cs = before ++ strip p cs ++ after ∧ before.all p ∧ after.all p := by
  have right : ((cs.dropWhile p).rtakeWhile p).all p :=
    List.all_eq_true.mpr fun _ => List.mem_rtakeWhile_imp
  refine ⟨cs.takeWhile p, (cs.dropWhile p).rtakeWhile p, ?_, List.all_takeWhile, right⟩
  rw [strip, List.append_assoc, List.rdropWhile_append_rtakeWhile]
  exact List.takeWhile_append_dropWhile.symm

structure IsTrimmed (cs : List Char) : Prop where
  first : ∀ c ∈ cs.head?, isBlank c = false
  last : ∀ c ∈ cs.getLast?, isBlank c = false

theorem IsTrimmed.trim_eq (h : IsTrimmed cs) : trim cs = cs := strip_eq_self h.first h.last

theorem isTrimmed_trim (cs : List Char) : IsTrimmed (trim cs) := by
  rw [trim_eq_strip, strip]
  constructor
  · intro c member
    obtain ⟨dropped, whole⟩ := List.rdropWhile_prefix isBlank (l := cs.dropWhile isBlank)
    have front : c ∈ (cs.dropWhile isBlank).head? := by
      rw [← whole, List.head?_append, Option.mem_def.mp member]
      rfl
    have found := List.head?_dropWhile_not isBlank cs
    rw [Option.mem_def.mp front] at found
    exact found
  · intro c member
    obtain ⟨nonempty, rfl⟩ := List.mem_getLast?_eq_getLast member
    simpa using List.rdropWhile_last_not isBlank (cs.dropWhile isBlank) nonempty

/-- Only blanks are trimmed. -/
theorem exists_around_trim (cs : List Char) :
    ∃ before after, cs = before ++ trim cs ++ after ∧ before.all isBlank ∧ after.all isBlank :=
  exists_around_strip isBlank cs

/-- Blanks around a text are trimmed with its own. -/
theorem trim_append (blank : before.all isBlank) (blank' : after.all isBlank) :
    trim (before ++ cs ++ after) = trim cs :=
  strip_append blank blank'

theorem IsTrimmed.of_forall (ink : ∀ c ∈ cs, isBlank c = false) : IsTrimmed cs :=
  ⟨fun c member => ink c (List.mem_of_head? member),
    fun c member => ink c (List.mem_of_getLast? member)⟩

theorem lower_trimLeft (cs : List Char) : lower (trimLeft cs) = trimLeft (lower cs) := by
  have same : isBlank ∘ Char.toLower = isBlank := funext isBlank_toLower
  rw [trimLeft, trimLeft, lower, lower, List.dropWhile_map, same]

theorem lower_trim (cs : List Char) : lower (trim cs) = trim (lower cs) := by
  have reversed (cs : List Char) : lower cs.reverse = (lower cs).reverse := List.map_reverse
  have right (cs : List Char) : lower (trimRight cs) = trimRight (lower cs) := by
    rw [trimRight, reversed, trimRight, ← reversed cs]
    exact congrArg List.reverse (lower_trimLeft cs.reverse)
  rw [trim, right, lower_trimLeft, trim]

end Chars

end StepSheet
