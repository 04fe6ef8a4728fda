import Mathlib.Data.List.Basic
import StepSheet.Text.Blank

/-!
# Words

The words of a text are the pieces between its blanks, without those that are empty. So they
can be told from words joined by single spaces.
-/

namespace StepSheet.Chars

structure IsWord (word : List Char) : Prop where
  nonempty : word ≠ []
  ink : ∀ c ∈ word, isBlank c = false

def joined (words : List (List Char)) : List Char := [' '].intercalate words

variable {word : List Char} {words more : List (List Char)}

@[simp] theorem joined_nil : joined [] = [] := rfl

@[simp] theorem joined_singleton (word : List Char) : joined [word] = word :=
  List.intercalate_singleton

theorem joined_cons (nonempty : words ≠ []) (word : List Char) :
    joined (word :: words) = word ++ ' ' :: joined words := by
  simp [joined, List.intercalate_cons_of_ne_nil nonempty]

theorem joined_append (nonempty : words ≠ []) (nonempty' : more ≠ []) :
    joined (words ++ more) = joined words ++ ' ' :: joined more := by
  induction words with
  | nil => exact absurd rfl nonempty
  | cons first words ih =>
      by_cases last : words = []
      · rw [last, List.singleton_append, joined_cons nonempty', joined_singleton]
      · have behind : words ++ more ≠ [] := by simp [last]
        rw [List.cons_append, joined_cons behind, joined_cons last, ih last, List.append_assoc,
          List.cons_append]

theorem joined_ne_nil (nonempty : words ≠ []) (each : ∀ word ∈ words, word ≠ []) :
    joined words ≠ [] := by
  cases words with
  | nil => exact absurd rfl nonempty
  | cons first words =>
      by_cases last : words = []
      · simpa [last] using each first (by simp)
      · simp [joined_cons last]

theorem wordsFrom_eq_filter (run cs : List Char) :
    wordsFrom run cs = ((cs.splitOnP isBlank).modifyHead (run ++ ·)).filter (· ≠ []) := by
  induction cs generalizing run with
  | nil => cases run <;> simp [wordsFrom, List.splitOnP_nil]
  | cons c cs ih =>
      obtain ⟨piece, pieces, split⟩ := List.exists_cons_of_ne_nil (List.splitOnP_ne_nil isBlank cs)
      rw [wordsFrom, List.splitOnP_cons_eq_if_modifyHead]
      split
      · cases run <;> simp [ih, split]
      · simp [ih, split]

/-- Words are what stands between blanks. -/
theorem words_eq_filter (cs : List Char) :
    Chars.words cs = (cs.splitOnP isBlank).filter (· ≠ []) := by
  rw [Chars.words, wordsFrom_eq_filter]
  cases cs.splitOnP isBlank <;> rfl

/-- No blank is left in what stands between blanks. -/
theorem isBlank_of_mem_splitOnP {cs piece : List Char} (h : piece ∈ cs.splitOnP isBlank) :
    ∀ c ∈ piece, isBlank c = false := by
  induction cs generalizing piece with
  | nil =>
      rw [List.splitOnP_nil, List.mem_singleton] at h
      simp [h]
  | cons c cs ih =>
      obtain ⟨first, pieces, split⟩ := List.exists_cons_of_ne_nil (List.splitOnP_ne_nil isBlank cs)
      rw [List.splitOnP_cons_eq_if_modifyHead, split] at h
      rw [split] at ih
      split at h
      · rcases List.mem_cons.mp h with rfl | later
        · simp
        · exact ih later
      · next ink =>
        rcases List.mem_cons.mp h with rfl | later
        · exact List.forall_mem_cons.mpr ⟨by simpa using ink, ih List.mem_cons_self⟩
        · exact ih (List.mem_cons_of_mem _ later)

theorem isWord_of_mem_words {cs : List Char} (h : word ∈ Chars.words cs) : IsWord word := by
  rw [words_eq_filter, List.mem_filter] at h
  exact ⟨by simpa using h.2, isBlank_of_mem_splitOnP h.1⟩

/-- A blank ends the words before it. -/
theorem words_append_blank {blank : Char} (h : isBlank blank) (before after : List Char) :
    Chars.words (before ++ blank :: after) = Chars.words before ++ Chars.words after := by
  rw [words_eq_filter, List.splitOnP_append_cons _ _ h, List.filter_append, ← words_eq_filter,
    ← words_eq_filter]

theorem words_of_isWord (h : IsWord word) : Chars.words word = [word] := by
  rw [words_eq_filter, List.splitOnP_eq_singleton h.ink]
  simp [h.nonempty]

/-- Joined words are read back. -/
theorem words_joined (each : ∀ word ∈ words, IsWord word) : Chars.words (joined words) = words := by
  induction words with
  | nil => rfl
  | cons word words ih =>
      obtain ⟨first, rest⟩ := List.forall_mem_cons.mp each
      by_cases last : words = []
      · subst last
        simpa using words_of_isWord first
      · have space : isBlank ' ' := by decide
        rw [joined_cons last, words_append_blank space, words_of_isWord first, ih rest]
        rfl

/-- There are no words exactly where everything is blank. -/
theorem words_eq_nil_iff {cs : List Char} : Chars.words cs = [] ↔ cs.all isBlank := by
  induction cs with
  | nil => simp
  | cons c cs ih =>
      by_cases blank : isBlank c
      · have skipped : Chars.words (c :: cs) = Chars.words cs := words_append_blank blank [] cs
        rw [skipped, ih, List.all_cons, blank, Bool.true_and]
      · obtain ⟨piece, pieces, split⟩ :=
          List.exists_cons_of_ne_nil (List.splitOnP_ne_nil isBlank cs)
        simp [words_eq_filter, List.splitOnP_cons_eq_if_modifyHead, blank, split]

end StepSheet.Chars
