import Mathlib.Data.List.Nodup
import StepSheet.Analytics.Execution

/-!
# Grouping screenshots

The dates and the test cases of screenshots are listed once each, in ascending order.
The steps of a test case are those of its screenshots in another order. Screenshots of
one date make at most one execution.
-/

namespace StepSheet

namespace Analytics

/-! ### Texts in ascending order -/

theorem mem_place {s t : String} {ts : List String} : t ∈ place s ts ↔ t = s ∨ t ∈ ts := by
  induction ts with
  | nil => simp [place]
  | cons first rest ih =>
      rw [place]
      split
      · next same => simp [same]
      · split
        · simp
        · rw [List.mem_cons, ih, List.mem_cons, or_left_comm]

/-- A text at its place keeps the order strict. -/
theorem pairwise_place (s : String) {ts : List String} (h : ts.Pairwise (· < ·)) :
    (place s ts).Pairwise (· < ·) := by
  induction ts with
  | nil => simp [place]
  | cons first rest ih =>
      obtain ⟨least, sorted⟩ := List.pairwise_cons.mp h
      rw [place]
      split
      · exact h
      · next other =>
        split
        · next before =>
          refine List.pairwise_cons.mpr ⟨?_, h⟩
          intro t member
          rcases List.mem_cons.mp member with rfl | later
          · exact before
          · exact String.lt_trans before (least t later)
        · next notBefore =>
          refine List.pairwise_cons.mpr ⟨?_, ih sorted⟩
          intro t member
          rcases mem_place.mp member with rfl | later
          · refine Classical.byContradiction fun notAfter => other ?_
            exact String.le_antisymm (String.not_lt.mp notAfter) (String.not_lt.mp notBefore)
          · exact least t later

theorem mem_ascending {t : String} {texts : List String} : t ∈ ascending texts ↔ t ∈ texts := by
  induction texts with
  | nil => rfl
  | cons first rest ih =>
      rw [ascending, List.foldr_cons, mem_place, ← ascending, ih, List.mem_cons]

theorem pairwise_ascending (texts : List String) : (ascending texts).Pairwise (· < ·) := by
  induction texts with
  | nil => exact .nil
  | cons first rest ih => exact pairwise_place first ih

theorem nodup_ascending (texts : List String) : (ascending texts).Nodup := by
  refine (pairwise_ascending texts).imp ?_
  rintro s t before rfl
  exact String.lt_irrefl s before

/-- Lists with the same texts have the same texts in ascending order. -/
theorem ascending_congr {texts texts' : List String} (same : ∀ t, t ∈ texts ↔ t ∈ texts') :
    ascending texts = ascending texts' := by
  -- Neither list repeats a member, so that the same members make the same list.
  have perm : (ascending texts).Perm (ascending texts') := by
    refine (List.perm_ext_iff_of_nodup (nodup_ascending _) (nodup_ascending _)).mpr fun t => ?_
    rw [mem_ascending, mem_ascending, same]
  refine perm.eq_of_pairwise ?_ (pairwise_ascending texts) (pairwise_ascending texts')
  intro s t _ _ before after
  exact absurd (String.lt_trans before after) (String.lt_irrefl s)

/-- Texts that are all the same are listed once. -/
theorem ascending_of_eq {text : String} {texts : List String} (h : ∀ t ∈ texts, t = text)
    (some : texts ≠ []) : ascending texts = [text] := by
  have members : ∀ t, t ∈ texts ↔ t ∈ [text] := by
    intro t
    obtain ⟨first, rest, same⟩ := List.exists_cons_of_ne_nil some
    rw [List.mem_singleton]
    constructor
    · exact h t
    · rintro rfl
      have only := h first (by simp [same])
      simp [same, only]
  exact ascending_congr members

/-! ### Screenshots of one date -/

def shotsOf (root : Path) (files : List Path) : List Shot := files.filterMap (Shot.ofPath? root)

variable {root : Path} {files : List Path} {date : String}

theorem executions_eq (root : Path) (descriptions : Option Descriptions) (files : List Path) :
    executions root descriptions files =
      (ascending ((shotsOf root files).map Shot.date)).map
        (executionOf descriptions (shotsOf root files)) := rfl

/-- Screenshots of one date make one execution, if there are any. -/
theorem executions_of_date (descriptions : Option Descriptions)
    (h : ∀ shot ∈ shotsOf root files, shot.date = date) :
    executions root descriptions files = [] ∧ shotsOf root files = [] ∨
      executions root descriptions files =
        [executionOf descriptions (shotsOf root files) date] := by
  rw [executions_eq]
  by_cases none : shotsOf root files = []
  · left
    simp [none, ascending]
  · right
    have dates : ∀ t ∈ (shotsOf root files).map Shot.date, t = date := by
      intro t member
      obtain ⟨shot, among, rfl⟩ := List.mem_map.mp member
      exact h shot among
    rw [ascending_of_eq dates (by simpa using none), List.map_singleton]

/-- The test cases of screenshots of one date. -/
theorem testCases_of_date (descriptions : Option Descriptions)
    (h : ∀ shot ∈ shotsOf root files, shot.date = date) :
    (executions root descriptions files).flatMap PastExecution.testCases =
      (ascending ((shotsOf root files).map Shot.testCase)).map
        (caseOf descriptions (shotsOf root files)) := by
  rcases executions_of_date descriptions h with ⟨none, empty⟩ | one
  · simp [none, empty, ascending]
  · have all : (shotsOf root files).filter (fun shot => shot.date = date) = shotsOf root files :=
      List.filter_eq_self.mpr fun shot member => decide_eq_true (h shot member)
    rw [one, List.flatMap_singleton, executionOf, all]

/-! ### The steps of a test case -/

theorem perm_steps (descriptions : Option Descriptions) (shots : List Shot) (name : String) :
    (caseOf descriptions shots name).steps.Perm
      ((shots.filter fun shot => shot.testCase = name).map (stepOf descriptions)) :=
  List.mergeSort_perm _ _

/-- A screenshot tells the file that it is. -/
theorem path_of_ofPath? {path : Path} {shot : Shot} (h : Shot.ofPath? root path = some shot) :
    shot.path = path := by
  rw [Shot.ofPath?] at h
  split at h
  · split at h
    · split at h
      · obtain ⟨step, -, rfl⟩ := Option.map_eq_some_iff.mp h
        rfl
      · cases h
    · cases h
  · cases h

theorem nodup_shotsOf (h : files.Nodup) : (shotsOf root files).Nodup := by
  refine h.filterMap ?_
  intro path path' shot told told'
  rw [← path_of_ofPath? told, path_of_ofPath? told']

end Analytics

end StepSheet
