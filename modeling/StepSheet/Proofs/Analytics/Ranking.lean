import Mathlib.Data.List.Nodup
import StepSheet.Proofs.Analytics.Order

/-!
# The actions used most

Actions are ranked by how often they were used, and actions used equally often by where they
were first seen. No two actions rank the same, so the ranking has one first part of each
length, and that is what is shown: an action left out ranks behind every one that is kept.
-/

namespace StepSheet

/-- A sort leaves two items that it does not tell apart in the order in which they came. -/
theorem pairwise_mergeSort_tied {α : Type} {le : α → α → Bool} {earlier : α → α → Prop}
    (trans : ∀ a b c, le a b → le b c → le a c) (total : ∀ a b, le a b || le b a)
    {items : List α} (order : items.Pairwise earlier) :
    (items.mergeSort le).Pairwise fun a b => le a b ∧ (le b a → earlier a b) := by
  have sorted := List.pairwise_mergeSort trans total items
  refine sorted.and (List.pairwise_iff_forall_sublist.mpr ?_)
  intro a b within back
  have onward : le a b := by simpa using sorted.sublist within
  have self : le a a := trans a b a onward back
  -- The items that are tied with `a` are left as they came, and both are among them.
  let tied (x : α) : Bool := le x a && le a x
  have both : [a, b].filter tied = [a, b] := by simp [tied, self, onward, back]
  have level : ∀ x y, tied x → tied y → le x y := by
    intro x y first second
    simp only [tied, Bool.and_eq_true] at first second
    exact trans x a y first.1 second.2
  have came : [a, b].Sublist items := by
    have kept := within.filter tied
    rw [both, filter_mergeSort trans total level] at kept
    exact kept.trans List.filter_sublist
  simpa using order.sublist came

/-- One action ranks before another one: it was used more often, or as often and seen first. -/
def ActionUsage.RanksBefore (distribution : OrderedMap Nat) (a b : ActionUsage) : Prop :=
  b.count < a.count ∨
    a.count = b.count ∧ distribution.keys.idxOf a.action < distribution.keys.idxOf b.action

namespace Analytics

variable (distribution : OrderedMap Nat)

/-- How often each action was used, in the order in which they were first seen. -/
def usages : List ActionUsage :=
  distribution.entries.map fun entry => ⟨entry.1, entry.2⟩

/-- The usages with the most used action first. -/
def ranking : List ActionUsage :=
  (usages distribution).mergeSort fun a b => b.count ≤ a.count

theorem mostUsed_eq_take (limit : Nat) :
    mostUsed distribution limit = (ranking distribution).take limit := rfl

theorem map_action_usages : (usages distribution).map ActionUsage.action = distribution.keys := by
  simp [usages, OrderedMap.keys]

theorem mem_usages_iff {usage : ActionUsage} :
    usage ∈ usages distribution ↔ distribution.get? usage.action = some usage.count := by
  constructor
  · intro member
    obtain ⟨entry, stands, rfl⟩ := List.mem_map.mp member
    exact OrderedMap.get?_of_mem stands
  · intro found
    obtain ⟨before, after, entries, -⟩ := List.lookup_eq_some_iff.mp found
    exact List.mem_map.mpr ⟨(usage.action, usage.count), by simp [entries], rfl⟩

/-- Usages stand in the order in which their actions were first seen. -/
theorem pairwise_usages :
    (usages distribution).Pairwise fun a b =>
      distribution.keys.idxOf a.action < distribution.keys.idxOf b.action := by
  have seen : distribution.keys.Pairwise fun a b =>
      distribution.keys.idxOf a < distribution.keys.idxOf b := by
    refine List.pairwise_iff_getElem.mpr fun i j hi hj less => ?_
    have distinct : distribution.keys.Nodup := distribution.nodup
    rwa [distinct.idxOf_getElem i hi, distinct.idxOf_getElem j hj]
  have named := map_action_usages distribution
  generalize distribution.keys = keys at seen named ⊢
  rwa [← named, List.pairwise_map, named] at seen

theorem perm_ranking : (ranking distribution).Perm (usages distribution) :=
  List.mergeSort_perm _ _

theorem mem_ranking_iff {usage : ActionUsage} :
    usage ∈ ranking distribution ↔ distribution.get? usage.action = some usage.count :=
  (perm_ranking distribution).mem_iff.trans (mem_usages_iff distribution)

theorem nodup_map_action_ranking : ((ranking distribution).map ActionUsage.action).Nodup := by
  have same := (perm_ranking distribution).map ActionUsage.action
  rw [map_action_usages] at same
  exact same.nodup_iff.mpr distribution.nodup

/-- Each action of the ranking ranks before all behind it. -/
theorem pairwise_ranking :
    (ranking distribution).Pairwise (ActionUsage.RanksBefore distribution) := by
  have sorted : (ranking distribution).Pairwise fun a b =>
      decide (b.count ≤ a.count) = true ∧ (decide (a.count ≤ b.count) = true →
        distribution.keys.idxOf a.action < distribution.keys.idxOf b.action) := by
    refine pairwise_mergeSort_tied ?_ ?_ (pairwise_usages distribution)
    · intro a b c first second
      simp only [decide_eq_true_eq] at first second ⊢
      exact Nat.le_trans second first
    · intro a b
      simpa using Nat.le_total b.count a.count
  refine sorted.imp fun {a b} ⟨most, seen⟩ => ?_
  simp only [decide_eq_true_eq] at most seen
  rcases Nat.lt_or_eq_of_le most with fewer | same
  · exact .inl fewer
  · exact .inr ⟨same.symm, seen (Nat.le_of_eq same.symm)⟩

/-- The actions used most are so many as asked for, or all if there are fewer. Each stands with
its own count and only once, those used more often before those used less, and those used
equally often as they were first seen. An action that is left out ranks behind all of them. -/
theorem mostUsed_is_front_of_ranking (limit : Nat) :
    (mostUsed distribution limit).length = min limit distribution.size ∧
      (∀ usage ∈ mostUsed distribution limit,
        distribution.get? usage.action = some usage.count) ∧
      ((mostUsed distribution limit).map ActionUsage.action).Nodup ∧
      (mostUsed distribution limit).Pairwise (ActionUsage.RanksBefore distribution) ∧
      ∀ action count, distribution.get? action = some count →
        action ∉ (mostUsed distribution limit).map ActionUsage.action →
        ∀ kept ∈ mostUsed distribution limit, kept.RanksBefore distribution ⟨action, count⟩ := by
  rw [mostUsed_eq_take]
  have shown := List.take_sublist limit (ranking distribution)
  refine ⟨?_, fun usage member => (mem_ranking_iff distribution).mp (shown.subset member),
    (nodup_map_action_ranking distribution).sublist (shown.map _),
    (pairwise_ranking distribution).sublist shown, ?_⟩
  · rw [List.length_take, (perm_ranking distribution).length_eq]
    simp [usages, OrderedMap.size]
  · intro action count counted absent kept member
    have ranked : ⟨action, count⟩ ∈ ranking distribution :=
      (mem_ranking_iff distribution).mpr counted
    have order := pairwise_ranking distribution
    rw [← List.take_append_drop limit (ranking distribution)] at ranked order
    have left : ⟨action, count⟩ ∈ (ranking distribution).drop limit :=
      (List.mem_append.mp ranked).resolve_left fun front =>
        absent (List.mem_map_of_mem (f := ActionUsage.action) front)
    exact (List.pairwise_append.mp order).2.2 kept member _ left

-- `CLICK` was used most; of the other two, the one seen first is kept.
example : mostUsed (.ofList [("FILL", 1), ("CLICK", 2), ("HOVER", 1)]) 2 =
    [⟨"CLICK", 2⟩, ⟨"FILL", 1⟩] := by
  cbv

end Analytics

end StepSheet
