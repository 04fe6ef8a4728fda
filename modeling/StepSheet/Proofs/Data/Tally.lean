import Mathlib.Algebra.BigOperators.Group.List.Lemmas
import Mathlib.Algebra.Ring.Nat
import Mathlib.Data.List.Dedup
import StepSheet.Analytics.Execution
import StepSheet.Proofs.Module.Markers

/-!
# Counting texts

A tally has an entry for each different text, in the order in which the texts are first
seen, and the entry tells how often the text occurs. So the counts add up to the number of
texts.
-/

namespace StepSheet

namespace ModuleTable

theorem firstSeen_concat (names : List String) (name : String) :
    firstSeen (names ++ [name]) =
      if name ∈ names then firstSeen names else firstSeen names ++ [name] := by
  induction names with
  | nil => rfl
  | cons first names ih =>
      rw [List.cons_append, firstSeen, ih]
      by_cases same : name = first
      · have dropped : (firstSeen names ++ [first]).filter (· ≠ first) =
            (firstSeen names).filter (· ≠ first) := by
          simp [List.filter_append]
        subst same
        rw [if_pos List.mem_cons_self, firstSeen]
        split
        · rfl
        · rw [dropped]
      · by_cases later : name ∈ names
        · rw [if_pos later, if_pos (List.mem_cons_of_mem _ later), firstSeen]
        · have new : name ∉ first :: names := by simp [same, later]
          rw [if_neg later, if_neg new, firstSeen]
          simp [List.filter_append, same]

theorem nodup_firstSeen (names : List String) : (firstSeen names).Nodup := by
  induction names with
  | nil => exact List.nodup_nil
  | cons first names ih =>
      refine List.nodup_cons.mpr ⟨?_, ih.filter _⟩
      simp

/-- As many texts are seen first as there are different ones. -/
theorem perm_dedup_firstSeen (names : List String) : (firstSeen names).Perm names.dedup := by
  refine (List.perm_ext_iff_of_nodup (nodup_firstSeen names) names.nodup_dedup).mpr ?_
  intro name
  rw [mem_firstSeen_iff, List.mem_dedup]

end ModuleTable

/-- A map holds, under each of its keys, what is found there. -/
theorem OrderedMap.entries_eq_map {α : Type} (map : OrderedMap α) (default : α) :
    map.entries = map.keys.map fun key => (key, (map.get? key).getD default) := by
  rw [keys, List.map_map]
  conv => lhs; rw [← List.map_id map.entries]
  apply List.map_congr_left
  rintro ⟨key, value⟩ member
  simp [get?_of_mem member]

/-- Entries under different names make a map of just these entries. -/
theorem OrderedMap.entries_ofList {α : Type} {entries : List (String × α)}
    (distinct : (entries.map Prod.fst).Nodup) : (ofList entries).entries = entries := by
  induction entries using List.reverseRecOn with
  | nil => rfl
  | append_singleton entries entry ih =>
      rw [List.map_append, List.nodup_append] at distinct
      obtain ⟨before, -, apart⟩ := distinct
      have absent : entry.1 ∉ entries.map Prod.fst := fun member =>
        apart entry.1 member entry.1 (by simp) rfl
      have whole : (ofList (entries ++ [entry])).entries =
          Entries.put entry.1 entry.2 (ofList entries).entries := by
        simp [ofList, insert]
      rw [whole, ih before, Entries.put_of_not_mem absent]

namespace Analytics

theorem tally_concat (texts : List String) (text : String) :
    tally (texts ++ [text]) =
      (tally texts).insert text (((tally texts).get? text).getD 0 + 1) := by
  rw [tally, List.foldl_append]
  rfl

theorem keys_tally (texts : List String) : (tally texts).keys = ModuleTable.firstSeen texts := by
  induction texts using List.reverseRecOn with
  | nil => rfl
  | append_singleton texts text ih =>
      rw [tally_concat, OrderedMap.keys_insert, ModuleTable.firstSeen_concat, ih]
      simp only [ModuleTable.mem_firstSeen_iff]

theorem count_tally (texts : List String) (text : String) :
    ((tally texts).get? text).getD 0 = texts.count text := by
  induction texts using List.reverseRecOn with
  | nil => rfl
  | append_singleton texts last ih =>
      rw [tally_concat, List.count_append]
      by_cases same : text = last
      · rw [same, OrderedMap.get?_insert_self, ← same, ih]
        simp
      · rw [OrderedMap.get?_insert_of_ne _ same, ih]
        have other : ¬ last = text := fun e => same e.symm
        simp [other]

/-- A tally tells how often each text occurs, in the order in which they are first seen. -/
theorem entries_tally (texts : List String) :
    (tally texts).entries =
      (ModuleTable.firstSeen texts).map fun text => (text, texts.count text) := by
  rw [OrderedMap.entries_eq_map _ 0, keys_tally]
  simp only [count_tally]

/-- The counts of a tally add up to the number of texts. -/
theorem sum_values_tally (texts : List String) : (tally texts).values.sum = texts.length := by
  calc (tally texts).values.sum
      = ((ModuleTable.firstSeen texts).map fun text => texts.count text).sum := by
        rw [OrderedMap.values, entries_tally, List.map_map]
        rfl
    _ = (texts.dedup.map fun text => texts.count text).sum :=
        ((ModuleTable.perm_dedup_firstSeen texts).map _).sum_eq
    _ = texts.length := List.sum_map_count_dedup_eq_length texts

end Analytics

end StepSheet
