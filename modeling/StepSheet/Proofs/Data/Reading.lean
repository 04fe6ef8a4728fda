import Mathlib.Data.List.Forall2
import Mathlib.Data.List.Perm.Basic

/-!
# Items read in order

Items are read one after the other until one cannot be read. All of them can be, or there is a
first that cannot, and its fault is the fault of the whole.
-/

namespace StepSheet

variable {α β ε : Type}

/-- The first item that cannot be read, and why: all those before it can. -/
def FirstFault (read : α → Except ε β) (items : List α) (error : ε) : Prop :=
  ∃ before item after, items = before ++ item :: after ∧
    (∀ earlier ∈ before, ∃ value, read earlier = .ok value) ∧ read item = .error error

variable {read : α → Except ε β} {item : α} {items : List α} {error : ε}

theorem not_firstFault_nil : ¬ FirstFault read [] error := by
  rintro ⟨before, item, after, split, -⟩
  simp at split

theorem firstFault_cons_iff :
    FirstFault read (item :: items) error ↔ read item = .error error ∨
      (∃ value, read item = .ok value) ∧ FirstFault read items error := by
  constructor
  · rintro ⟨before, fault, after, split, good, failed⟩
    cases before with
    | nil =>
        obtain ⟨rfl, -⟩ := List.cons.inj split
        exact .inl failed
    | cons first before =>
        obtain ⟨rfl, rest⟩ := List.cons.inj split
        obtain ⟨readable, others⟩ := List.forall_mem_cons.mp good
        exact .inr ⟨readable, before, fault, after, rest, others, failed⟩
  · rintro (failed | ⟨readable, before, fault, after, rfl, good, failed⟩)
    · exact ⟨[], item, items, rfl, by simp, failed⟩
    · exact ⟨item :: before, fault, after, rfl, List.forall_mem_cons.mpr ⟨readable, good⟩, failed⟩

theorem mapM_eq_ok_iff {values : List β} :
    items.mapM read = .ok values ↔
      List.Forall₂ (fun item value => read item = .ok value) items values := by
  induction items generalizing values with
  | nil =>
      cases values <;> simp [pure, Except.pure]
  | cons item items ih =>
      rw [List.mapM_cons, List.forall₂_cons_left_iff]
      cases first : read item with
      | error error => simp [bind, Except.bind]
      | ok value =>
          cases rest : items.mapM read with
          | error error =>
              simp [bind, Except.bind, ← ih, rest]
          | ok others =>
              simp [bind, Except.bind, pure, Except.pure, ← ih, rest, eq_comm]

/-- What has been read comes from one of the items. -/
theorem exists_of_mem_mapM_ok {values : List β} (h : items.mapM read = .ok values) {value : β}
    (member : value ∈ values) : ∃ item ∈ items, read item = .ok value := by
  have each := mapM_eq_ok_iff.mp h
  clear h
  induction each with
  | nil => cases member
  | @cons item first _ _ here _ ih =>
      rcases List.mem_cons.mp member with rfl | member
      · exact ⟨item, List.mem_cons_self, here⟩
      · obtain ⟨other, among, read⟩ := ih member
        exact ⟨other, List.mem_cons_of_mem _ among, read⟩

theorem mapM_eq_error_iff : items.mapM read = .error error ↔ FirstFault read items error := by
  induction items with
  | nil => simp [pure, Except.pure, not_firstFault_nil]
  | cons item items ih =>
      rw [List.mapM_cons, firstFault_cons_iff, ← ih]
      cases first : read item with
      | error fault => simp [bind, Except.bind]
      | ok value =>
          cases rest : items.mapM read <;> simp [bind, Except.bind, pure, Except.pure]

/-- All items can be read, or there is a first that cannot. -/
theorem forall_or_firstFault (read : α → Except ε β) (items : List α) :
    (∀ item ∈ items, ∃ value, read item = .ok value) ∨ ∃ error, FirstFault read items error := by
  induction items with
  | nil => exact .inl (by simp)
  | cons item items ih =>
      simp only [firstFault_cons_iff, List.forall_mem_cons]
      cases first : read item with
      | error error => exact .inr ⟨error, .inl rfl⟩
      | ok value =>
          rcases ih with good | ⟨error, fault⟩
          · exact .inl ⟨⟨value, rfl⟩, good⟩
          · exact .inr ⟨error, .inr ⟨⟨value, rfl⟩, fault⟩⟩

theorem exists_forall₂_iff {R : α → β → Prop} :
    (∃ values, List.Forall₂ R items values) ↔ ∀ item ∈ items, ∃ value, R item value := by
  induction items with
  | nil => simp [List.forall₂_nil_left_iff]
  | cons item items ih =>
      rw [List.forall_mem_cons, ← ih]
      constructor
      · rintro ⟨_, _ | ⟨first, rest⟩⟩
        exact ⟨⟨_, first⟩, _, rest⟩
      · rintro ⟨⟨value, first⟩, values, rest⟩
        exact ⟨value :: values, .cons first rest⟩

/-- What holds of the one of two related members exactly if something holds of the other, holds
of all on the one side exactly if it does on the other. -/
theorem forall_mem_iff_of_forall₂ {R : α → β → Prop} {p : α → Prop} {q : β → Prop}
    {values : List β} (related : List.Forall₂ R items values)
    (same : ∀ item value, R item value → (q value ↔ p item)) :
    (∀ value ∈ values, q value) ↔ ∀ item ∈ items, p item := by
  induction related with
  | nil => simp
  | cons here _ ih => rw [List.forall_mem_cons, List.forall_mem_cons, same _ _ here, ih]

section Option

variable {γ δ : Type} {read : α → Option γ}

theorem mapM_eq_some_iff {values : List γ} :
    items.mapM read = some values ↔
      List.Forall₂ (fun item value => read item = some value) items values := by
  induction items generalizing values with
  | nil => cases values <;> simp [pure]
  | cons item items ih =>
      rw [List.mapM_cons, List.forall₂_cons_left_iff]
      cases first : read item with
      | none => simp [bind]
      | some value =>
          cases rest : items.mapM read with
          | none => simp [bind, ← ih, rest]
          | some others => simp [bind, pure, ← ih, rest, eq_comm]

/-- Items in another order are read as the same values in another order. -/
theorem mapM_of_perm {items' : List α} (perm : items.Perm items') {values : List γ}
    (h : items.mapM read = some values) :
    ∃ values', items'.mapM read = some values' ∧ values.Perm values' := by
  obtain ⟨values', each, perm'⟩ := List.perm_comp_forall₂ perm.symm (mapM_eq_some_iff.mp h)
  exact ⟨values', mapM_eq_some_iff.mpr each, perm'.symm⟩

/-- Items that are related one by one are read as values that are. -/
theorem mapM_related {read' : β → Option δ} {S : α → β → Prop} {R : γ → δ → Prop}
    (step : ∀ item item' value, S item item' → read item = some value →
      ∃ value', read' item' = some value' ∧ R value value')
    {items' : List β} (each : List.Forall₂ S items items') {values : List γ}
    (h : items.mapM read = some values) :
    ∃ values', items'.mapM read' = some values' ∧ List.Forall₂ R values values' := by
  rw [mapM_eq_some_iff] at h
  induction each generalizing values with
  | nil =>
      cases h
      exact ⟨[], rfl, .nil⟩
  | cons same _ ih =>
      obtain ⟨value, rest, own, others, rfl⟩ := List.forall₂_cons_left_iff.mp h
      obtain ⟨value', own', related⟩ := step _ _ _ same own
      obtain ⟨rest', others', allRelated⟩ := ih others
      exact ⟨value' :: rest', by simp [own', others'], .cons related allRelated⟩


/-- Items that are each read as a result of their own are read as the list of the results. -/
theorem mapM_map_eq_some {read : β → Option γ} {written : α → β} {result : α → γ}
    (each : ∀ item ∈ items, read (written item) = some (result item)) :
    (items.map written).mapM read = some (items.map result) := by
  induction items with
  | nil => rfl
  | cons item items ih =>
      obtain ⟨first, others⟩ := List.forall_mem_cons.mp each
      rw [List.map_cons, List.mapM_cons, first, ih others]
      rfl

end Option

end StepSheet
