/-!
# Maps in order of insertion

A map from texts that remembers in which order its keys came. A value put under
a key that is there already takes the place of the old one; a new key goes to
the end. No key occurs twice.
-/

namespace StepSheet

namespace Entries

/-- The values of a list of entries put under a key. -/
def put (key : String) (value : α) : List (String × α) → List (String × α)
  | [] => [(key, value)]
  | entry :: entries =>
    if entry.1 = key then (key, value) :: entries else entry :: put key value entries

/-- The entries with the value under a key changed. -/
def adjust (key : String) (change : α → α) (entries : List (String × α)) : List (String × α) :=
  entries.map fun entry => if entry.1 = key then (entry.1, change entry.2) else entry

theorem keys_adjust (key : String) (change : α → α) (entries : List (String × α)) :
    (adjust key change entries).map Prod.fst = entries.map Prod.fst := by
  simp only [adjust, List.map_map]
  apply List.map_congr_left
  intro entry _
  simp only [Function.comp_apply]
  split <;> rfl

theorem keys_put (key : String) (value : α) (entries : List (String × α)) :
    (put key value entries).map Prod.fst =
      if key ∈ entries.map Prod.fst then entries.map Prod.fst
      else entries.map Prod.fst ++ [key] := by
  induction entries with
  | nil => simp [put]
  | cons entry entries ih =>
    by_cases h : entry.1 = key
    · simp [put, h]
    · have h' : ¬key = entry.1 := fun e => h e.symm
      simp only [put, h, if_false, List.map_cons, ih, List.mem_cons, h', false_or]
      split <;> simp

theorem nodup_put {entries : List (String × α)} (h : (entries.map Prod.fst).Nodup)
    (key : String) (value : α) : ((put key value entries).map Prod.fst).Nodup := by
  rw [keys_put]
  split
  · exact h
  · next absent =>
    refine List.nodup_append.2 ⟨h, by simp, ?_⟩
    intro a ha b hb
    simp only [List.mem_singleton] at hb
    exact fun e => absent (hb ▸ e ▸ ha)

theorem eq_or_mem_of_mem_put {key : String} {value : α} {entries : List (String × α)}
    {entry : String × α} (h : entry ∈ put key value entries) :
    entry = (key, value) ∨ entry ∈ entries := by
  induction entries with
  | nil => exact .inl (List.mem_singleton.mp h)
  | cons first entries ih =>
    simp only [put] at h
    split at h
    · rcases List.mem_cons.mp h with rfl | member
      · exact .inl rfl
      · exact .inr (List.mem_cons_of_mem _ member)
    · rcases List.mem_cons.mp h with rfl | member
      · exact .inr List.mem_cons_self
      · exact (ih member).imp_right (List.mem_cons_of_mem _)

theorem put_of_not_mem {key : String} {entries : List (String × α)}
    (h : key ∉ entries.map Prod.fst) (value : α) :
    put key value entries = entries ++ [(key, value)] := by
  induction entries with
  | nil => rfl
  | cons entry entries ih =>
    simp only [List.map_cons, List.mem_cons, not_or] at h
    have other : ¬ entry.1 = key := fun same => h.1 same.symm
    simp [put, other, ih h.2]

/-- A change to the value under the last key leaves the entries before it. -/
theorem adjust_concat {key : String} {entries : List (String × α)}
    (h : key ∉ entries.map Prod.fst) (value : α) (change : α → α) :
    adjust key change (entries ++ [(key, value)]) = entries ++ [(key, change value)] := by
  have others : adjust key change entries = entries := by
    conv => rhs; rw [← List.map_id entries]
    apply List.map_congr_left
    intro entry member
    have other : ¬ entry.1 = key := fun same => h (same ▸ List.mem_map_of_mem member)
    simp [other]
  simp only [adjust] at others
  simp [adjust, others]

theorem isSome_lookup {key : String} {entries : List (String × α)} :
    (entries.lookup key).isSome ↔ key ∈ entries.map Prod.fst := by
  induction entries with
  | nil => simp
  | cons entry entries ih =>
    obtain ⟨name, value⟩ := entry
    by_cases h : name = key
    · simp [h]
    · have hk : (key == name) = false := by simpa using fun e => h e.symm
      have other : ¬ key = name := fun same => h same.symm
      simp only [List.lookup_cons, hk, ih, List.map_cons, List.mem_cons, other, false_or]

/-- Where no key occurs twice, each entry is the one under its key. -/
theorem lookup_of_mem {entries : List (String × α)} (h : (entries.map Prod.fst).Nodup)
    {key : String} {value : α} (member : (key, value) ∈ entries) :
    entries.lookup key = some value := by
  induction entries with
  | nil => cases member
  | cons entry entries ih =>
    obtain ⟨absent, rest⟩ := List.nodup_cons.mp h
    rcases List.mem_cons.mp member with rfl | member
    · simp
    · have other : (key == entry.1) = false := by
        rw [beq_eq_false_iff_ne]
        exact fun same => absent (same ▸ List.mem_map_of_mem member)
      rw [List.lookup_cons, other]
      exact ih rest member

theorem lookup_put_self (key : String) (value : α) (entries : List (String × α)) :
    (put key value entries).lookup key = some value := by
  induction entries with
  | nil => simp [put]
  | cons entry entries ih =>
    obtain ⟨name, old⟩ := entry
    by_cases h : name = key
    · simp [put, h]
    · have hk : (key == name) = false := by simpa using fun e => h e.symm
      simp [put, h, List.lookup_cons, hk, ih]

theorem lookup_put_of_ne {key other : String} (h : other ≠ key) (value : α)
    (entries : List (String × α)) : (put key value entries).lookup other = entries.lookup other := by
  have hk : (other == key) = false := by simpa using h
  induction entries with
  | nil => simp [put, List.lookup_cons, hk]
  | cons entry entries ih =>
    obtain ⟨name, old⟩ := entry
    by_cases he : name = key
    · simp [put, he, List.lookup_cons, hk]
    · simp [put, he, List.lookup_cons, ih]

theorem lookup_adjust_self (key : String) (change : α → α) (entries : List (String × α)) :
    (adjust key change entries).lookup key = (entries.lookup key).map change := by
  induction entries with
  | nil => simp [adjust]
  | cons entry entries ih =>
    obtain ⟨name, old⟩ := entry
    simp only [adjust] at ih
    by_cases he : name = key
    · simp [adjust, he]
    · have hk : (key == name) = false := by simpa using fun e => he e.symm
      simp [adjust, he, List.lookup_cons, hk, ih]

theorem lookup_adjust_of_ne {key other : String} (h : other ≠ key) (change : α → α)
    (entries : List (String × α)) :
    (adjust key change entries).lookup other = entries.lookup other := by
  have hk : (other == key) = false := by simpa using h
  induction entries with
  | nil => simp [adjust]
  | cons entry entries ih =>
    obtain ⟨name, old⟩ := entry
    simp only [adjust] at ih
    by_cases he : name = key
    · simp [adjust, he, List.lookup_cons, hk, ih]
    · simp [adjust, he, List.lookup_cons, ih]

end Entries

/-- A map from texts in order of insertion. -/
structure OrderedMap (α : Type u) where
  entries : List (String × α)
  nodup : (entries.map Prod.fst).Nodup

namespace OrderedMap

variable {α : Type u}

def empty : OrderedMap α := ⟨[], List.nodup_nil⟩

instance : Inhabited (OrderedMap α) := ⟨empty⟩

def keys (map : OrderedMap α) : List String := map.entries.map Prod.fst

def values (map : OrderedMap α) : List α := map.entries.map Prod.snd

def size (map : OrderedMap α) : Nat := map.entries.length

def get? (map : OrderedMap α) (key : String) : Option α := map.entries.lookup key

def contains (map : OrderedMap α) (key : String) : Bool := (map.get? key).isSome

def insert (map : OrderedMap α) (key : String) (value : α) : OrderedMap α :=
  ⟨Entries.put key value map.entries, Entries.nodup_put map.nodup key value⟩

/-- The map with the value under a key changed, if there is one. -/
def modify (map : OrderedMap α) (key : String) (change : α → α) : OrderedMap α :=
  ⟨Entries.adjust key change map.entries, by
    rw [Entries.keys_adjust]; exact map.nodup⟩

/-- The map that entries put in one after the other leave. -/
def ofList (entries : List (String × α)) : OrderedMap α :=
  entries.foldl (fun map entry => map.insert entry.1 entry.2) empty

@[simp] theorem get?_empty (key : String) : (empty : OrderedMap α).get? key = none := rfl

theorem keys_insert (map : OrderedMap α) (key : String) (value : α) :
    (map.insert key value).keys = if key ∈ map.keys then map.keys else map.keys ++ [key] :=
  Entries.keys_put key value map.entries

@[simp] theorem keys_modify (map : OrderedMap α) (key : String) (change : α → α) :
    (map.modify key change).keys = map.keys :=
  Entries.keys_adjust key change map.entries

theorem contains_iff_mem_keys {map : OrderedMap α} {key : String} :
    map.contains key ↔ key ∈ map.keys :=
  Entries.isSome_lookup

theorem get?_of_mem {map : OrderedMap α} {key : String} {value : α}
    (h : (key, value) ∈ map.entries) : map.get? key = some value :=
  Entries.lookup_of_mem map.nodup h

/-- The values are what stands under the keys. -/
theorem mem_values_iff {map : OrderedMap α} {value : α} :
    value ∈ map.values ↔ ∃ key, map.get? key = some value := by
  constructor
  · intro member
    obtain ⟨entry, stood, rfl⟩ := List.mem_map.mp member
    exact ⟨entry.1, get?_of_mem stood⟩
  · rintro ⟨key, found⟩
    obtain ⟨before, after, entries, -⟩ := List.lookup_eq_some_iff.mp found
    exact List.mem_map.mpr ⟨(key, value), by simp [entries], rfl⟩

/-- A change that changes nothing leaves the map. -/
theorem modify_eq_self {map : OrderedMap α} {key : String} {change : α → α}
    (same : ∀ value, map.get? key = some value → change value = value) :
    map.modify key change = map := by
  have entries : Entries.adjust key change map.entries = map.entries := by
    conv => rhs; rw [← List.map_id map.entries]
    apply List.map_congr_left
    intro entry member
    split
    · next here =>
      rw [same entry.2 (here ▸ get?_of_mem member)]
      rfl
    · rfl
  cases map
  simpa [modify] using entries

@[simp] theorem get?_insert_self (map : OrderedMap α) (key : String) (value : α) :
    (map.insert key value).get? key = some value :=
  Entries.lookup_put_self key value map.entries

theorem get?_insert_of_ne (map : OrderedMap α) {key other : String} (h : other ≠ key) (value : α) :
    (map.insert key value).get? other = map.get? other :=
  Entries.lookup_put_of_ne h value map.entries

@[simp] theorem get?_modify_self (map : OrderedMap α) (key : String) (change : α → α) :
    (map.modify key change).get? key = (map.get? key).map change :=
  Entries.lookup_adjust_self key change map.entries

theorem get?_modify_of_ne (map : OrderedMap α) {key other : String} (h : other ≠ key)
    (change : α → α) : (map.modify key change).get? other = map.get? other :=
  Entries.lookup_adjust_of_ne h change map.entries

end OrderedMap

end StepSheet
