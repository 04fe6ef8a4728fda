import StepSheet.Data.Basic
import StepSheet.Proofs.Data.Reading

/-!
# Trees with their members in another order

One format keeps the members of a table in the order of the document, the other sorts them. A
record is read from a table by the names of its members, so of tables that differ only in the
order of their members the same fields are read.
-/

namespace StepSheet

namespace Data

mutual

def decEq : (a b : Data) → Decidable (a = b)
  | .null, b => by
      cases b
      case null => exact isTrue rfl
      all_goals exact isFalse nofun
  | .bool x, b => by
      cases b
      case bool y => exact decidable_of_iff (x = y) (by simp)
      all_goals exact isFalse nofun
  | .integer x, b => by
      cases b
      case integer y => exact decidable_of_iff (x = y) (by simp)
      all_goals exact isFalse nofun
  | .number x, b => by
      cases b
      case number y => exact decidable_of_iff (x = y) (by simp)
      all_goals exact isFalse nofun
  | .text x, b => by
      cases b
      case text y => exact decidable_of_iff (x = y) (by simp)
      all_goals exact isFalse nofun
  | .array x, b => by
      cases b
      case array y => exact @decidable_of_iff _ (x = y) (by simp) (decEqItems x y)
      all_goals exact isFalse nofun
  | .object x, b => by
      cases b
      case object y => exact @decidable_of_iff _ (x = y) (by simp) (decEqMembers x y)
      all_goals exact isFalse nofun
  | .unreadable, b => by
      cases b
      case unreadable => exact isTrue rfl
      all_goals exact isFalse nofun

def decEqItems : (a b : List Data) → Decidable (a = b)
  | [], [] => isTrue rfl
  | [], _ :: _ => isFalse nofun
  | _ :: _, [] => isFalse nofun
  | x :: xs, y :: ys =>
    match decEq x y, decEqItems xs ys with
    | isTrue h, isTrue hs => isTrue (by rw [h, hs])
    | isFalse h, _ => isFalse (by simp [h])
    | _, isFalse hs => isFalse (by simp [hs])

def decEqMembers : (a b : List (String × Data)) → Decidable (a = b)
  | [], [] => isTrue rfl
  | [], _ :: _ => isFalse nofun
  | _ :: _, [] => isFalse nofun
  | (k, x) :: xs, (l, y) :: ys =>
    match instDecidableEqString k l, decEq x y, decEqMembers xs ys with
    | isTrue h, isTrue h', isTrue hs => isTrue (by rw [h, h', hs])
    | isFalse h, _, _ => isFalse (by simp [h])
    | _, isFalse h', _ => isFalse (by simp [h'])
    | _, _, isFalse hs => isFalse (by simp [hs])

end

instance : DecidableEq Data := decEq

mutual

/-- Two trees that hold the same, with the members of their tables in any order. A table whose
members are moved gives no name twice. -/
inductive Same : Data → Data → Prop
  | leaf (value : Data) : Same value value
  | array {items items' : List Data} (each : List.Forall₂ Same items items') :
      Same (.array items) (.array items')
  | object {members between members' : List (String × Data)}
      (distinct : (members.map Prod.fst).Nodup) (perm : members.Perm between)
      (each : List.Forall₂ SameMember between members') :
      Same (.object members) (.object members')

/-- Two members with one name that hold the same. -/
inductive SameMember : String × Data → String × Data → Prop
  | mk (name : String) {value value' : Data} (same : Same value value') :
      SameMember (name, value) (name, value')

end

theorem SameMember.refl (member : String × Data) : SameMember member member :=
  ⟨member.1, .leaf member.2⟩

/-! ### Fields -/

/-- The values of the members with one of the names of a field. -/
def picked (aliases : List String) (members : List (String × Data)) : List Data :=
  members.filterMap fun member => if aliases.contains member.1 then some member.2 else none

/-- The value of a field, for which there may be one member at most. -/
def field? (aliases : List String) (members : List (String × Data)) : Option (Option Data) :=
  match picked aliases members with
  | [] => some none
  | [value] => some (some value)
  | _ => none

theorem fields?_eq_mapM_field? (exact_ : Bool) (names : List (List String))
    (members : List (String × Data)) :
    (object members).fields? exact_ names = names.mapM fun aliases => field? aliases members :=
  rfl

variable {aliases : List String} {members between members' : List (String × Data)}

/-- The values of a field, in the order of the members, hold the same. -/
theorem forall₂_picked (each : List.Forall₂ SameMember members members') :
    List.Forall₂ Same (picked aliases members) (picked aliases members') := by
  refine List.rel_filterMap ?_ each
  rintro _ _ ⟨name, same⟩
  dsimp only
  by_cases own : aliases.contains name
  · rw [if_pos own, if_pos own]
    exact .some same
  · rw [if_neg own, if_neg own]
    exact .none

/-- A field holds the same up to the order of members, wherever it stands in its table. -/
theorem field?_related (perm : members.Perm between)
    (each : List.Forall₂ SameMember between members') {value : Option Data}
    (found : field? aliases members = some value) :
    ∃ value', field? aliases members' = some value' ∧ Option.Rel Same value value' := by
  have inOrder : (picked aliases members).Perm (picked aliases between) := perm.filterMap _
  have related : List.Forall₂ Same (picked aliases between) (picked aliases members') :=
    forall₂_picked each
  -- There is one value at most, so its place among the members is not seen.
  rw [field?] at found
  split at found
  · next nothing =>
    rw [nothing, List.nil_perm] at inOrder
    rw [inOrder, List.forall₂_nil_left_iff] at related
    cases found
    exact ⟨none, by rw [field?, related], .none⟩
  · next own one =>
    rw [one, List.singleton_perm] at inOrder
    rw [← inOrder, List.forall₂_cons_left_iff] at related
    obtain ⟨own', rest, same, nothing, split⟩ := related
    rw [List.forall₂_nil_left_iff] at nothing
    cases found
    exact ⟨some own', by rw [field?, split, nothing], .some same⟩
  · cases found

theorem rel_refl (value : Option Data) : Option.Rel Same value value := by
  cases value with
  | none => exact .none
  | some value => exact .some (.leaf value)

theorem rel_getElem? {items items' : List Data} (each : List.Forall₂ Same items items')
    (index : Nat) : Option.Rel Same items[index]? items'[index]? := by
  induction each generalizing index with
  | nil => exact .none
  | cons same _ ih =>
      cases index with
      | zero => exact .some same
      | succ index => exact ih index

/-- The fields of a record are the same up to the order of members. What is refused only if a
list must not be longer than a record is read where it may be. -/
theorem Same.exists_fields {a b : Data} (h : a.Same b) {names : List (List String)}
    {found : List (Option Data)} (fields : a.fields? true names = some found) :
    ∃ found', b.fields? false names = some found' ∧
      List.Forall₂ (Option.Rel Same) found found' := by
  cases h with
  | leaf =>
      -- One tree is read in two ways, which differ for lists that are too long.
      refine ⟨found, ?_, List.forall₂_same.mpr fun value _ => rel_refl value⟩
      cases a with
      | array items =>
          simp only [fields?, Bool.true_and, Option.ite_none_left_eq_some] at fields
          exact fields.2
      | object members => exact fields
      | _ => cases fields
  | @array items items' each =>
      simp only [fields?, Bool.true_and, Option.ite_none_left_eq_some, Option.some.injEq] at fields
      obtain ⟨-, rfl⟩ := fields
      refine ⟨(List.range names.length).map (items'[·]?), by simp [fields?], ?_⟩
      rw [List.forall₂_map_left_iff, List.forall₂_map_right_iff, List.forall₂_same]
      exact fun index _ => rel_getElem? each index
  | object distinct perm each =>
      rw [fields?_eq_mapM_field?] at fields ⊢
      have same : List.Forall₂ Eq names names := List.forall₂_same.mpr fun _ _ => rfl
      refine mapM_related ?_ same fields
      rintro aliases _ value rfl field
      exact field?_related perm each field

theorem Same.eq_text {s : String} {b : Data} (h : (Data.text s).Same b) : b = Data.text s := by
  cases h
  rfl

theorem Same.exists_array {items : List Data} {b : Data} (h : (Data.array items).Same b) :
    ∃ items', b = Data.array items' ∧ List.Forall₂ Same items items' := by
  cases h with
  | leaf => exact ⟨items, rfl, List.forall₂_same.mpr fun item _ => .leaf item⟩
  | array each => exact ⟨_, rfl, each⟩

/-- A field with a list, which may be missing. -/
theorem exists_items {value value' : Option Data} (same : Option.Rel Same value value')
    {items : List Data} (read : withDefault? [] array? value = some items) :
    ∃ items', withDefault? [] array? value' = some items' ∧ List.Forall₂ Same items items' := by
  cases same with
  | none =>
      cases read
      exact ⟨[], rfl, .nil⟩
  | @some a b same =>
      cases a with
      | array own =>
          cases read
          obtain ⟨items', rfl, each⟩ := same.exists_array
          exact ⟨items', rfl, each⟩
      | _ => cases read

/-- A field with a text. -/
theorem required?_text_of_rel {value value' : Option Data} (same : Option.Rel Same value value')
    {s : String} (read : required? text? value = some s) : required? text? value' = some s := by
  cases same with
  | none => cases read
  | @some a b same =>
      cases a with
      | text own =>
          cases read
          rw [same.eq_text]
          rfl
      | _ => cases read

end Data

end StepSheet
