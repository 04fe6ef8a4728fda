import Mathlib.Data.List.DropRight
import Mathlib.Data.List.Forall2
import StepSheet.Proofs.Json.Leaves

/-!
# Documents read back

A value whose numbers are integers of 64 bits is read back from its document, whether it stands
on one line or on several. What is shown of lists and tables holds for any blanks between their
parts, and of each part only that the reader gets it back and stops right behind it.
-/

namespace StepSheet

namespace Json

/-! ### Blanks -/

/-- Characters that the reader passes over between the parts of a document. -/
def AreBlank (gap : List Char) : Prop := ∀ c ∈ gap, isSpace c = true

theorem areBlank_nil : AreBlank [] := fun _ member => absurd member List.not_mem_nil

theorem areBlank_newline (level : Nat) : AreBlank (newline level) := by
  intro c member
  rcases List.mem_cons.mp member with rfl | blank
  · rfl
  · rw [List.eq_of_mem_replicate blank]
    rfl

variable {gap gap' : List Char}

theorem skip_append (blank : AreBlank gap) (cs : List Char) : skip (gap ++ cs) = skip cs :=
  List.dropWhile_append_of_pos blank

theorem skip_skip (cs : List Char) : skip (skip cs) = skip cs := List.dropWhile_idempotent ..

theorem skip_cons {c : Char} (ink : isSpace c = false) (cs : List Char) :
    skip (c :: cs) = c :: cs := by
  simp [skip, ink]

/-- Blanks end a number, unless something behind them goes on with it. -/
theorem ends_append (blank : AreBlank gap) {rest : List Char} (ends : Ends rest) :
    Ends (gap ++ rest) := by
  cases gap with
  | nil => exact ends
  | cons c gap =>
      have space := blank c List.mem_cons_self
      simp only [isSpace, Bool.or_eq_true, decide_eq_true_iff] at space
      rcases space with ((rfl | rfl) | rfl) | rfl <;>
        exact ends_cons (by decide) (by decide) (by decide) (by decide) _

theorem value?_skip (fuel : Nat) (cs : List Char) : value? fuel (skip cs) = value? fuel cs := by
  cases fuel with
  | zero => rfl
  | succ fuel => rw [value?, value?, skip_skip]

theorem items?_skip (fuel : Nat) (cs : List Char) : items? fuel (skip cs) = items? fuel cs := by
  cases fuel with
  | zero => rfl
  | succ fuel => rw [items?, items?, value?_skip]

theorem members?_skip (fuel : Nat) (cs : List Char) :
    members? fuel (skip cs) = members? fuel cs := by
  cases fuel with
  | zero => rfl
  | succ fuel => rw [members?, members?, skip_skip]

theorem value?_append (blank : AreBlank gap) (fuel : Nat) (cs : List Char) :
    value? fuel (gap ++ cs) = value? fuel cs := by
  rw [← value?_skip, skip_append blank, value?_skip]

theorem items?_append (blank : AreBlank gap) (fuel : Nat) (cs : List Char) :
    items? fuel (gap ++ cs) = items? fuel cs := by
  rw [← items?_skip, skip_append blank, items?_skip]

theorem members?_append (blank : AreBlank gap) (fuel : Nat) (cs : List Char) :
    members? fuel (gap ++ cs) = members? fuel cs := by
  rw [← members?_skip, skip_append blank, members?_skip]

/-! ### Leaves -/

/-- Some characters write a value: the reader gets it back from them, with fuel for each of
them, and stops behind them if a number ends there. -/
def Writes (cs : List Char) (value : Data) : Prop :=
  ∀ fuel rest, 2 * cs.length < fuel → Ends rest → value? fuel (cs ++ rest) = some (value, rest)

/-- The reader spends one unit of its fuel on the value itself. -/
theorem writes_of_succ {cs : List Char} {value : Data}
    (read : ∀ fuel rest, 2 * cs.length ≤ fuel → Ends rest →
      value? (fuel + 1) (cs ++ rest) = some (value, rest)) : Writes cs value := by
  intro fuel rest enough ends
  cases fuel with
  | zero => exact absurd enough (Nat.not_lt_zero _)
  | succ fuel => exact read fuel rest (Nat.le_of_lt_succ enough) ends

theorem writes_null : Writes "null".toList .null := writes_of_succ fun _ _ _ _ => rfl

theorem writes_bool (b : Bool) : Writes (if b then "true" else "false").toList (.bool b) := by
  refine writes_of_succ fun _ _ _ _ => ?_
  cases b <;> rfl

theorem writes_quote (s : String) : Writes (quote s) (.text s) := by
  refine writes_of_succ fun fuel rest _ _ => ?_
  have read := text?_quote s rest
  rw [quote, List.cons_append, List.cons_append, List.append_assoc, value?,
    skip_cons (by decide)]
  simp [read]

/-- What begins with a digit or a minus is a number. -/
theorem value?_number {c : Char} (start : c.isDigit = true ∨ c = '-') (fuel : Nat)
    (cs : List Char) : value? (fuel + 1) (c :: cs) = number? (c :: cs) := by
  have other : ∀ d : Char, d.isDigit = false → d ≠ '-' → c ≠ d := by
    rintro d digit minus rfl
    rcases start with start | start
    · rw [digit] at start
      cases start
    · exact minus start
  have ink : isSpace c = false := by
    simp [isSpace, other ' ' rfl (by decide), other '\t' rfl (by decide),
      other '\n' rfl (by decide), other '\r' rfl (by decide)]
  have null := other 'n' rfl (by decide)
  have true_ := other 't' rfl (by decide)
  have false_ := other 'f' rfl (by decide)
  have quote := other '"' rfl (by decide)
  have list := other '[' rfl (by decide)
  have table := other '\x7b' rfl (by decide)
  rw [value?, skip_cons ink]
  split <;> simp_all

theorem writes_integer {n : Int} (least : -(Word.count 63 : Int) ≤ n) (most : n < Word.count 64) :
    Writes (toString n).toList (.integer n) := by
  refine writes_of_succ fun fuel rest _ ends => ?_
  obtain ⟨c, cs, written, start⟩ := exists_cons_toString n
  rw [← number?_integer least most ends, written, List.cons_append, value?_number start]

/-! ### Lists -/

/-- No element begins with a closing bracket. -/
theorem items?_of_close (fuel : Nat) (cs : List Char) : items? fuel (']' :: cs) = none := by
  match fuel with
  | 0 => rfl
  | 1 => rfl
  | fuel + 2 => rfl

theorem ends_bracket (blank : AreBlank gap) (rest : List Char) : Ends (gap ++ ']' :: rest) :=
  ends_append blank (ends_cons (by decide) (by decide) (by decide) (by decide) _)

theorem ends_brace (blank : AreBlank gap) (rest : List Char) : Ends (gap ++ '\x7d' :: rest) :=
  ends_append blank (ends_cons (by decide) (by decide) (by decide) (by decide) _)

theorem ends_comma (rest : List Char) : Ends (',' :: rest) :=
  ends_cons (by decide) (by decide) (by decide) (by decide) _

/-- Elements with commas between them are read back up to the closing bracket. -/
theorem items?_joined (blank : AreBlank gap) (blank' : AreBlank gap') {items : List Data}
    {pieces : List (List Char)} (each : List.Forall₂ Writes pieces items) (nonempty : items ≠ [])
    (fuel : Nat) (enough : 2 * (joined (',' :: gap) pieces).length + 1 < fuel) (rest : List Char) :
    items? fuel (joined (',' :: gap) pieces ++ (gap' ++ ']' :: rest)) = some (items, rest) := by
  induction each generalizing fuel with
  | nil => exact absurd rfl nonempty
  | @cons piece item pieces items first each ih =>
      obtain ⟨fuel, rfl⟩ := Nat.exists_eq_succ_of_ne_zero (Nat.ne_zero_of_lt enough)
      -- The last element is followed by the bracket, and any other one by a comma.
      cases each with
      | nil =>
          simp only [joined] at enough ⊢
          rw [items?, first fuel _ (by omega) (ends_bracket blank' rest)]
          simp only [skip_append blank', skip_cons (c := ']') (by decide)]
      | @cons next _ pieces _ second each =>
          simp only [joined, List.length_append, List.length_cons] at enough
          have others := ih (List.cons_ne_nil _ _) fuel (by omega)
          simp only [joined, List.append_assoc, List.cons_append]
          rw [items?, first fuel _ (by omega) (ends_comma _)]
          simp only [skip_cons (c := ',') (by decide), items?_append blank, others,
            Option.map_some]

/-- Elements in brackets with commas between them write a list. -/
theorem writes_array (blank : AreBlank gap) (blank' : AreBlank gap') {items : List Data}
    {pieces : List (List Char)} (each : List.Forall₂ Writes pieces items)
    (nonempty : items ≠ []) :
    Writes ('[' :: (gap ++ (joined (',' :: gap) pieces ++ (gap' ++ [']'])))) (.array items) := by
  refine writes_of_succ fun fuel rest enough _ => ?_
  simp only [List.length_cons, List.length_append, List.length_nil] at enough
  have read := items?_joined blank blank' each nonempty fuel (by omega) rest
  rw [← items?_append blank] at read
  simp only [List.cons_append, List.append_assoc, List.nil_append]
  generalize gap ++ (joined (',' :: gap) pieces ++ (gap' ++ ']' :: rest)) = inside at read
  rw [value?, skip_cons (by decide)]
  simp only
  split
  · next cs front =>
    -- The first element does not begin with a bracket, since it can be read.
    rw [← items?_skip, front, items?_of_close] at read
    cases read
  · rw [items?_skip, read, Option.map_some]

/-! ### Tables -/

/-- Some characters write a member of a table: its name, a colon and its value. -/
def WritesMember (cs : List Char) (member : String × Data) : Prop :=
  ∃ gap value, AreBlank gap ∧ Writes value member.2 ∧ cs = quote member.1 ++ ':' :: (gap ++ value)

/-- No member begins with a closing brace. -/
theorem members?_of_close (fuel : Nat) (cs : List Char) : members? fuel ('\x7d' :: cs) = none := by
  cases fuel with
  | zero => rfl
  | succ fuel => rfl

/-- The name of the first member is read up to the colon, and its value up to the end. -/
theorem WritesMember.exists_parts {piece : List Char} {member : String × Data}
    (writes : WritesMember piece member) {fuel : Nat} (enough : 2 * piece.length < fuel)
    {rest : List Char} (ends : Ends rest) :
    ∃ quoted value, piece ++ rest = '"' :: quoted ∧
      text? quoted = some (some member.1, ':' :: value) ∧
      value? fuel value = some (member.2, rest) := by
  obtain ⟨gap, value, blank, writes, rfl⟩ := writes
  simp only [List.length_append, List.length_cons] at enough
  have item := writes fuel rest (by omega) ends
  rw [← value?_append blank] at item
  exact ⟨_, _, by simp only [quote, List.cons_append, List.append_assoc, List.nil_append],
    text?_quote _ _, item⟩

theorem members?_last {piece : List Char} {member : String × Data}
    (writes : WritesMember piece member) {fuel : Nat} (enough : 2 * piece.length < fuel)
    {rest cs : List Char} (ends : Ends rest) (last : skip rest = '\x7d' :: cs) :
    members? (fuel + 1) (piece ++ rest) = some (some [member], cs) := by
  obtain ⟨quoted, value, chars, name, item⟩ := writes.exists_parts enough ends
  rw [chars, members?, skip_cons (by decide)]
  simp only [name, skip_cons (c := ':') (by decide), item, last]
  rfl

theorem members?_next {piece : List Char} {member : String × Data}
    (writes : WritesMember piece member) {fuel : Nat} (enough : 2 * piece.length < fuel)
    {rest cs tail : List Char} (ends : Ends rest) (next : skip rest = ',' :: cs)
    {members : List (String × Data)} (others : members? fuel cs = some (some members, tail)) :
    members? (fuel + 1) (piece ++ rest) = some (some (member :: members), tail) := by
  obtain ⟨quoted, value, chars, name, item⟩ := writes.exists_parts enough ends
  rw [chars, members?, skip_cons (by decide)]
  simp only [name, skip_cons (c := ':') (by decide), item, next, others]
  rfl

/-- Members with commas between them are read back up to the closing brace. -/
theorem members?_joined (blank : AreBlank gap) (blank' : AreBlank gap')
    {members : List (String × Data)} {pieces : List (List Char)}
    (each : List.Forall₂ WritesMember pieces members) (nonempty : members ≠ []) (fuel : Nat)
    (enough : 2 * (joined (',' :: gap) pieces).length + 1 < fuel) (rest : List Char) :
    members? fuel (joined (',' :: gap) pieces ++ (gap' ++ '\x7d' :: rest)) =
      some (some members, rest) := by
  induction each generalizing fuel with
  | nil => exact absurd rfl nonempty
  | @cons piece member pieces members first each ih =>
      obtain ⟨fuel, rfl⟩ := Nat.exists_eq_succ_of_ne_zero (Nat.ne_zero_of_lt enough)
      cases each with
      | nil =>
          simp only [joined] at enough ⊢
          exact members?_last first (by omega) (ends_brace blank' rest)
            (by rw [skip_append blank', skip_cons (by decide)])
      | @cons next _ pieces _ second each =>
          simp only [joined, List.length_append, List.length_cons] at enough
          have others := ih (List.cons_ne_nil _ _) fuel (by omega)
          simp only [joined, List.append_assoc, List.cons_append]
          rw [← members?_append blank] at others
          exact members?_next first (by omega) (ends_comma _) (skip_cons (by decide) _) others

/-- Members in braces with commas between them write a table. -/
theorem writes_object (blank : AreBlank gap) (blank' : AreBlank gap')
    {members : List (String × Data)} {pieces : List (List Char)}
    (each : List.Forall₂ WritesMember pieces members) (nonempty : members ≠ []) :
    Writes ('\x7b' :: (gap ++ (joined (',' :: gap) pieces ++ (gap' ++ ['\x7d']))))
      (.object members) := by
  refine writes_of_succ fun fuel rest enough _ => ?_
  simp only [List.length_cons, List.length_append, List.length_nil] at enough
  have read := members?_joined blank blank' each nonempty fuel (by omega) rest
  rw [← members?_append blank] at read
  simp only [List.cons_append, List.append_assoc, List.nil_append]
  generalize gap ++ (joined (',' :: gap) pieces ++ (gap' ++ '\x7d' :: rest)) = inside at read
  rw [value?, skip_cons (by decide)]
  simp only
  split
  · next cs front =>
    rw [← members?_skip, front, members?_of_close] at read
    cases read
  · rw [members?_skip, read]
    rfl

/-! ### Documents -/

end Json

namespace Data

mutual

/-- Whether a document writes a value exactly and can be read at once: its numbers are integers
of 64 bits, and lists and tables are nested less than `limit` deep. -/
def IsExact (limit : Nat) : Data → Prop
  | .integer n => -(Word.count 63 : Int) ≤ n ∧ n < Word.count 64
  | .number _ => False
  | .unreadable => False
  | .array items => match limit with
    | 0 => False
    | limit + 1 => AreExact limit items
  | .object members => match limit with
    | 0 => False
    | limit + 1 => MembersExact limit members
  | _ => True

def AreExact (limit : Nat) : List Data → Prop
  | [] => True
  | item :: items => IsExact limit item ∧ AreExact limit items

def MembersExact (limit : Nat) : List (String × Data) → Prop
  | [] => True
  | (_, item) :: members => IsExact limit item ∧ MembersExact limit members

end

theorem areExact_iff {limit : Nat} {items : List Data} :
    AreExact limit items ↔ ∀ item ∈ items, IsExact limit item := by
  induction items with
  | nil => simp [AreExact]
  | cons item items ih => simp [AreExact, ih]

theorem membersExact_iff {limit : Nat} {members : List (String × Data)} :
    MembersExact limit members ↔ ∀ member ∈ members, IsExact limit member.2 := by
  induction members with
  | nil => simp [MembersExact]
  | cons member members ih => simp [MembersExact, ih]

mutual

/-- What is written exactly has a value at every leaf. -/
theorem isReadable_of_isExact : (value : Data) → (limit : Nat) → IsExact limit value →
    isReadable limit value
  | .null, _, _ => rfl
  | .bool _, _, _ => rfl
  | .integer _, _, _ => rfl
  | .text _, _, _ => rfl
  | .array items, limit + 1, exact_ => by
      rw [isReadable]
      exact areReadable_of_areExact items limit exact_
  | .object members, limit + 1, exact_ => by
      rw [isReadable]
      exact membersReadable_of_membersExact members limit exact_

theorem areReadable_of_areExact : (items : List Data) → (limit : Nat) → AreExact limit items →
    areReadable limit items
  | [], _, _ => rfl
  | item :: items, limit, ⟨first, others⟩ => by
      rw [areReadable, isReadable_of_isExact item limit first,
        areReadable_of_areExact items limit others]
      rfl

theorem membersReadable_of_membersExact : (members : List (String × Data)) → (limit : Nat) →
    MembersExact limit members → membersReadable limit members
  | [], _, _ => rfl
  | (_, item) :: members, limit, ⟨first, others⟩ => by
      rw [membersReadable, isReadable_of_isExact item limit first,
        membersReadable_of_membersExact members limit others]
      rfl

end

end Data

namespace Json

open Data

theorem writes_nil_array : Writes ['[', ']'] (.array []) := writes_of_succ fun _ _ _ _ => rfl

theorem writes_nil_object : Writes ['\x7b', '\x7d'] (.object []) :=
  writes_of_succ fun _ _ _ _ => rfl

mutual

/-- A value on one line is read back. -/
theorem writes_compact : (value : Data) → (limit : Nat) → IsExact limit value →
    Writes (compact value) value
  | .null, _, _ => writes_null
  | .bool b, _, _ => writes_bool b
  | .integer _, _, ⟨least, most⟩ => writes_integer least most
  | .text s, _, _ => writes_quote s
  | .array [], _, _ => writes_nil_array
  | .array (item :: items), limit + 1, exact_ =>
      writes_array areBlank_nil areBlank_nil (writes_compactItems (item :: items) limit exact_)
        (List.cons_ne_nil _ _)
  | .object [], _, _ => writes_nil_object
  | .object (member :: members), limit + 1, exact_ =>
      writes_object areBlank_nil areBlank_nil
        (writes_compactMembers (member :: members) limit exact_) (List.cons_ne_nil _ _)

theorem writes_compactItems : (items : List Data) → (limit : Nat) → AreExact limit items →
    List.Forall₂ Writes (compactItems items) items
  | [], _, _ => .nil
  | item :: items, limit, ⟨first, others⟩ =>
      .cons (writes_compact item limit first) (writes_compactItems items limit others)

theorem writes_compactMembers : (members : List (String × Data)) → (limit : Nat) →
    MembersExact limit members → List.Forall₂ WritesMember (compactMembers members) members
  | [], _, _ => .nil
  | (_, item) :: members, limit, ⟨first, others⟩ =>
      .cons ⟨[], compact item, areBlank_nil, writes_compact item limit first, rfl⟩
        (writes_compactMembers members limit others)

end

mutual

/-- A value over several lines is read back. -/
theorem writes_pretty : (value : Data) → (level limit : Nat) → IsExact limit value →
    Writes (pretty level value) value
  | .null, _, _, _ => writes_null
  | .bool b, _, _, _ => writes_bool b
  | .integer _, _, _, ⟨least, most⟩ => writes_integer least most
  | .text s, _, _, _ => writes_quote s
  | .array [], _, _, _ => writes_nil_array
  | .array (item :: items), level, limit + 1, exact_ => by
      have each := writes_prettyItems (item :: items) (level + 1) limit exact_
      have written := writes_array (areBlank_newline (level + 1)) (areBlank_newline level) each
        (List.cons_ne_nil _ _)
      simpa only [pretty, prettyItems, List.append_assoc, List.cons_append] using written
  | .object [], _, _, _ => writes_nil_object
  | .object ((name, item) :: members), level, limit + 1, exact_ => by
      have each := writes_prettyMembers ((name, item) :: members) (level + 1) limit exact_
      have written := writes_object (areBlank_newline (level + 1)) (areBlank_newline level) each
        (List.cons_ne_nil _ _)
      simpa only [pretty, prettyMembers, List.append_assoc, List.cons_append] using written

theorem writes_prettyItems : (items : List Data) → (level limit : Nat) → AreExact limit items →
    List.Forall₂ Writes (prettyItems level items) items
  | [], _, _, _ => .nil
  | item :: items, level, limit, ⟨first, others⟩ =>
      .cons (writes_pretty item level limit first) (writes_prettyItems items level limit others)

theorem writes_prettyMembers : (members : List (String × Data)) → (level limit : Nat) →
    MembersExact limit members →
      List.Forall₂ WritesMember (prettyMembers level members) members
  | [], _, _, _ => .nil
  | (_, item) :: members, level, limit, ⟨first, others⟩ =>
      .cons ⟨[' '], pretty level item, by simp [AreBlank, isSpace],
          writes_pretty item level limit first,
          by simp only [List.append_assoc, List.cons_append, List.nil_append]⟩
        (writes_prettyMembers members level limit others)

end

/-- A document that writes an exact value and nothing else holds that value. -/
theorem readWhole?_of_writes {value : Data} (exact_ : value.IsExact 127) {cs : List Char}
    (writes : Writes cs value) : readWhole? (String.ofList cs) = some value := by
  have read := writes (2 * cs.length + 1) [] (Nat.lt_succ_self _) ends_nil
  rw [List.append_nil] at read
  rw [readWhole?, read?, String.toList_ofList]
  simp only [read]
  simp [skip, isReadable_of_isExact value 127 exact_]

/-- What is written on one line is read back. -/
theorem readWhole?_render {value : Data} (exact_ : value.IsExact 127) :
    readWhole? (render value) = some value :=
  readWhole?_of_writes exact_ (writes_compact value 127 exact_)

/-- What is written over several lines is read back. -/
theorem readWhole?_renderPretty {value : Data} (exact_ : value.IsExact 127) :
    readWhole? (renderPretty value) = some value :=
  readWhole?_of_writes exact_ (writes_pretty value 0 127 exact_)

end Json

end StepSheet
