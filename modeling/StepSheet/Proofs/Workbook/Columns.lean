import Mathlib.Data.List.Forall2
import Mathlib.Data.List.Nodup
import StepSheet.Proofs.Text.Folded
import StepSheet.Run.Plan

/-!
# Columns in another order and spelling

A column is found by its name without blanks around it and in lower case. Where the names of a
row are still different then, a cell is found in whatever order the columns are, and under
whatever spelling. All that is read of a workbook comes from cells that are found in this way.
-/

namespace StepSheet

/-- A column name as it is compared: without blanks around it, and in lower case. -/
def folded (name : String) : List Char := Chars.lower (Chars.trim name.toList)

/-- A column name in another spelling: its ASCII letters in any case, and blanks around it. -/
def Respelled (name other : String) : Prop :=
  ∃ before written after, other.toList = before ++ written ++ after ∧ before.all isBlank ∧
    after.all isBlank ∧ Chars.lower written = Chars.lower name.toList

theorem Respelled.refl (name : String) : Respelled name name :=
  ⟨[], name.toList, [], by simp, rfl, rfl, rfl⟩

theorem Respelled.folded_eq {name other : String} (h : Respelled name other) :
    folded other = folded name := by
  obtain ⟨before, written, after, spelled, blank, blank', lowered⟩ := h
  rw [folded, spelled, Chars.trim_append blank blank', Chars.lower_trim, lowered,
    ← Chars.lower_trim, folded]

namespace Row

variable {row other : Row} {column : Column} {sheet : String} {number : Nat}

theorem names_iff {name : String} :
    names column name ↔ folded name = Chars.lower column.heading.toList := by
  simp [names, Text.sameFolded, Text.trim, folded]

/-- A row no two of whose column names are the same without blanks around them and in lower
case. -/
def IsWellSpelled (row : Row) : Prop := (row.keys.map folded).Nodup

/-- A row with the same cells: its columns in any order, and their names in any spelling. -/
def Rearranged (row other : Row) : Prop :=
  ∃ between, row.entries.Perm between ∧
    List.Forall₂ (fun a b => Respelled a.1 b.1 ∧ a.2 = b.2) between other.entries

def foldedCells (row : Row) : List (List Char × Cell) :=
  row.entries.map fun entry => (folded entry.1, entry.2)

theorem Rearranged.perm_foldedCells (h : row.Rearranged other) :
    row.foldedCells.Perm other.foldedCells := by
  obtain ⟨between, perm, each⟩ := h
  have same : between.map (fun entry => (folded entry.1, entry.2)) = other.foldedCells := by
    rw [foldedCells, ← List.forall₂_eq_eq_eq, List.forall₂_map_left_iff,
      List.forall₂_map_right_iff]
    refine each.imp fun a b ⟨spelled, cell⟩ => ?_
    rw [spelled.folded_eq, cell]
  exact (perm.map _).trans (.of_eq same)

theorem isWellSpelled_iff : row.IsWellSpelled ↔ (row.foldedCells.map Prod.fst).Nodup := by
  rw [IsWellSpelled, foldedCells, OrderedMap.keys, List.map_map, List.map_map]
  rfl

theorem folded_of_find? {entry : String × Cell}
    (found : (row.entries.find? fun entry => names column entry.1) = some entry) :
    folded entry.1 = Chars.lower column.heading.toList :=
  names_iff.mp (by simpa using List.find?_some found)

/-- Where no names are the same, the cell of a column is the one under its heading. -/
theorem IsWellSpelled.cell?_eq_some_iff (spelled : row.IsWellSpelled) {cell : Cell} :
    row.cell? column = some cell ↔
      (Chars.lower column.heading.toList, cell) ∈ row.foldedCells := by
  rw [cell?, Option.map_eq_some_iff, foldedCells, List.mem_map]
  constructor
  · rintro ⟨entry, found, rfl⟩
    exact ⟨entry, List.mem_of_find?_eq_some found, by rw [folded_of_find? found]⟩
  · rintro ⟨entry, member, same⟩
    obtain ⟨heading, rfl⟩ := Prod.mk.inj same
    have exists_named : (row.entries.find? fun entry => names column entry.1).isSome := by
      rw [List.find?_isSome]
      exact ⟨entry, member, names_iff.mpr heading⟩
    obtain ⟨first, found⟩ := Option.isSome_iff_exists.mp exists_named
    -- Only one entry has the name, so the first with it is this one.
    have distinct : (row.entries.map fun entry => folded entry.1).Nodup := by
      rw [IsWellSpelled, OrderedMap.keys, List.map_map] at spelled
      exact spelled
    have one : first = entry := List.inj_on_of_nodup_map distinct
      (List.mem_of_find?_eq_some found) member ((folded_of_find? found).trans heading.symm)
    exact ⟨first, found, by rw [one]⟩

theorem Rearranged.cell?_eq (h : row.Rearranged other) (spelled : row.IsWellSpelled) :
    other.cell? = row.cell? := by
  have perm := h.perm_foldedCells
  have spelled' : other.IsWellSpelled := by
    rw [isWellSpelled_iff] at spelled ⊢
    exact (perm.map Prod.fst).nodup_iff.mp spelled
  funext column
  refine Option.ext fun cell => ?_
  rw [spelled.cell?_eq_some_iff, spelled'.cell?_eq_some_iff, perm.mem_iff]

/-! ### What is read of a row -/

theorem text?_congr (same : other.cell? = row.cell?) : other.text? = row.text? := by
  funext column
  rw [text?, text?, same]

theorem step_congr (same : other.cell? = row.cell?) (sheet : String) (number : Nat) :
    other.step sheet number = row.step sheet number := by
  simp only [step, stepNumber, required, text?_congr same, same]

theorem moduleRow_congr (same : other.cell? = row.cell?) (sheet : String) (number : Nat) :
    other.moduleRow sheet number = row.moduleRow sheet number := by
  simp only [moduleRow, text?_congr same, step_congr same]

end Row

/-- A sheet with the same rows, each with its columns in any order and spelling. -/
structure Sheet.Rearranged (sheet other : Sheet) : Prop where
  name : other.name = sheet.name
  rows : List.Forall₂ Row.Rearranged sheet.rows other.rows

namespace Workbook

/-- A workbook in none of whose rows two column names are the same without blanks around them
and in lower case. -/
def IsWellSpelled (book : Workbook) : Prop :=
  ∀ sheet ∈ book.sheets, ∀ row ∈ sheet.rows, row.IsWellSpelled

/-- A workbook with the same sheets, the rows of which have their columns in any order and
spelling. -/
def Rearranged (book other : Workbook) : Prop :=
  List.Forall₂ Sheet.Rearranged book.sheets other.sheets

/-- Two workbooks with the same sheet names of which the same is read under each name. -/
structure ReadsAs (book other : Workbook) : Prop where
  names : other.sheetNames = book.sheetNames
  steps : ∀ name, other.testSteps name = book.testSteps name
  modules : ∀ name, other.moduleTable name = book.moduleTable name

variable {book other : Workbook}

theorem readRows_congr {α : Type} {read : Row → Nat → Except PlanError α} {rows rows' : List Row}
    (each : List.Forall₂ (fun row row' => ∀ number, read row' number = read row number) rows rows')
    (number : Nat) : readRows read number rows' = readRows read number rows := by
  induction each generalizing number with
  | nil => rfl
  | cons same _ ih => rw [readRows, readRows, same, ih]

/-- The first sheet with a name is the same up to the columns, if there is one. -/
theorem Rearranged.sheet? (h : book.Rearranged other) (name : String) :
    (book.sheet? name = none ∧ other.sheet? name = none) ∨
      ∃ sheet ∈ book.sheets, ∃ sheet', book.sheet? name = some sheet ∧
        other.sheet? name = some sheet' ∧ sheet.Rearranged sheet' := by
  obtain ⟨sheets⟩ := book
  obtain ⟨sheets'⟩ := other
  simp only [Rearranged, Workbook.sheet?] at h ⊢
  induction h with
  | nil => exact .inl ⟨rfl, rfl⟩
  | @cons sheet sheet' sheets sheets' here _ ih =>
      by_cases named : sheet.name = name
      · refine .inr ⟨sheet, List.mem_cons_self, sheet', ?_, ?_, here⟩
        · simp [named]
        · simp [here.name, named]
      · rw [List.find?_cons_of_neg (by simpa using named),
          List.find?_cons_of_neg (by simpa [here.name] using named)]
        refine ih.imp_right ?_
        rintro ⟨found, member, found', others⟩
        exact ⟨found, List.mem_cons_of_mem _ member, found', others⟩

theorem Rearranged.names (h : book.Rearranged other) : other.sheetNames = book.sheetNames := by
  have same : book.sheetNames = other.sheetNames := by
    rw [sheetNames, sheetNames, ← List.forall₂_eq_eq_eq, List.forall₂_map_left_iff,
      List.forall₂_map_right_iff]
    exact h.imp fun _ _ here => here.name.symm
  exact same.symm

theorem readRows_rearranged {α : Type} {read : Row → Nat → Except PlanError α}
    (reads : ∀ {row other : Row}, other.cell? = row.cell? → ∀ number,
      read other number = read row number)
    {rows rows' : List Row} (each : List.Forall₂ Row.Rearranged rows rows')
    (spelled : ∀ row ∈ rows, row.IsWellSpelled) :
    readRows read 1 rows' = readRows read 1 rows := by
  refine readRows_congr ?_ 1
  refine ((List.forall₂_and_left _ _).mpr ⟨spelled, each⟩).imp ?_
  rintro row row' ⟨own, here⟩
  exact reads (here.cell?_eq own)

/-- Of a workbook with its columns in another order and spelling the same is read. -/
theorem Rearranged.readsAs (h : book.Rearranged other) (spelled : book.IsWellSpelled) :
    book.ReadsAs other where
  names := h.names
  steps name := by
    rcases h.sheet? name with ⟨none, none'⟩ | ⟨sheet, member, sheet', found, found', here⟩
    · rw [testSteps, testSteps, none, none']
    · rw [testSteps, testSteps, found, found']
      exact readRows_rearranged (fun same number => Row.step_congr same name number) here.rows
        (spelled sheet member)
  modules name := by
    rcases h.sheet? name with ⟨none, none'⟩ | ⟨sheet, member, sheet', found, found', here⟩
    · rw [moduleTable, moduleTable, none, none']
    · rw [moduleTable, moduleTable, found, found']
      exact congrArg (Except.map ModuleTable.mk)
        (readRows_rearranged (fun same number => Row.moduleRow_congr same name number) here.rows
          (spelled sheet member))

end Workbook

namespace Plan

variable {book other : Workbook}

theorem readCases_congr (h : book.ReadsAs other) (taken names : List String) :
    readCases other taken names = readCases book taken names := by
  induction names generalizing taken with
  | nil => rfl
  | cons name names ih => rw [readCases, readCases, h.steps, ih]

/-- A plan depends only on what is read of the workbook. -/
theorem ofWorkbook_congr (h : book.ReadsAs other) (start moduleSheet : String) :
    ofWorkbook other start moduleSheet = ofWorkbook book start moduleSheet := by
  have held : other.hasSheet moduleSheet = book.hasSheet moduleSheet := by
    rw [Workbook.hasSheet, Workbook.hasSheet, h.names]
  have sheets (names : List String) :
      ofSheets other moduleSheet names = ofSheets book moduleSheet names := by
    rw [ofSheets, ofSheets, readCases_congr h, held, h.modules]
  rw [ofWorkbook, ofWorkbook, h.names]
  cases select start book.sheetNames with
  | error error => rfl
  | ok names => simp only [sheets]

end Plan

end StepSheet
