import StepSheet.Proofs.Data.Same
import StepSheet.Proofs.Data.Tally
import StepSheet.Proofs.Workbook.Columns

/-!
# The same cells in two formats

A workbook is read from a document by the names of its members and by the order of its lists, so
documents that differ only in the order of members hold the same cells, in rows whose columns
are in another order.
-/

namespace StepSheet

theorem Data.Same.cell_eq {a b : Data} (h : a.Same b) : Cell.ofData? b = Cell.ofData? a := by
  cases h <;> rfl

theorem Row.Rearranged.of_perm {row other : Row} (perm : row.entries.Perm other.entries) :
    row.Rearranged other :=
  ⟨other.entries, perm, List.forall₂_same.mpr fun entry _ => ⟨.refl entry.1, rfl⟩⟩

/-- The cell that a member of a table holds, under its name. -/
def Row.namedCell? (member : String × Data) : Option (String × Cell) :=
  (Cell.ofData? member.2).map (member.1, ·)

theorem Row.ofData?_object (members : List (String × Data)) :
    Row.ofData? (.object members) = (members.mapM Row.namedCell?).map OrderedMap.ofList := by
  have rowOf : Row.ofData? (.object members) =
      (members.mapM Row.namedCell?).bind fun cells => some (OrderedMap.ofList cells) := rfl
  rw [rowOf]
  cases members.mapM Row.namedCell? <;> rfl

/-- Cells have the names of the members that hold them. -/
theorem Row.names_of_mapM_namedCell? {members : List (String × Data)}
    {cells : List (String × Cell)} (h : members.mapM Row.namedCell? = some cells) :
    cells.map Prod.fst = members.map Prod.fst := by
  rw [← List.forall₂_eq_eq_eq, List.forall₂_map_left_iff, List.forall₂_map_right_iff]
  refine (mapM_eq_some_iff.mp h).flip.imp ?_
  intro cell member own
  obtain ⟨content, -, rfl⟩ := Option.map_eq_some_iff.mp own
  rfl

/-- The same tables are read as rows with the same cells. -/
theorem Data.Same.exists_row {a b : Data} (h : a.Same b) {row : Row}
    (read : Row.ofData? a = some row) :
    ∃ other, Row.ofData? b = some other ∧ row.Rearranged other := by
  cases h with
  | leaf => exact ⟨row, read, .of_perm (.refl _)⟩
  | array each => cases read
  | @object members between members' distinct perm each =>
      rw [Row.ofData?_object, Option.map_eq_some_iff] at read
      obtain ⟨cells, readCells, rfl⟩ := read
      -- Moved members hold the moved cells, and members that hold the same have one cell.
      obtain ⟨cells', readCells', permCells⟩ := mapM_of_perm perm readCells
      have step : ∀ m m' c, Data.SameMember m m' → Row.namedCell? m = some c →
          ∃ c', Row.namedCell? m' = some c' ∧ c = c' := by
        rintro _ _ c ⟨name, same⟩ own
        exact ⟨c, by simpa [Row.namedCell?, same.cell_eq] using own, rfl⟩
      obtain ⟨cells'', readCells'', equal⟩ := mapM_related step each readCells'
      rw [List.forall₂_eq_eq_eq] at equal
      have distinctCells : (cells.map Prod.fst).Nodup :=
        Row.names_of_mapM_namedCell? readCells ▸ distinct
      have distinctCells' : (cells'.map Prod.fst).Nodup :=
        (permCells.map Prod.fst).nodup_iff.mp distinctCells
      refine ⟨OrderedMap.ofList cells', ?_, .of_perm ?_⟩
      · rw [Row.ofData?_object, readCells'', ← equal, Option.map_some]
      · rw [OrderedMap.entries_ofList distinctCells, OrderedMap.entries_ofList distinctCells']
        exact permCells

namespace Workbook

/-- The same tables are read as sheets with the same cells. -/
theorem exists_sheet {a b : Data} (h : a.Same b) {sheet : Sheet}
    (read : sheetOfData? true a = some sheet) :
    ∃ other, sheetOfData? false b = some other ∧ sheet.Rearranged other := by
  rw [sheetOfData?] at read
  split at read
  · next name rows fields =>
    obtain ⟨_, fields', related⟩ := h.exists_fields fields
    obtain ⟨name', _, sameName, rest, rfl⟩ := List.forall₂_cons_left_iff.mp related
    obtain ⟨rows', _, sameRows, nothing, rfl⟩ := List.forall₂_cons_left_iff.mp rest
    rw [List.forall₂_nil_left_iff] at nothing
    subst nothing
    simp only [bind, Option.bind_eq_some_iff, pure, Option.some.injEq] at read
    obtain ⟨text, named, items, listed, own, readRows, rfl⟩ := read
    obtain ⟨items', listed', each⟩ := Data.exists_items sameRows listed
    have step : ∀ item item' row, Data.Same item item' → Row.ofData? item = some row →
        ∃ other, Row.ofData? item' = some other ∧ row.Rearranged other :=
      fun _ _ _ same read => same.exists_row read
    obtain ⟨own', readRows', arranged⟩ := mapM_related step each readRows
    refine ⟨⟨text, own'⟩, ?_, rfl, arranged⟩
    rw [sheetOfData?, fields']
    simp only [Data.required?_text_of_rel sameName named, listed', readRows', bind,
      Option.bind_some, pure]
  · cases read

/-- The same documents are read as workbooks with the same cells. -/
theorem exists_book {a b : Data} (h : a.Same b) {book : Workbook}
    (read : ofData? true a = some book) :
    ∃ other, ofData? false b = some other ∧ book.Rearranged other := by
  rw [ofData?] at read
  split at read
  · next sheets fields =>
    obtain ⟨_, fields', related⟩ := h.exists_fields fields
    obtain ⟨sheets', _, sameSheets, nothing, rfl⟩ := List.forall₂_cons_left_iff.mp related
    rw [List.forall₂_nil_left_iff] at nothing
    subst nothing
    simp only [bind, Option.bind_eq_some_iff, pure, Option.some.injEq] at read
    obtain ⟨items, listed, own, readSheets, rfl⟩ := read
    obtain ⟨items', listed', each⟩ := Data.exists_items sameSheets listed
    have step : ∀ item item' sheet, Data.Same item item' → sheetOfData? true item = some sheet →
        ∃ other, sheetOfData? false item' = some other ∧ sheet.Rearranged other :=
      fun _ _ _ same read => exists_sheet same read
    obtain ⟨own', readSheets', arranged⟩ := mapM_related step each readSheets
    refine ⟨⟨own'⟩, ?_, arranged⟩
    rw [ofData?, fields']
    simp only [listed', readSheets', bind, Option.bind_some, pure]
  · cases read

/-- Neither the order of columns nor the spelling of their names shows. Of a workbook in whose
rows no two column names are the same without blanks around them and in lower case, the same
steps, the same module tables and the same plans are read, or the same errors come, when the
columns of any rows are put in another order and their names are given other case or blanks
around them. So a document of the one format and a document of the other that hold the same, in
whatever order the members of their tables stand, give the same plans. -/
theorem order_and_spelling_never_show {book : Workbook} (spelled : book.IsWellSpelled) :
    (∀ other, book.Rearranged other →
      (∀ name, other.testSteps name = book.testSteps name) ∧
      (∀ name, other.moduleTable name = book.moduleTable name) ∧
      ∀ start moduleSheet,
        Plan.ofWorkbook other start moduleSheet = Plan.ofWorkbook book start moduleSheet) ∧
    ∀ json toml document document', Json.read? json = some document →
      Toml.read? toml = some document' → document.Same document' → ofJson? json = some book →
      ∃ other, ofToml? toml = some other ∧
        ∀ start moduleSheet,
          Plan.ofWorkbook other start moduleSheet = Plan.ofWorkbook book start moduleSheet := by
  constructor
  · intro other arranged
    have reads := arranged.readsAs spelled
    exact ⟨reads.steps, reads.modules, Plan.ofWorkbook_congr reads⟩
  · intro json toml document document' readJson readToml same read
    rw [ofJson?, readJson, Option.bind_some] at read
    obtain ⟨other, read', arranged⟩ := exists_book same read
    refine ⟨other, ?_, Plan.ofWorkbook_congr (arranged.readsAs spelled)⟩
    rw [ofToml?, readToml, Option.bind_some, read']

def click : Row :=
  .ofList [("STEP", .int 1), ("STEPDESCRIPTION", .text "in"), ("ACTIONTYPE", .text "CLICKBUTTON")]

def respelledClick : Row :=
  .ofList [(" ActionType", .text "CLICKBUTTON"), ("step", .int 1), ("StepDescription ", .text "in")]

/-- A document with a step, its columns in the order in which they are read. -/
def clickDocument : Data :=
  .object [("sheet", .array [.object [("name", .text "TestIn"), ("rows", .array [.object
    [("STEP", .integer 1), ("STEPDESCRIPTION", .text "in"),
      ("ACTIONTYPE", .text "CLICKBUTTON")]])]])]

def sortedDocument : Data :=
  .object [("sheet", .array [.object [("name", .text "TestIn"), ("rows", .array [.object
    [("ACTIONTYPE", .text "CLICKBUTTON"), ("STEP", .integer 1),
      ("STEPDESCRIPTION", .text "in")]])]])]

def clickJson : String :=
  "\x7b\"sheet\": [\x7b\"name\": \"TestIn\", \"rows\": [" ++
    "\x7b\"STEP\": 1, \"STEPDESCRIPTION\": \"in\", \"ACTIONTYPE\": \"CLICKBUTTON\"\x7d]\x7d]\x7d"

def clickToml : String :=
  "[[sheet]]\nname = \"TestIn\"\nrows = [" ++
    "\x7b STEP = 1, STEPDESCRIPTION = \"in\", ACTIONTYPE = \"CLICKBUTTON\" \x7d]\n"

/-- The one format keeps the order of the columns, the other sorts them. Neither this nor another
spelling of the columns changes the step. -/
theorem click_in_any_order :
    Json.read? clickJson = some clickDocument ∧ Toml.read? clickToml = some sortedDocument ∧
    Workbook.testSteps ⟨[⟨"TestIn", [respelledClick]⟩]⟩ "TestIn" =
      .ok [⟨1, "in", "CLICKBUTTON", none, none, none⟩] ∧
    ∃ other, ofToml? clickToml = some other ∧
      Plan.ofWorkbook other "Test" "Modules" =
        Plan.ofWorkbook ⟨[⟨"TestIn", [click]⟩]⟩ "Test" "Modules" := by
  have readJson : Json.read? clickJson = some clickDocument := by decide +kernel
  have readToml : Toml.read? clickToml = some sortedDocument := by decide +kernel
  have same : clickDocument.Same sortedDocument := by
    refine .object (by decide) (.refl _) (.cons (.mk "sheet" (.array (.cons ?_ .nil))) .nil)
    refine .object (by decide) (.refl _)
      (.cons (.refl _) (.cons (.mk "rows" (.array (.cons ?_ .nil))) .nil))
    exact .object (by decide) (by decide) (List.forall₂_same.mpr fun column _ => .refl column)
  have spelled : Workbook.IsWellSpelled ⟨[⟨"TestIn", [click]⟩]⟩ := by
    simp only [IsWellSpelled, List.forall_mem_singleton, Row.IsWellSpelled]
    decide +kernel
  have columns : click.Rearranged respelledClick :=
    ⟨[("ACTIONTYPE", .text "CLICKBUTTON"), ("STEP", .int 1), ("STEPDESCRIPTION", .text "in")],
      by decide +kernel,
      .cons ⟨⟨[' '], "ActionType".toList, [], by decide +kernel⟩, rfl⟩
        (.cons ⟨⟨[], "step".toList, [], by decide +kernel⟩, rfl⟩
          (.cons ⟨⟨[], "StepDescription".toList, [' '], by decide +kernel⟩, rfl⟩ .nil))⟩
  obtain ⟨forms, formats⟩ := order_and_spelling_never_show spelled
  refine ⟨readJson, readToml, ?_, ?_⟩
  · obtain ⟨unchanged, -⟩ :=
      forms ⟨[⟨"TestIn", [respelledClick]⟩]⟩ (.cons ⟨rfl, .cons columns .nil⟩ .nil)
    rw [unchanged]
    decide +kernel
  · have read : ofJson? clickJson = some ⟨[⟨"TestIn", [click]⟩]⟩ := by
      rw [ofJson?, readJson]
      rfl
    obtain ⟨other, read', plans⟩ := formats _ _ _ _ readJson readToml same read
    exact ⟨other, read', plans "Test" "Modules"⟩

end Workbook

end StepSheet
