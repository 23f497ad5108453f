import KbConsole.Proofs.Json.RoundTrip
import KbConsole.Terminal.ReportLines

/-
  Reports as JSON documents.

  A document is one line of output, without colours. What
  reads it finds the statements, the outcome and the
  warnings as they were, if JSON can hold the cells of the
  rows: its numbers are exact integers, and each row has its
  cells in the order in which they are shown.

  Key definitions include:
    * `Cell.IsExact`, `Row.IsExact`
    * `Outcome.found`
    * `Report.IsExact`
    * `Cell.IsReadAs`, `Row.IsReadAs`, `Outcome.IsReadAs`
    * `Report.IsReadAs`
    * `Report.IsPrintedBy`

  The main statement is `Report.isPrintedBy_lines`.
-/

namespace KbConsole

------------------------------------------------------------
-- Plain Lines
------------------------------------------------------------

/- Without styles there is nothing to turn off and on. -/
theorem Style.splitAtBreaks_nil (cs : List Char) :
    splitAtBreaks [] cs = cs := by
  fun_induction splitAtBreaks [] cs with
  | case1 => rfl
  | case2 cs ih => rw [ih]; rfl
  | case3 cs hOther ih => rw [ih]; rfl
  | case4 c cs hOther hBreak ih => rw [ih]

theorem Style.paint_nil (text : String) :
    paint [] text = text := by
  unfold paint
  rw [← String.toList_inj]
  split
  · rename_i hEmpty
    rw [hEmpty]
    rfl
  · simp only [splitAtBreaks_nil]
    simp [allOn, allOff]

/- A plain line is its text, with or without colours. -/
theorem Line.text_plain (coloured : Bool) (text : String) :
    (Line.plain text).text coloured = text := by
  have hPiece (piece : Piece) :
      Line.text coloured [piece] =
        Line.pieceText coloured piece := by
    simp [Line.text, String.join]
  rw [Line.plain, Line.styled, hPiece, Line.pieceText]
  split
  · exact Style.paint_nil text
  · rfl

------------------------------------------------------------
-- Exact Reports
------------------------------------------------------------

/- A cell is exact unless it is a number and no integer. -/
def Cell.IsExact : Cell → Prop
  | some (.number n) =>
      ∃ value : Int,
        n = .integer value ∧
          value.natAbs ≤ Number.largestExact
  | _ => True

/- The cells of a row are exact, and in their order. -/
structure Row.IsExact (row : Row) : Prop where
  ordered : row.cells.IsOrdered
  cells : ∀ entry ∈ row.cells, Cell.IsExact entry.2

/- The rows of an outcome. -/
def Outcome.found : Outcome → List Row
  | rows _ found => found
  | _ => []

/- JSON can hold all rows of the report. -/
def Report.IsExact (report : Report) : Prop :=
  ∀ row ∈ report.outcome.found, row.IsExact

theorem Cell.isExact_toJson
    {cell : Cell}
    (hExact : cell.IsExact) :
    (toJson cell).IsExact := by
  rcases cell with _ | value
  · trivial
  · cases value with
    | text value => trivial
    | bool value => trivial
    | number n => exact hExact

theorem Row.isExact_toJson
    {row : Row}
    (hExact : row.IsExact) :
    row.toJson.IsExact := by
  rw [toJson, Json.isExact_object_iff]
  refine ⟨hExact.ordered.map Cell.toJson, ?_⟩
  intro entry hEntry
  rcases List.mem_map.mp hEntry with ⟨cell, hCell, rfl⟩
  exact Cell.isExact_toJson (hExact.cells cell hCell)

theorem Json.isExact_ofTexts (texts : List String) :
    (ofTexts texts).IsExact := by
  rw [ofTexts, IsExact, areExact_iff]
  intro item hItem
  rcases List.mem_map.mp hItem with ⟨text, -, rfl⟩
  trivial

theorem Outcome.isExact_toJson
    {outcome : Outcome}
    (hExact : ∀ row ∈ outcome.found, row.IsExact) :
    outcome.toJson.IsExact := by
  cases outcome with
  | empty =>
      apply Json.isExact_object ["type"] rfl
      · decide
      · decide
      · simp [Json.IsExact]
  | failure kind message =>
      apply Json.isExact_object ["type", "kind", "message"] rfl
      · decide
      · decide
      · simp [Json.IsExact]
  | rows columns found =>
      have hType : (Json.text "rows").IsExact := trivial
      have hColumns := Json.isExact_ofTexts columns
      have hRows :
          (Json.array (found.map Row.toJson)).IsExact := by
        rw [Json.IsExact, Json.areExact_iff]
        intro item hItem
        rcases List.mem_map.mp hItem with ⟨row, hRow, rfl⟩
        exact Row.isExact_toJson (hExact row hRow)
      apply Json.isExact_object ["type", "columns", "rows"] rfl
      · decide
      · decide
      · simp [hType, hColumns, hRows]

theorem Report.isExact_document
    {report : Report}
    (hExact : report.IsExact) :
    report.document.IsExact := by
  have hStatements := Json.isExact_ofTexts report.statements
  have hOutcome := Outcome.isExact_toJson hExact
  have hWarnings := Json.isExact_ofTexts report.warnings
  apply Json.isExact_object ["sql", "outcome", "warnings"] rfl
  · decide
  · decide
  · simp [hStatements, hOutcome, hWarnings]

------------------------------------------------------------
-- Read Documents
------------------------------------------------------------

/- What is read of a cell: the cell itself. -/
inductive Cell.IsReadAs : Cell → Json → Prop where
  | null : IsReadAs none .null
  | text (value : String) :
      IsReadAs (some (.text value)) (.text value)
  | bool (value : Bool) :
      IsReadAs (some (.bool value)) (.bool value)
  | number (value : Number) :
      IsReadAs (some (.number value)) (.number value)

/- What is read of a row: its cells under their keys. -/
def Row.IsReadAs (row : Row) (value : Json) : Prop :=
  ∃ members,
    value = .object members ∧
      List.Forall₂
        (fun entry member =>
          member.1 = entry.1 ∧
            Cell.IsReadAs entry.2 member.2)
        row.cells members

/- What is read of an outcome: its type and all its parts. -/
inductive Outcome.IsReadAs : Outcome → Json → Prop where
  | empty :
      IsReadAs .empty (.object [("type", .text "empty")])
  | failure (kind : ErrorKind) (message : String) :
      IsReadAs (.failure kind message)
        (.object
          [("type", .text "failure"),
            ("kind", .text kind.name),
            ("message", .text message)])
  | rows
      {columns : List String}
      {found : List Row}
      {values : List Json}
      (hRows : List.Forall₂ Row.IsReadAs found values) :
      IsReadAs (.rows columns found)
        (.object
          [("type", .text "rows"),
            ("columns", .array (columns.map .text)),
            ("rows", .array values)])

/- What is read of a report. -/
def Report.IsReadAs (report : Report) (value : Json) : Prop :=
  ∃ outcome,
    report.outcome.IsReadAs outcome ∧
      value =
        .object
          [("sql", .array (report.statements.map .text)),
            ("outcome", outcome),
            ("warnings", .array (report.warnings.map .text))]

theorem Cell.isReadAs_toJson (cell : Cell) :
    cell.IsReadAs (toJson cell) := by
  rcases cell with _ | value
  · exact .null
  · cases value with
    | text value => exact .text value
    | bool value => exact .bool value
    | number value => exact .number value

theorem Row.isReadAs_toJson (row : Row) :
    row.IsReadAs row.toJson := by
  refine ⟨_, rfl, ?_⟩
  rw [List.forall₂_map_right_iff, List.forall₂_same]
  intro entry _
  exact ⟨rfl, Cell.isReadAs_toJson entry.2⟩

theorem Outcome.isReadAs_toJson (outcome : Outcome) :
    outcome.IsReadAs outcome.toJson := by
  cases outcome with
  | empty => exact .empty
  | failure kind message => exact .failure kind message
  | rows columns found =>
      apply IsReadAs.rows
      rw [List.forall₂_map_right_iff, List.forall₂_same]
      intro row _
      exact row.isReadAs_toJson

theorem Report.isReadAs_document (report : Report) :
    report.IsReadAs report.document :=
  ⟨_, report.outcome.isReadAs_toJson, rfl⟩

------------------------------------------------------------
-- Printed Documents
------------------------------------------------------------

/-
  The lines are one plain line, and what it says is the
  document of the report, in which all of it is found.
-/
def Report.IsPrintedBy
    (lines : List Line)
    (report : Report) : Prop :=
  ∃ text,
    lines = [Line.plain text] ∧
      (∀ coloured,
        (Line.plain text).text coloured = text) ∧
      Json.parse? text = some report.document ∧
      report.IsReadAs report.document

theorem Report.isPrintedBy_lines
    {report : Report}
    (hExact : report.IsExact) :
    report.IsPrintedBy (report.lines true) :=
  ⟨report.document.printIndented, rfl,
    fun coloured => Line.text_plain coloured _,
    Json.parse?_printIndented (isExact_document hExact),
    report.isReadAs_document⟩

end KbConsole
