import KbConsole.Json.Printer
import KbConsole.Server.Rejection
import KbConsole.Server.Table

/-
  Tables and errors read from the body of a response.

  Key definitions include:
    * `Cell.ofJson`
    * `Response.errorMessage?`
    * `Response.resultSet`
-/

namespace KbConsole

/-
  The cell that a JSON value becomes. Arrays and objects
  become their JSON text.
-/
def Cell.ofJson : Json → Cell
  | .null => none
  | .array items => some (.text (Json.array items).print)
  | .object members => some (.text (Json.object members).print)
  | value => Scalar.ofJson? value

namespace Response

------------------------------------------------------------
-- Errors
------------------------------------------------------------

/- The message that a body gives for an error. -/
def errorMessage? (body : Json) : Option String :=
  ((body.member? "error_message").bind Json.text?).filter
    (· != "")

/- The code that a body gives for an error. -/
def errorCode? (body : Json) : Option ErrorCode :=
  match body.member? "error_code" with
  | some (.text value) => some (.text value)
  | some (.number value) => some (.number value)
  | _ => none

------------------------------------------------------------
-- Tables
------------------------------------------------------------

/- The labels of the columns. -/
def columnLabels :
    List Json → Except Rejection (List String)
  | [] => .ok []
  | name :: names =>
      match name.label? with
      | none => .error .unlabelledColumn
      | some label => do
          let others ← columnLabels names
          return label :: others

/-
  Give each column its cell. Columns beyond the last cell
  are empty, and cells beyond the last column are dropped.
-/
def pairCells :
    List String → List Json → List (String × Cell)
  | [], _ => []
  | column :: columns, [] => (column, none) :: pairCells columns []
  | column :: columns, cell :: cells =>
      (column, Cell.ofJson cell) :: pairCells columns cells

/- The row that an item of the data makes. -/
def rowOf (columns : List String) (item : Json) : Row :=
  Row.ofCells (pairCells columns (item.items?.getD []))

/-
  What a readable body answers: an error, a table, or
  nothing to show.
-/
def resultSet (body : Json) : Except Rejection ResultSet :=
  match body.member? "type", body.member? "column_names" with
  | some (.text "error"), _ =>
      .error (.remote
        ((errorMessage? body).getD "Query failed")
        (errorCode? body))
  | some (.text "table"), some (.array names) => do
      let columns ← columnLabels names
      let data := ((body.member? "data").bind Json.items?).getD []
      return { columns, rows := data.map (rowOf columns) }
  | _, _ => .ok {}

end Response

end KbConsole
