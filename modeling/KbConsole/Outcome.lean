import KbConsole.Server.Rejection
import KbConsole.Server.Table
import KbConsole.Text.Blank
import KbConsole.Text.Units

/-
  Outcomes of statements, and their text for a terminal.

  Rows are laid out as a table: a line of column names, a
  line of dashes, a line per row, and the number of rows.
  Cells are flattened to one line and cut to a largest
  width.

  Key definitions include:
    * `Outcome`
    * `Outcome.ofResult`, `Outcome.ofRejection`
    * `Layout.widths`, `Layout.lines`
    * `Outcome.render`
-/

namespace KbConsole

------------------------------------------------------------
-- Outcomes
------------------------------------------------------------

/- What became of a statement. -/
inductive Outcome where
  | rows (columns : List String) (rows : List Row)
  | empty
  | failure (kind : ErrorKind) (message : String)
deriving DecidableEq, Repr, Inhabited

namespace Outcome

/- Whether an outcome is a failure. -/
def isFailure : Outcome → Bool
  | failure _ _ => true
  | _ => false

/- The outcome of an answered statement. -/
def ofResult (result : ResultSet) : Outcome :=
  if result.rows.isEmpty then
    empty
  else
    rows result.columns result.rows

/- The failure that a problem with the input is. -/
def ofProblem (p : Problem) : Outcome :=
  failure p.kind p.message

/- The code of a rejection, for the end of its message. -/
def codeSuffix : Rejection → String
  | .remote _ (some code) => " (code " ++ code.label ++ ")"
  | _ => ""

/-
  The failure that a rejection is. What does not come from
  the input is reported under the category of its message.
-/
def ofRejection : Rejection → Outcome
  | .input kind message _ => failure kind message
  | rejection =>
      failure .remoteFailure
        ((Category.ofMessage rejection.message).label ++ ": " ++
          rejection.message ++ codeSuffix rejection)

end Outcome

------------------------------------------------------------
-- Cells
------------------------------------------------------------

namespace Layout

/- The largest width of a cell. -/
def maxCellWidth : Nat := 60

/- Cut a text that is too wide, and mark the cut. -/
def clip (text : String) : String :=
  if maxCellWidth < Text.width text then
    Text.takeUnits (maxCellWidth - 3) text ++ "..."
  else
    text

/- The text of a cell, on one line. -/
def cellText : Option String → String
  | some label => clip (Text.collapse label)
  | none => ""

/- The texts of a row's cells under the given columns. -/
def cellTexts (columns : List String) (row : Row) :
    List String :=
  columns.map fun column => cellText (row.label? column)

------------------------------------------------------------
-- Lines
------------------------------------------------------------

/- The widest of a list of widths and one more. -/
def widest (least : Nat) (widths : List Nat) : Nat :=
  widths.foldl max least

/- The width of each column: that of its widest text. -/
def widths : List String → List (List String) → List Nat
  | [], _ => []
  | column :: columns, body =>
      widest (Text.width column)
          (body.map fun cells =>
            Text.width (cells.headD "")) ::
        widths columns (body.map List.tail)

/- Texts filled up to the widths of their columns. -/
def padded (cells : List String) (widths : List Nat) :
    List String :=
  List.zipWith (fun cell width => Text.padEnd width cell)
    cells widths

/- A line of cells, two spaces apart. -/
def line (cells : List String) (widths : List Nat) : String :=
  Text.trimEnd ("  ".intercalate (padded cells widths))

/- The line of dashes, as long as the longest line. -/
def rule (widths : List Nat) : String :=
  Text.repeated '-'
    (widths.foldl (fun total width => total + width + 2) 0 - 2)

/- The last line: how many rows there are. -/
def countLine (count : Nat) : String :=
  "(" ++ toString count ++
    (if count = 1 then " row" else " rows") ++ ")"

/- The lines of a table with the given columns. -/
def lines (columns : List String) (rows : List Row) :
    List String :=
  let body := rows.map (cellTexts columns)
  let widths := widths columns body
  [line columns widths, rule widths] ++
    body.map (line · widths) ++
    ["", countLine rows.length]

/-
  The text of a table. Its columns are those of the first
  row, and there has to be one.
-/
def table : List Row → Except Rejection String
  | [] => .error .noRows
  | first :: rest =>
      if first.cells.isEmpty then
        .error .noColumns
      else
        .ok ("\n".intercalate
          (lines (Keyed.keys first.cells) (first :: rest)))

end Layout

------------------------------------------------------------
-- Text
------------------------------------------------------------

namespace Outcome

/- What is shown when there is nothing to show. -/
def nothingFound : String :=
  "No results found."

/- The text of a failure. -/
def failureText (kind : ErrorKind) (message : String) :
    String :=
  "[" ++ kind.name ++ "] " ++ message

/-
  The text of an outcome. The first argument is shown when
  there is nothing to show.
-/
def render (nothing : String) :
    Outcome → Except Rejection String
  | empty => .ok nothing
  | failure kind message => .ok (failureText kind message)
  | rows _ found => Layout.table found

/-
  The text of an outcome that is no table; that of a table
  is left out.
-/
def plainText : Outcome → String
  | failure kind message => failureText kind message
  | _ => ""

end Outcome

end KbConsole
