import KbConsole.Scalar

/-
  The tables that a server answers with.

  A row also knows some names for which it holds no cell.
  Each of them has a fixed text, which is shown where such a
  row has to fill a column of that name. One of the names
  hides cells: an empty cell under it strips the row of the
  names that it knows, and any other one is dropped.

  Key definitions include:
    * `Cell`, `Row`
    * `Row.ofCells`
    * `Row.label?`
    * `ResultSet`
-/

namespace KbConsole

------------------------------------------------------------
-- Rows
------------------------------------------------------------

/- A cell: a scalar, or nothing. -/
abbrev Cell :=
  Option Scalar

/-
  A row: cells by the names of their columns, and whether it
  knows no other names.
-/
structure Row where
  cells : Keyed Cell := []
  isBare : Bool := false
deriving DecidableEq, Repr, Inhabited

namespace Row

/- The name under which a row keeps no cell. -/
def hiddenColumn : String :=
  "__proto__"

/-
  Add named cells to a row. A cell under the hidden name is
  left out; once such a cell was empty, the name is one like
  any other.
-/
def fill (row : Row) : List (String × Cell) → Row
  | [] => row
  | (column, cell) :: rest =>
      if !row.isBare && column = hiddenColumn then
        fill { row with isBare := cell.isNone } rest
      else
        fill
          { row with cells := Keyed.put row.cells column cell }
          rest

/- The row that a list of named cells makes. -/
def ofCells (cells : List (String × Cell)) : Row :=
  fill {} cells

------------------------------------------------------------
-- Names without Cells
------------------------------------------------------------

/- The names that a row knows by a text of one form. -/
def knownNames : List String :=
  ["__defineGetter__", "__defineSetter__", "hasOwnProperty",
    "__lookupGetter__", "__lookupSetter__", "isPrototypeOf",
    "propertyIsEnumerable", "toString", "valueOf",
    "toLocaleString"]

/- The form of the texts of known names. -/
def knownForm (name : String) : String :=
  "function " ++ name ++ "() \x7b [native code] \x7d"

/- The text of a name that a row knows without a cell. -/
def known? (name : String) : Option String :=
  if name = hiddenColumn then
    some "[object Object]"
  else if name = "constructor" then
    some (knownForm "Object")
  else if knownNames.contains name then
    some (knownForm name)
  else
    none

/- The text that a row has for a column, if it has one. -/
def label? (row : Row) (column : String) : Option String :=
  match Keyed.get? column row.cells with
  | some cell => cell.map Scalar.label
  | none => if row.isBare then none else known? column

end Row

------------------------------------------------------------
-- Tables
------------------------------------------------------------

/- A table: the names of its columns, and its rows. -/
structure ResultSet where
  columns : List String := []
  rows : List Row := []
deriving DecidableEq, Repr, Inhabited

/- A cell as a JSON value. -/
def Cell.toJson : Cell → Json
  | none => .null
  | some value => value.toJson

/- A row as a JSON object. -/
def Row.toJson (row : Row) : Json :=
  .object
    (row.cells.map fun entry => (entry.1, Cell.toJson entry.2))

end KbConsole
