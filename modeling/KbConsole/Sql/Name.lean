import KbConsole.Identifier
import KbConsole.Problem
import KbConsole.Request.Basic
import KbConsole.Settings
import KbConsole.Sql.Dialect

/-
  The names that statements are about: columns, tables and
  objects of a project. All of them consist of safe
  identifiers.

  Key definitions include:
    * `Identifier.ofText`
    * `Sql.Column`, `Sql.Column.ofText`
    * `Sql.ObjectName`, `Sql.ObjectName.ofRef`
    * `Sql.TableName`, `Sql.TableName.ofRef`
-/

namespace KbConsole

/-
  The identifier that a text is; the field says what it was
  meant to name.
-/
def Identifier.ofText
    (field text : String) : Except Problem Identifier :=
  match ofText? text with
  | none => .error (.unsafeName field text)
  | some name => .ok name

namespace Sql

------------------------------------------------------------
-- Columns
------------------------------------------------------------

/- A column, in backquotes when its name is reserved. -/
structure Column where
  name : Identifier
  quoted : Bool := false
deriving DecidableEq, Repr

namespace Column

/- The column that a text names. -/
def ofText
    (d : Dialect)
    (field text : String) : Except Problem Column := do
  let name ← Identifier.ofText field text
  return {
    name
    quoted := d.reservedWords.contains (Text.lower name.text) }

/- A column as it stands in a statement. -/
def text (c : Column) : String :=
  if c.quoted then
    "\x60" ++ c.name.text ++ "\x60"
  else
    c.name.text

end Column

------------------------------------------------------------
-- Objects
------------------------------------------------------------

/- A model or job, qualified by its project if it has one. -/
structure ObjectName where
  project : Option Identifier
  name : Identifier
deriving DecidableEq, Repr

/- The identifier of a project; an empty one is absent. -/
def project?
    (project : Option String) :
    Except Problem (Option Identifier) :=
  match given? project with
  | none => .ok none
  | some project =>
      (Identifier.ofText "project name" project).map some

namespace ObjectName

/- The object that a reference names. -/
def ofRef
    (field : String)
    (ref : ObjectRef) : Except Problem ObjectName := do
  let name ← Identifier.ofText field ref.name
  let project ← project? ref.project
  return { project, name }

/- An object as it stands in a statement. -/
def text (o : ObjectName) : String :=
  match o.project with
  | none => o.name.text
  | some project => project.text ++ "." ++ o.name.text

end ObjectName

------------------------------------------------------------
-- Tables
------------------------------------------------------------

/- A table of a datasource. -/
structure TableName where
  datasource : Identifier
  table : Identifier
deriving DecidableEq, Repr

namespace TableName

/- The table that a reference names. -/
def ofRef (ref : TableRef) : Except Problem TableName := do
  let datasource ←
    Identifier.ofText "datasource name" ref.datasource
  let table ← Identifier.ofText "table name" ref.table
  return { datasource, table }

/- A table as it stands in a statement. -/
def text (t : TableName) : String :=
  t.datasource.text ++ "." ++ t.table.text

end TableName

end Sql

end KbConsole
