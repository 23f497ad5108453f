import KbConsole.Request.Basic
import KbConsole.Text.Blank

/-
  Names given as text: lists of columns, tables of a
  datasource, and parameters with a key and a value.

  Key definitions include:
    * `ColumnList.ofText`
    * `TableRef.ofText`
    * `Parameter.ofText`
    * `defaultColumns`
-/

namespace KbConsole

------------------------------------------------------------
-- Lists
------------------------------------------------------------

/- The parts between the occurrences of `c`, trimmed. -/
def trimmedParts (c : Char) (text : String) : List String :=
  (Text.splitOn c text).map Text.trim

/-
  The entries of a list with commas. None of them may be
  blank.
-/
def ColumnList.ofText
    (label text : String) : Except Problem (List String) :=
  let entries := trimmedParts ',' text
  if entries.contains "" then
    .error (.emptyEntry label text)
  else
    .ok entries

------------------------------------------------------------
-- Tables
------------------------------------------------------------

/-
  A table is written as its datasource, a point and its
  name; neither part may be blank.
-/
def TableRef.ofText
    (label text : String) : Except Problem TableRef :=
  match trimmedParts '.' text with
  | [datasource, table] =>
      if datasource = "" ∨ table = "" then
        .error (.malformedTable label text)
      else
        .ok { datasource, table }
  | _ => .error (.malformedTable label text)

/- Tables that are each given as text. -/
def TableRef.listOfTexts
    (label : String) :
    List String → Except Problem (List TableRef)
  | [] => .ok []
  | text :: texts => do
      let first ← TableRef.ofText label text
      let others ← TableRef.listOfTexts label texts
      return first :: others

------------------------------------------------------------
-- Parameters
------------------------------------------------------------

/-
  A parameter is written as its key, an equals sign and its
  value. The key is trimmed and not blank; the value is
  taken as it is.
-/
def Parameter.ofText
    (text : String) : Except Problem (String × String) :=
  let cs := text.toList
  match cs.dropWhile (· != '=') with
  | [] => .error (.malformedParameter text)
  | _ :: value =>
      let key := Text.trimChars (cs.takeWhile (· != '='))
      if key.isEmpty then
        .error (.malformedParameter text)
      else
        .ok (String.ofList key, String.ofList value)

/- Parameters that are each given as text, in order. -/
def Parameter.listOfTexts :
    List String → Except Problem (List (String × String))
  | [] => .ok []
  | text :: texts => do
      let first ← Parameter.ofText text
      let others ← Parameter.listOfTexts texts
      return first :: others

------------------------------------------------------------
-- Default Columns
------------------------------------------------------------

/- Metadata keys that keep the names of their sources. -/
def unrenamed (columns : List String) :
    List (String × String) :=
  columns.map fun column => (column, column)

/-
  The columns that are ingested from a table when none are
  named. Stories and comments are known; any other table is
  expected to have a text and an identifier.
-/
def defaultColumns (table : String) : ColumnChoice :=
  if table = "stories" then
    { content := ["title", "text"]
      metadata := unrenamed
        ["id", "by", "score", "time", "descendants", "url"] }
  else if table = "comments" then
    { content := ["text"]
      metadata := unrenamed ["id", "by", "parent", "time"] }
  else
    { content := ["text"]
      metadata := unrenamed ["id"] }

end KbConsole
