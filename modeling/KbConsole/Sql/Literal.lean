import KbConsole.Json.Printer
import KbConsole.Problem
import KbConsole.Scalar
import KbConsole.Sql.Dialect

/-
  Literal values of statements.

  A text stands between single quotes, with every single
  quote in it doubled; dialects that escape by backslashes
  have these doubled too. Structured values travel as the
  text of their JSON.

  Key definitions include:
    * `Sql.quoted`
    * `Sql.Literal`
    * `Sql.Literal.ofScalar`, `Sql.Literal.ofJson`
    * `Sql.Literal.text`
-/

namespace KbConsole

namespace Sql

------------------------------------------------------------
-- Quoted Text
------------------------------------------------------------

/- A character as it stands between single quotes. -/
def escapeChar (d : Dialect) (c : Char) : List Char :=
  if c = '\'' then
    ['\'', '\'']
  else if c = '\\' ∧ d.escapesBackslash then
    ['\\', '\\']
  else
    [c]

/- The characters of a text between single quotes. -/
def quotedChars (d : Dialect) (s : String) : List Char :=
  '\'' :: (s.toList.flatMap (escapeChar d) ++ ['\''])

/- A text between single quotes. -/
def quoted (d : Dialect) (s : String) : String :=
  String.ofList (quotedChars d s)

/- A list of texts in brackets. -/
def quotedList (d : Dialect) (values : List String) : String :=
  "[" ++ ", ".intercalate (values.map (quoted d)) ++ "]"

------------------------------------------------------------
-- Objects
------------------------------------------------------------

/- A key and a scalar, both as JSON text. -/
def memberText (entry : String × Scalar) : String :=
  Json.quote entry.1 ++ ": " ++ entry.2.toJson.print

/- The nested options of a statement, in braces. -/
def membersText (entries : List (String × Scalar)) : String :=
  "\x7b" ++ ", ".intercalate (entries.map memberText) ++ "\x7d"

------------------------------------------------------------
-- Literals
------------------------------------------------------------

/- A value that is written into a statement. -/
inductive Literal where
  | text (value : String)
  | number (value : Number)
  | bool (value : Bool)
  | null
  | texts (values : List String)
  | members (entries : List (String × Scalar))
deriving DecidableEq, Repr

namespace Literal

/- The literal of a number, which has to be finite. -/
def ofNumber (n : Number) : Except Problem Literal :=
  if n.isFinite then .ok (number n) else .error (.notFinite n)

/- The literal of a scalar. -/
def ofScalar : Scalar → Except Problem Literal
  | .text value => .ok (text value)
  | .number value => ofNumber value
  | .bool value => .ok (bool value)

/-
  The literal of a JSON value. Arrays and objects become
  the text of their JSON.
-/
def ofJson : Json → Except Problem Literal
  | .null => .ok null
  | .bool value => .ok (bool value)
  | .number value => ofNumber value
  | .text value => .ok (text value)
  | .array items => .ok (text (Json.array items).print)
  | .object entries => .ok (text (Json.object entries).print)

/- A literal as it stands in a statement. -/
def print (d : Dialect) : Literal → String
  | text value => quoted d value
  | number value => value.text
  | bool value => if value then "true" else "false"
  | null => "NULL"
  | texts values => quotedList d values
  | members entries => membersText entries

end Literal

end Sql

end KbConsole
