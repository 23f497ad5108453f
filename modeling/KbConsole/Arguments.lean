import KbConsole.Json.Parser
import KbConsole.Number.Count
import KbConsole.Request.Names

/-
  Arguments of an operation as the command line hands them
  over, and the readers that give them a type.

  A blank text counts as absent.

  Key definitions include:
    * `Argument`
    * `Arguments`
    * `Arguments.word?`, `Arguments.text?`
    * `Arguments.count`
    * `Arguments.json?`
-/

namespace KbConsole

/- The value of an option or of a positional argument. -/
inductive Argument where
  | text (value : String)
  | flag (value : Bool)
  | texts (values : List String)
deriving DecidableEq, Repr, Inhabited

/- Arguments by name; the first of a name counts. -/
abbrev Arguments :=
  List (String × Argument)

namespace Arguments

------------------------------------------------------------
-- Texts
------------------------------------------------------------

/- The trimmed text of an argument that is not blank. -/
def word? (args : Arguments) (key : String) : Option String :=
  match Keyed.get? key args with
  | some (.text value) =>
      if Text.isVoid value then none else some (Text.trim value)
  | _ => none

/- The whole text of an argument that is not blank. -/
def text? (args : Arguments) (key : String) : Option String :=
  match Keyed.get? key args with
  | some (.text value) =>
      if Text.isVoid value then none else some value
  | _ => none

/- A value that must be there, under the user's name for it. -/
def demand
    {α : Type}
    (label : String) : Option α → Except Problem α
  | none => .error (.missing label)
  | some value => .ok value

/- The trimmed text of an argument that must be there. -/
def word
    (args : Arguments)
    (key label : String) : Except Problem String :=
  demand label (args.word? key)

/- The whole text of an argument that must be there. -/
def text
    (args : Arguments)
    (key label : String) : Except Problem String :=
  demand label (args.text? key)

------------------------------------------------------------
-- Other Types
------------------------------------------------------------

/- The entries of a list with commas, if there is one. -/
def list?
    (args : Arguments)
    (key label : String) :
    Except Problem (Option (List String)) :=
  match args.word? key with
  | none => .ok none
  | some value => do
      let entries ← ColumnList.ofText label value
      return some entries

/- The texts of an argument that may be repeated. -/
def repeated (args : Arguments) (key : String) : List String :=
  match Keyed.get? key args with
  | some (.texts values) => values
  | some (.text value) => [value]
  | _ => []

/- Whether a flag is set. -/
def isSet (args : Arguments) (key : String) : Bool :=
  Keyed.get? key args == some (.flag true)

/- Whether a flag is set to false. -/
def isUnset (args : Arguments) (key : String) : Bool :=
  Keyed.get? key args == some (.flag false)

/- A count, or the given number when there is none. -/
def count
    (args : Arguments)
    (key label : String)
    (fallback : Nat) : Except Problem Number :=
  match args.word? key with
  | none => .ok (.integer fallback)
  | some value =>
      match Number.count? value with
      | none => .error (.notPositive label value)
      | some n => .ok n

/- The value that the JSON text of an option writes. -/
def parseJson
    (flag text : String) : Except Problem Json :=
  match Json.parse? text with
  | none => .error (.malformedJson flag text)
  | some value => .ok value

/- The value of a JSON option, if there is one. -/
def json?
    (args : Arguments)
    (key label : String) : Except Problem (Option Json) :=
  match args.word? key with
  | none => .ok none
  | some value => do
      let json ← parseJson label value
      return some json

/- A model or job, in the project given beside it. -/
def objectRef
    (args : Arguments)
    (key label : String) : Except Problem ObjectRef := do
  let name ← args.word key label
  return { project := args.word? "projectName", name }

end Arguments

end KbConsole
