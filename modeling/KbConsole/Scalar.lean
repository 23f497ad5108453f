import KbConsole.Json.Basic

/-
  Scalars: the texts, numbers and truth values that filters
  compare with and that the cells of a table hold.

  Key definitions include:
    * `Scalar`
    * `Scalar.ofJson?`
    * `Scalar.toJson`
-/

namespace KbConsole

/- A text, a number or a truth value. -/
inductive Scalar where
  | text (value : String)
  | number (value : Number)
  | bool (value : Bool)
deriving DecidableEq, Repr, Inhabited

namespace Scalar

/- The scalar that a JSON value is, if it is one. -/
def ofJson? : Json → Option Scalar
  | .text value => some (text value)
  | .number value => some (number value)
  | .bool value => some (bool value)
  | _ => none

/- A scalar as a JSON value. -/
def toJson : Scalar → Json
  | text value => .text value
  | number value => .number value
  | bool value => .bool value

/- A scalar as plain text. -/
def label : Scalar → String
  | text value => value
  | number value => value.text
  | bool value => if value then "true" else "false"

/- Reading a written scalar gives it back. -/
@[simp] theorem ofJson?_toJson (s : Scalar) :
    ofJson? s.toJson = some s := by
  cases s <;> rfl

end Scalar

end KbConsole
