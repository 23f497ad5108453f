import KbConsole.Problem
import KbConsole.Scalar

/-
  Metadata filters: restrictions on the metadata of search
  results, one per key.

  Only the shape of a filter is settled here. Whether its
  keys and operators can be used is settled when it becomes
  part of a statement.

  Key definitions include:
    * `Restriction`
    * `Filter`
    * `Filter.ofJson`
-/

namespace KbConsole

/-
  What is asked of one metadata key: a value, or operators
  with their operands.
-/
inductive Restriction where
  | equals (value : Scalar)
  | compares (operators : Keyed Scalar)
deriving DecidableEq, Repr, Inhabited

/- The restrictions of a search, by metadata key. -/
abbrev Filter :=
  Keyed Restriction

namespace Filter

/- The key that stands for no entry of its own. -/
def hiddenKey : String :=
  "__proto__"

/- Leave out the entries under the hidden key. -/
def visible {α : Type} (entries : Keyed α) : Keyed α :=
  entries.filter (fun entry => entry.1 != hiddenKey)

/- The operands of an operator object. -/
def operands
    (flag key : String) :
    List (String × Json) → Except Problem (Keyed Scalar)
  | [] => .ok []
  | (operator, operand) :: rest =>
      match Scalar.ofJson? operand with
      | none => .error (.filterOperand flag key operator)
      | some value => do
          let others ← operands flag key rest
          return (operator, value) :: others

/- The restriction that one member of a filter states. -/
def restriction
    (flag key : String)
    (condition : Json) : Except Problem Restriction :=
  match Scalar.ofJson? condition, condition with
  | some value, _ => .ok (.equals value)
  | none, .object members => do
      let operators ← operands flag key members
      return .compares (visible operators)
  | none, _ => .error (.filterValue flag key)

/- The restrictions of all members, in order. -/
def restrictions
    (flag : String) :
    List (String × Json) → Except Problem Filter
  | [] => .ok []
  | (key, condition) :: rest => do
      let first ← restriction flag key condition
      let others ← restrictions flag rest
      return (key, first) :: others

/-
  The filter that a JSON value states: an object whose
  members are scalars or objects of scalars. Entries under
  the hidden key are checked and then left out.
-/
def ofJson (flag : String) : Json → Except Problem Filter
  | .object members => do
      let entries ← restrictions flag members
      return visible entries
  | _ => .error (.filterNotObject flag)

end Filter

end KbConsole
