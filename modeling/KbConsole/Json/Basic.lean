import KbConsole.Keyed
import KbConsole.Number.Notation

/-
  JSON values.

  The members of an object are kept in the order in which
  they are shown (see `Keyed`).

  Key definitions include:
    * `Json`
    * `Json.member?`
    * `Json.label?`
-/

namespace KbConsole

------------------------------------------------------------
-- Values
------------------------------------------------------------

/- A JSON value. -/
inductive Json where
  | null
  | bool (value : Bool)
  | number (value : Number)
  | text (value : String)
  | array (items : List Json)
  | object (members : List (String × Json))
deriving Repr, Inhabited, BEq

namespace Json

/- The member of an object with the given key. -/
def member? (key : String) : Json → Option Json
  | object members => Keyed.get? key members
  | _ => none

/- The text of a text value. -/
def text? : Json → Option String
  | text value => some value
  | _ => none

/- The items of an array. -/
def items? : Json → Option (List Json)
  | array items => some items
  | _ => none

/- An integer. -/
def ofNat (n : Nat) : Json :=
  number (.integer n)

/- Whether a value counts as true in a condition. -/
def isTruthy : Json → Bool
  | null => false
  | bool value => value
  | number (.integer value) => value != 0
  | number (.binary _ mantissa _) => mantissa != 0
  | number (.infinite _) => true
  | number .undefined => false
  | text value => value != ""
  | array _ => true
  | object _ => true

------------------------------------------------------------
-- Labels
------------------------------------------------------------

/-
  A value written as a plain label: texts as they are,
  arrays as their items' labels between commas, with null
  items left empty. An object has one fixed label, and none
  at all if a member hides its way to write itself.
-/
mutual

def label? : Json → Option String
  | null => some "null"
  | bool value => some (if value then "true" else "false")
  | number value => some value.text
  | text value => some value
  | array items =>
      (itemLabels? items).map (",".intercalate ·)
  | object members =>
      if Keyed.has "toString" members then
        none
      else
        some "[object Object]"

def itemLabels? : List Json → Option (List String)
  | [] => some []
  | null :: items => (itemLabels? items).map ("" :: ·)
  | item :: items => do
      let first ← label? item
      let rest ← itemLabels? items
      return first :: rest

end

end Json

end KbConsole
