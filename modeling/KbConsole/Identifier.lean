import KbConsole.Text.Letter

/-
  Identifiers: the names that may stand in a statement
  without quotes.

  Key definitions include:
    * `Identifier.isSafe`
    * `Identifier`
    * `Identifier.ofText?`
-/

namespace KbConsole

/-
  Letters, digits and underscores, and at least one
  character that is not an underscore.
-/
def Identifier.isSafe (s : String) : Bool :=
  let cs := s.toList.filter (· != '_')
  !cs.isEmpty && cs.all Char.isAlphanum

/- A name that may stand in a statement without quotes. -/
structure Identifier where
  text : String
  safe : Identifier.isSafe text = true
deriving DecidableEq, Repr

namespace Identifier

/- The identifier that a text is, if it is one. -/
def ofText? (s : String) : Option Identifier :=
  if h : isSafe s = true then some ⟨s, h⟩ else none

end Identifier

end KbConsole
