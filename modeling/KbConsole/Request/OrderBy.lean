import KbConsole.Request.Basic
import KbConsole.Text.Blank

/-
  Sort orders given as text: a column, and a direction or
  none.

  Key definitions include:
    * `Direction.ofText?`
    * `OrderBy.ofText`
-/

namespace KbConsole

/- The direction that a word names, in any case of letters. -/
def Direction.ofText? (word : String) : Option Direction :=
  if Text.sameLetters word "asc" then
    some .ascending
  else if Text.sameLetters word "desc" then
    some .descending
  else
    none

/-
  A sort order is one word, the column, or two words, the
  column and its direction.
-/
def OrderBy.ofText (text : String) : Except Problem OrderBy :=
  match Text.words text with
  | [column] => .ok { column }
  | [column, word] =>
      match Direction.ofText? word with
      | none => .error (.malformedOrder text)
      | some direction =>
          .ok { column, direction := some direction }
  | _ => .error (.malformedOrder text)

end KbConsole
