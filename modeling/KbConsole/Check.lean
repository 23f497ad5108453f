import KbConsole.Identifier
import KbConsole.Number.Count
import KbConsole.Url

/-
  Checks of answers typed at a prompt. A check gives the
  reason for which an answer is refused, or none.

  Key definitions include:
    * `Check`
    * `Check.name`
    * `Check.required`
    * `Check.count`
    * `Check.url`
-/

namespace KbConsole

/- The reason for which an answer is refused, if any. -/
abbrev Check :=
  String → Option String

namespace Check

/- Names must be safe identifiers; blanks around are fine. -/
def name : Check := fun answer =>
  if Text.isVoid answer then
    some "Name is required"
  else if !Identifier.isSafe (Text.trim answer) then
    some "Use only letters, digits and underscores"
  else
    none

/- The answer to a required field must not be blank. -/
def required (field : String) : Check := fun answer =>
  if Text.isVoid answer then
    some (field ++ " is required")
  else
    none

/- Counts are whole numbers above zero. -/
def count : Check := fun answer =>
  if Number.isCount answer then
    none
  else
    some "Enter a whole number above 0"

/- Server addresses; blanks around them are not allowed. -/
def url : Check := fun answer =>
  if Text.isVoid answer then
    some "URL is required"
  else if !Url.isValid answer then
    some "Please enter a valid URL (http:// or https://)"
  else
    none

end Check

end KbConsole
