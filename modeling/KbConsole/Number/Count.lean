import KbConsole.Number.Basic
import KbConsole.Text.Blank

/-
  Counts given as text: a plus or minus sign or none, then
  decimal digits, with a value of at least one.

  Leading zeros are allowed, and blanks around the count are
  not part of it.

  Key definitions include:
    * `Number.count?`
    * `Number.isCount`
-/

namespace KbConsole

namespace Number

/- The digits of a count, without its plus sign. -/
def countDigits : List Char → List Char
  | '+' :: cs => cs
  | cs => cs

/-
  The number written by a count. A minus sign, a fraction
  and a zero are refused.
-/
def count? (s : String) : Option Number :=
  let digits := countDigits (Text.trimChars s.toList)
  if Text.isNumeral digits && Text.numeral digits != 0 then
    some (ofNumeral digits)
  else
    none

/- Whether a text writes a count. -/
def isCount (s : String) : Bool :=
  (count? s).isSome

end Number

end KbConsole
