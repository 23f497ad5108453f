/-
  Letters and digits, and the comparisons that ignore the
  case of letters.

  Only the letters a to z have a case here; every other
  character equals itself alone.

  Key definitions include:
    * `Text.sameLetters`
    * `Text.occursIn`
    * `Text.numeral`
-/

namespace KbConsole

namespace Text

------------------------------------------------------------
-- Case
------------------------------------------------------------

/- A text with its letters in lower case. -/
def lower (s : String) : String :=
  String.ofList (s.toList.map Char.toLower)

/- Equality up to the case of letters. -/
def sameLetters (s t : String) : Bool :=
  lower s == lower t

/- What follows `start`, if the characters begin with it. -/
def after? (start : List Char) (cs : List Char) :
    Option (List Char) :=
  match start, cs with
  | [], cs => some cs
  | _ :: _, [] => none
  | a :: start, c :: cs =>
      if a == c then after? start cs else none

/- Whether `part` occurs somewhere in the characters. -/
def occursIn (part : List Char) : List Char → Bool
  | [] => part.isEmpty
  | c :: cs =>
      part.isPrefixOf (c :: cs) || occursIn part cs

------------------------------------------------------------
-- Numerals
------------------------------------------------------------

/- The value of a decimal digit. -/
def digitValue (c : Char) : Nat :=
  c.toNat - '0'.toNat

/- The number written by a list of decimal digits. -/
def numeral (cs : List Char) : Nat :=
  cs.foldl (fun n c => 10 * n + digitValue c) 0

/- A non-empty list of decimal digits. -/
def isNumeral (cs : List Char) : Bool :=
  !cs.isEmpty && cs.all Char.isDigit

/- The value of a hexadecimal digit. -/
def hexValue? (c : Char) : Option Nat :=
  if c.isDigit then
    some (digitValue c)
  else if 'a' ≤ c && c ≤ 'f' then
    some (c.toNat - 'a'.toNat + 10)
  else if 'A' ≤ c && c ≤ 'F' then
    some (c.toNat - 'A'.toNat + 10)
  else
    none

/- The lower-case hexadecimal digit of a number below 16. -/
def hexDigit (n : Nat) : Char :=
  if n < 10 then
    Char.ofNat ('0'.toNat + n)
  else
    Char.ofNat ('a'.toNat + (n - 10))

end Text

end KbConsole
