import KbConsole.Text.Half

/-
  Text measured in UTF-16 units: a character outside the
  basic plane counts twice, and a half of one counts once.

  Columns of a table are padded and cut by this measure. A
  cut that falls inside a character leaves its first half.

  Key definitions include:
    * `Text.width`, `Text.units`
    * `Text.takeUnits`
    * `Text.padEnd`
-/

namespace KbConsole

namespace Text

/- The number of units that a character takes. -/
def charUnits (c : Char) : Nat :=
  if c.toNat < 0x10000 || isHalf c then 1 else 2

/- The number of units of a list of characters. -/
def charsWidth : List Char → Nat
  | [] => 0
  | c :: cs => charUnits c + charsWidth cs

/- The number of units of a text. -/
def width (s : String) : Nat :=
  charsWidth s.toList

/- The units of a character, as numbers. -/
def unitsOf (c : Char) : List Nat :=
  if c.toNat < 0x10000 then
    [c.toNat]
  else if isHalf c then
    [halfUnit c]
  else
    [halfUnit (highHalf c), halfUnit (lowHalf c)]

/- The units of a text, as numbers. -/
def units (s : String) : List Nat :=
  s.toList.flatMap unitsOf

/- The first `n` units of a list of characters. -/
def takeChars : Nat → List Char → List Char
  | _, [] => []
  | 0, _ :: _ => []
  | n + 1, c :: cs =>
      if charUnits c ≤ n + 1 then
        c :: takeChars (n + 1 - charUnits c) cs
      else
        [highHalf c]

/- The first `n` units of a text. -/
def takeUnits (n : Nat) (s : String) : String :=
  String.ofList (takeChars n s.toList)

/- A text of `n` copies of one character. -/
def repeated (c : Char) (n : Nat) : String :=
  String.ofList (List.replicate n c)

/- Fill a text with spaces up to `n` units. -/
def padEnd (n : Nat) (s : String) : String :=
  s ++ repeated ' ' (n - width s)

end Text

end KbConsole
