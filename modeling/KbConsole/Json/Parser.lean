import KbConsole.Json.Basic
import KbConsole.Text.Half

/-
  JSON values read from text.

  Each reader takes the characters that remain and gives
  what it read and the characters after it. Blanks around
  values are the space, the tab and the two line breaks
  only. Two escaped halves of a character are joined; a half
  alone stays one.

  Key definitions include:
    * `Json.readString`
    * `Json.readNumber`
    * `Json.readValue`
    * `Json.parse?`
-/

namespace KbConsole

namespace Json

/- The blanks that may stand around a value. -/
def isSpace (c : Char) : Bool :=
  c == ' ' || c == '\t' || c == '\n' || c == '\r'

/- Skip the blanks in front. -/
def skip (cs : List Char) : List Char :=
  cs.dropWhile isSpace

------------------------------------------------------------
-- Strings
------------------------------------------------------------

/- The number written by four hexadecimal digits. -/
def hexUnit? (a b c d : Char) : Option Nat := do
  let a ← Text.hexValue? a
  let b ← Text.hexValue? b
  let c ← Text.hexValue? c
  let d ← Text.hexValue? d
  return ((a * 16 + b) * 16 + c) * 16 + d

/- The character that a one-letter escape stands for. -/
def escaped? (c : Char) : Option Char :=
  if c = '"' then some '"'
  else if c = '\\' then some '\\'
  else if c = '/' then some '/'
  else if c = 'b' then some '\x08'
  else if c = 'f' then some '\x0c'
  else if c = 'n' then some '\n'
  else if c = 'r' then some '\r'
  else if c = 't' then some '\t'
  else none

/-
  The units of a string up to its closing quote. Characters
  that stand for themselves count as one unit each.
-/
def readUnits : List Char → Option (List Nat × List Char)
  | [] => none
  | '"' :: cs => some ([], cs)
  | '\\' :: 'u' :: a :: b :: c :: d :: cs => do
      let unit ← hexUnit? a b c d
      let (units, rest) ← readUnits cs
      return (unit :: units, rest)
  | '\\' :: c :: cs => do
      let c ← escaped? c
      let (units, rest) ← readUnits cs
      return (c.toNat :: units, rest)
  | c :: cs =>
      if c = '\\' ∨ c.toNat < 0x20 then
        none
      else do
        let (units, rest) ← readUnits cs
        return (c.toNat :: units, rest)

/- Whether a unit is the first half of a character. -/
def isHighUnit (unit : Nat) : Bool :=
  0xD800 ≤ unit && unit < 0xDC00

/- Whether a unit is the second half of a character. -/
def isLowUnit (unit : Nat) : Bool :=
  0xDC00 ≤ unit && unit < 0xE000

/- The character of a unit that stands alone. -/
def unitChar (unit : Nat) : Char :=
  if isHighUnit unit || isLowUnit unit then
    Text.half unit
  else
    Char.ofNat unit

/- The characters of two units that belong together. -/
def pairChars (high low : Nat) : List Char :=
  Text.receivedChar
    (Text.joined (Text.half high) (Text.half low))

/- The characters of a list of units. -/
def joinUnits : List Nat → List Char
  | [] => []
  | [unit] => [unitChar unit]
  | high :: low :: units =>
      if isHighUnit high && isLowUnit low then
        pairChars high low ++ joinUnits units
      else
        unitChar high :: joinUnits (low :: units)

/- A string, after its opening quote. -/
def readString (cs : List Char) : Option (String × List Char) := do
  let (units, rest) ← readUnits cs
  return (String.ofList (joinUnits units), rest)

------------------------------------------------------------
-- Numbers
------------------------------------------------------------

/- The decimal digits in front, and what follows them. -/
def readDigits (cs : List Char) : List Char × List Char :=
  (cs.takeWhile Char.isDigit, cs.dropWhile Char.isDigit)

/- The digits after a decimal point, if there is one. -/
def readFraction : List Char → Option (List Char × List Char)
  | '.' :: cs =>
      let (digits, rest) := readDigits cs
      if digits.isEmpty then none else some (digits, rest)
  | cs => some ([], cs)

/- The digits of an exponent, with a sign. -/
def readExponentDigits
    (negative : Bool)
    (cs : List Char) : Option (Int × List Char) :=
  let (digits, rest) := readDigits cs
  let value : Int := Text.numeral digits
  if digits.isEmpty then
    none
  else
    some (if negative then -value else value, rest)

/- An exponent, if there is one. -/
def readExponent : List Char → Option (Int × List Char)
  | [] => some (0, [])
  | c :: cs =>
      if c = 'e' ∨ c = 'E' then
        match cs with
        | '-' :: cs => readExponentDigits true cs
        | '+' :: cs => readExponentDigits false cs
        | cs => readExponentDigits false cs
      else
        some (0, c :: cs)

/- A number without its sign. -/
def readMagnitude
    (negative : Bool)
    (cs : List Char) : Option (Number × List Char) := do
  let (whole, rest) := readDigits cs
  if whole.isEmpty ||
      (whole.head? == some '0' && whole.length != 1) then
    none
  else
    let (fraction, rest) ← readFraction rest
    let (exponent, rest) ← readExponent rest
    let digits := Text.numeral (whole ++ fraction)
    let exponent := exponent - fraction.length
    return (Number.ofDecimal negative digits exponent, rest)

/- A number. -/
def readNumber : List Char → Option (Number × List Char)
  | '-' :: cs => readMagnitude true cs
  | cs => readMagnitude false cs

------------------------------------------------------------
-- Values
------------------------------------------------------------

/-
  A value, with blanks allowed in front. The first argument
  bounds the nesting of calls.
-/
mutual

def readValue : Nat → List Char → Option (Json × List Char)
  | 0, _ => none
  | depth + 1, cs =>
      match skip cs with
      | '"' :: cs => do
          let (value, rest) ← readString cs
          return (text value, rest)
      | '[' :: cs =>
          match skip cs with
          | ']' :: rest => some (array [], rest)
          | cs => do
              let (items, rest) ← readItems depth cs
              return (array items, rest)
      | '{' :: cs =>
          match skip cs with
          | '}' :: rest => some (object [], rest)
          | cs => do
              let (members, rest) ← readMembers depth cs
              return (object (Keyed.ofList members), rest)
      | 'n' :: 'u' :: 'l' :: 'l' :: rest => some (null, rest)
      | 't' :: 'r' :: 'u' :: 'e' :: rest =>
          some (bool true, rest)
      | 'f' :: 'a' :: 'l' :: 's' :: 'e' :: rest =>
          some (bool false, rest)
      | cs => do
          let (value, rest) ← readNumber cs
          return (number value, rest)

/- The items of an array, up to its closing bracket. -/
def readItems : Nat → List Char → Option (List Json × List Char)
  | 0, _ => none
  | depth + 1, cs => do
      let (item, rest) ← readValue depth cs
      match skip rest with
      | ',' :: rest =>
          let (items, rest) ← readItems depth rest
          return (item :: items, rest)
      | ']' :: rest => return ([item], rest)
      | _ => none

/- The members of an object, up to its closing brace. -/
def readMembers :
    Nat → List Char → Option (List (String × Json) × List Char)
  | 0, _ => none
  | depth + 1, cs =>
      match skip cs with
      | '"' :: cs => do
          let (key, rest) ← readString cs
          match skip rest with
          | ':' :: rest =>
              let (value, rest) ← readValue depth rest
              match skip rest with
              | ',' :: rest =>
                  let (members, rest) ←
                    readMembers depth rest
                  return ((key, value) :: members, rest)
              | '}' :: rest => return ([(key, value)], rest)
              | _ => none
          | _ => none
      | _ => none

end

/-
  The value that a text writes. A value takes at least one
  character, so twice the length bounds the nesting.
-/
def parse? (s : String) : Option Json := do
  let cs := s.toList
  let (value, rest) ← readValue (2 * cs.length + 2) cs
  if (skip rest).isEmpty then some value else none

end Json

end KbConsole
