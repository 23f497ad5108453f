import KbConsole.Json.Basic
import KbConsole.Text.Half

/-
  JSON text written from values, compact or indented.

  Only the quote, the backslash, the control characters
  below the space and halves that are alone are escaped.
  Numbers that JSON cannot write become null.

  Key definitions include:
    * `Json.quoteChars`
    * `Json.chars`
    * `Json.print`
    * `Json.printIndented`
-/

namespace KbConsole

namespace Json

------------------------------------------------------------
-- Texts and Numbers
------------------------------------------------------------

/- The escape of a unit by its four hexadecimal digits. -/
def escapeUnit (unit : Nat) : List Char :=
  ['\\', 'u', Text.hexDigit (unit / 0x1000),
    Text.hexDigit (unit / 0x100 % 0x10),
    Text.hexDigit (unit / 0x10 % 0x10),
    Text.hexDigit (unit % 0x10)]

/-
  A character as it stands inside a JSON string, unless it
  is part of a pair of halves.
-/
def escapeChar (c : Char) : List Char :=
  if c = '"' then ['\\', '"']
  else if c = '\\' then ['\\', '\\']
  else if c = '\x08' then ['\\', 'b']
  else if c = '\t' then ['\\', 't']
  else if c = '\n' then ['\\', 'n']
  else if c = '\x0c' then ['\\', 'f']
  else if c = '\r' then ['\\', 'r']
  else if c.toNat < 0x20 then escapeUnit c.toNat
  else if Text.isHalf c then escapeUnit (Text.halfUnit c)
  else [c]

/-
  Characters as they stand inside a JSON string. Two halves
  that belong together stand as they are.
-/
def escapeChars : List Char → List Char
  | [] => []
  | [c] => escapeChar c
  | c :: d :: rest =>
      if Text.isHighHalf c && Text.isLowHalf d then
        c :: d :: escapeChars rest
      else
        escapeChar c ++ escapeChars (d :: rest)

/- A JSON string with the given content. -/
def quoteChars (s : String) : List Char :=
  '"' :: (escapeChars s.toList ++ ['"'])

/- A JSON string, as text. -/
def quote (s : String) : String :=
  String.ofList (quoteChars s)

/- A number, or null if it is not finite. -/
def numberChars (n : Number) : List Char :=
  if n.isFinite then n.chars else "null".toList

/- A truth value. -/
def boolChars (b : Bool) : List Char :=
  if b then "true".toList else "false".toList

------------------------------------------------------------
-- Compact Text
------------------------------------------------------------

/- The JSON text of a value, without any blanks. -/
mutual

def chars : Json → List Char
  | null => "null".toList
  | bool value => boolChars value
  | number value => numberChars value
  | text value => quoteChars value
  | array [] => ['[', ']']
  | array (item :: items) =>
      '[' :: (chars item ++ restChars items)
  | object [] => ['{', '}']
  | object ((key, value) :: members) =>
      '{' :: (quoteChars key ++ ':' ::
        (chars value ++ restMembers members))

/- The items after the first, and the closing bracket. -/
def restChars : List Json → List Char
  | [] => [']']
  | item :: items => ',' :: (chars item ++ restChars items)

/- The members after the first, and the closing brace. -/
def restMembers : List (String × Json) → List Char
  | [] => ['}']
  | (key, value) :: members =>
      ',' :: (quoteChars key ++ ':' ::
        (chars value ++ restMembers members))

end

/- The JSON text of a value, without any blanks. -/
def print (value : Json) : String :=
  String.ofList value.chars

------------------------------------------------------------
-- Indented Text
------------------------------------------------------------

/- A line break and the margin of a nesting depth. -/
def lineBreak (depth : Nat) : List Char :=
  '\n' :: List.replicate (2 * depth) ' '

/-
  The JSON text of a value at a nesting depth, every item
  and member on a line of its own.
-/
mutual

def indentedChars (depth : Nat) : Json → List Char
  | null => "null".toList
  | bool value => boolChars value
  | number value => numberChars value
  | text value => quoteChars value
  | array [] => ['[', ']']
  | array (item :: items) =>
      '[' :: (lineBreak (depth + 1) ++
        (indentedChars (depth + 1) item ++
          indentedRest depth items))
  | object [] => ['{', '}']
  | object ((key, value) :: members) =>
      '{' :: (lineBreak (depth + 1) ++
        (quoteChars key ++ ':' :: ' ' ::
          (indentedChars (depth + 1) value ++
            indentedRestMembers depth members)))

/- The items after the first, and the closing bracket. -/
def indentedRest (depth : Nat) : List Json → List Char
  | [] => lineBreak depth ++ [']']
  | item :: items =>
      ',' :: (lineBreak (depth + 1) ++
        (indentedChars (depth + 1) item ++
          indentedRest depth items))

/- The members after the first, and the closing brace. -/
def indentedRestMembers (depth : Nat) :
    List (String × Json) → List Char
  | [] => lineBreak depth ++ ['}']
  | (key, value) :: members =>
      ',' :: (lineBreak (depth + 1) ++
        (quoteChars key ++ ':' :: ' ' ::
          (indentedChars (depth + 1) value ++
            indentedRestMembers depth members)))

end

/- The JSON text of a value on indented lines. -/
def printIndented (value : Json) : String :=
  String.ofList (value.indentedChars 0)

end Json

end KbConsole
