/-
  Blank characters, and the operations on text that treat
  them as margins or separators.

  The blank characters are the tab, the line breaks, the
  space, the other Unicode spaces and the byte order mark.
  The next-line control, the Mongolian vowel separator and
  the zero-width space are not blank.

  Key definitions include:
    * `Text.isBlank`
    * `Text.trim`
    * `Text.words`
    * `Text.collapse`
-/

namespace KbConsole

namespace Text

------------------------------------------------------------
-- Blank Characters
------------------------------------------------------------

/- The characters that separate words. -/
def isBlank (c : Char) : Bool :=
  let n := c.toNat
  (0x9 ≤ n && n ≤ 0xD) || n == 0x20 || n == 0xA0 ||
    n == 0x1680 || (0x2000 ≤ n && n ≤ 0x200A) ||
    n == 0x2028 || n == 0x2029 || n == 0x202F ||
    n == 0x205F || n == 0x3000 || n == 0xFEFF

------------------------------------------------------------
-- Margins
------------------------------------------------------------

/- Remove the characters at the end that satisfy `p`. -/
def dropEnd
    (p : Char → Bool)
    (cs : List Char) : List Char :=
  (cs.reverse.dropWhile p).reverse

/- Remove the blanks at both ends. -/
def trimChars (cs : List Char) : List Char :=
  dropEnd isBlank (cs.dropWhile isBlank)

/- Remove the blanks at both ends of a text. -/
def trim (s : String) : String :=
  String.ofList (trimChars s.toList)

/- Remove the blanks at the end of a text. -/
def trimEnd (s : String) : String :=
  String.ofList (dropEnd isBlank s.toList)

/- A text of blanks only; the empty text is one. -/
def isVoid (s : String) : Bool :=
  s.toList.all isBlank

------------------------------------------------------------
-- Words
------------------------------------------------------------

/-
  The parts of a text between the characters that satisfy
  `p`, empty parts included; there is always one.
-/
def splitBy
    (p : Char → Bool) : List Char → List (List Char)
  | [] => [[]]
  | c :: cs =>
      if p c then
        [] :: splitBy p cs
      else
        match splitBy p cs with
        | [] => [[c]]
        | part :: parts => (c :: part) :: parts

/- The parts of a text between the occurrences of `c`. -/
def splitOn (c : Char) (s : String) : List String :=
  (splitBy (· == c) s.toList).map String.ofList

/- The longest blank-free pieces of a text, in order. -/
def words (s : String) : List String :=
  ((splitBy isBlank s.toList).filter (! ·.isEmpty)).map
    String.ofList

------------------------------------------------------------
-- Collapsing
------------------------------------------------------------

/-
  Write each run of blanks as one space. The flag says
  whether the character before was blank.
-/
def collapseFrom (afterBlank : Bool) : List Char → List Char
  | [] => []
  | c :: cs =>
      if isBlank c then
        if afterBlank then
          collapseFrom true cs
        else
          ' ' :: collapseFrom true cs
      else
        c :: collapseFrom false cs

/- Write each run of blanks in a text as one space. -/
def collapse (s : String) : String :=
  String.ofList (collapseFrom false s.toList)

end Text

end KbConsole
