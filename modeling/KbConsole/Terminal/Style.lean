import KbConsole.Text.Letter

/-
  Styles of text on a terminal.

  A styled text stands between the codes that turn its
  styles on and off. Styles are off across a line break, and
  where the text turns one of them off they are turned on
  again.

  Key definitions include:
    * `Style`
    * `Style.reopen`
    * `Style.splitAtBreaks`
    * `Style.paint`
-/

namespace KbConsole

/- The styles in use. -/
inductive Style where
  | bold
  | dim
  | red
  | green
  | yellow
  | cyan
deriving DecidableEq, Repr, Inhabited

namespace Style

------------------------------------------------------------
-- Codes
------------------------------------------------------------

/- The number that turns a style on. -/
def onNumber : Style → Nat
  | bold => 1
  | dim => 2
  | red => 31
  | green => 32
  | yellow => 33
  | cyan => 36

/- The number that turns a style off. -/
def offNumber : Style → Nat
  | bold => 22
  | dim => 22
  | _ => 39

/- The character that begins a code. -/
def escape : Char := '\x1b'

/- The code with the given number. -/
def code (number : Nat) : List Char :=
  escape :: '[' :: ((toString number).toList ++ ['m'])

/- The code that turns a style on. -/
def on (style : Style) : List Char :=
  code style.onNumber

/- The code that turns a style off. -/
def off (style : Style) : List Char :=
  code style.offNumber

/- Turn styles on, the outermost first. -/
def allOn (styles : List Style) : List Char :=
  styles.flatMap on

/- Turn styles off, the innermost first. -/
def allOff (styles : List Style) : List Char :=
  styles.reverse.flatMap off

------------------------------------------------------------
-- Texts That Hold Codes
------------------------------------------------------------

/-
  Insert a text after every occurrence of a code. The number
  counts the characters of an occurrence that are still to
  come.
-/
def insertAfter
    (code added : List Char) : Nat → List Char → List Char
  | _, [] => []
  | 0, c :: cs =>
      if code.isPrefixOf (c :: cs) then
        c :: insertAfter code added (code.length - 1) cs
      else
        c :: insertAfter code added 0 cs
  | 1, c :: cs => c :: (added ++ insertAfter code added 0 cs)
  | n + 2, c :: cs => c :: insertAfter code added (n + 1) cs

/- Turn a style on again wherever a text turns it off. -/
def reopen (style : Style) (cs : List Char) : List Char :=
  insertAfter style.off style.on 0 cs

/- Turn styles off before each line break and on after it. -/
def splitAtBreaks
    (styles : List Style) : List Char → List Char
  | [] => []
  | '\r' :: '\n' :: cs =>
      allOff styles ++ '\r' :: '\n' ::
        (allOn styles ++ splitAtBreaks styles cs)
  | c :: cs =>
      if c = '\n' then
        allOff styles ++ '\n' ::
          (allOn styles ++ splitAtBreaks styles cs)
      else
        c :: splitAtBreaks styles cs

------------------------------------------------------------
-- Painting
------------------------------------------------------------

/-
  A text in the given styles, the outermost first. The empty
  text takes no codes.
-/
def paint (styles : List Style) (text : String) : String :=
  match text.toList with
  | [] => ""
  | cs =>
      String.ofList
        (allOn styles ++
          (splitAtBreaks styles
              (styles.foldr reopen cs) ++
            allOff styles))

end Style

end KbConsole
