import KbConsole.Terminal.Style
import KbConsole.Text.Blank
import KbConsole.Text.Units

/-
  Lines of output. A line is made of pieces in different
  styles; whether the styles show is decided when the line
  is printed.

  Key definitions include:
    * `Piece`, `Line`
    * `Line.text`
    * `Line.header`, `Line.entry`, `Line.block`
-/

namespace KbConsole

/- A piece of text in styles, the outermost first. -/
structure Piece where
  styles : List Style := []
  text : String
deriving DecidableEq, Repr, Inhabited

/- What is printed at once, followed by a line break. -/
abbrev Line :=
  List Piece

namespace Line

------------------------------------------------------------
-- Text of a Line
------------------------------------------------------------

/- The text of a piece, with or without colours. -/
def pieceText (coloured : Bool) (piece : Piece) : String :=
  if coloured then
    Style.paint piece.styles piece.text
  else
    piece.text

/- The text of a line, with or without colours. -/
def text (coloured : Bool) (line : Line) : String :=
  String.join (line.map (pieceText coloured))

/- The text of lines, each followed by a line break. -/
def allText (coloured : Bool) (lines : List Line) : String :=
  String.join (lines.map fun line => line.text coloured ++ "\n")

------------------------------------------------------------
-- Plain and Styled Lines
------------------------------------------------------------

/- A line in some styles, the outermost first. -/
def styled (styles : List Style) (text : String) : Line :=
  [{ styles, text }]

/- A line without styles. -/
def plain (text : String) : Line :=
  styled [] text

/- An empty line. -/
def blank : Line :=
  plain ""

/- A line that informs. -/
def info (text : String) : Line :=
  styled [.cyan] text

/- A line about a success. -/
def success (text : String) : Line :=
  styled [.green] text

/- A line that warns. -/
def warning (text : String) : Line :=
  styled [.yellow] text

/- A line about an error. -/
def error (text : String) : Line :=
  styled [.red] text

/- A line that stays in the background. -/
def faint (text : String) : Line :=
  styled [.dim] text

/- A line that stands out. -/
def strong (text : String) : Line :=
  styled [.bold] text

------------------------------------------------------------
-- Composed Lines
------------------------------------------------------------

/- A title between an empty line and a rule. -/
def header (title : String) : List Line :=
  [blank, styled [.bold, .cyan] title,
    faint (Text.repeated '=' (Text.width title))]

/- A value with its name. -/
def entry (name value : String) : Line :=
  [{ styles := [.dim], text := name ++ ":" },
    { text := " " ++ value }]

/- The announcement of a statement. -/
def statement (sql : String) : Line :=
  faint ("SQL> " ++ sql)

/- The lines of a text, each in the given styles. -/
def block (styles : List Style) (text : String) : List Line :=
  (Text.splitOn '\n' text).map (styled styles)

end Line

end KbConsole
