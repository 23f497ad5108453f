import KbConsole.CommandLine.Spec
import KbConsole.Text.Units

/-
  Help pages.

  A page has a usage line, a description, and lists of
  arguments, options and commands. The terms of all lists
  are filled to one width, and the descriptions are wrapped
  in the column beside them, unless that column is narrow.

  Key definitions include:
    * `Entry`, `Page`
    * `Page.wrapped`
    * `Page.lines`
    * `Program.page`, `Group.page`, `Command.page`
-/

namespace KbConsole

namespace CommandLine

------------------------------------------------------------
-- Pages
------------------------------------------------------------

/- A term with its description. -/
structure Entry where
  term : String
  description : String
deriving DecidableEq, Repr, Inhabited

/- What a help page shows. -/
structure Page where
  usage : String
  description : String
  arguments : List Entry := []
  options : List Entry := []
  commands : List Entry := []
  notes : List String := []
deriving DecidableEq, Repr, Inhabited

namespace Page

------------------------------------------------------------
-- Layout
------------------------------------------------------------

/- The margin of an entry. -/
def margin : Nat :=
  2

/- The space between a term and its description. -/
def gap : Nat :=
  2

/- The width of a page. -/
def pageWidth : Nat :=
  80

/- A narrower column is not wrapped. -/
def leastColumn : Nat :=
  40

/-
  Fill lines of at most the given width with words. The
  first argument is the line begun.
-/
def fill (width : Nat) (begun : String) :
    List String → List String
  | [] => [begun]
  | word :: words =>
      if Text.width begun + 1 + Text.width word ≤ width then
        fill width (begun ++ " " ++ word) words
      else
        begun :: fill width word words

/-
  The lines of a description beside terms of the given
  width. A line ends one short of its column.
-/
def wrapped (termWidth : Nat) (description : String) :
    List String :=
  let column := pageWidth - margin - (termWidth + gap)
  if column < leastColumn then
    [description]
  else
    match Text.splitOn ' ' description with
    | [] => [description]
    | word :: words => fill (column - 1) word words

/- The lines of an entry. -/
def entryLines (termWidth : Nat) (entry : Entry) :
    List String :=
  let indent := Text.repeated ' ' margin
  match wrapped termWidth entry.description with
  | [] => []
  | first :: rest =>
      (indent ++ Text.padEnd (termWidth + gap) entry.term ++ first)
        :: rest.map
          (Text.repeated ' ' (margin + termWidth + gap) ++ ·)

/- The lines of a list with its title, if it has entries. -/
def sectionLines
    (termWidth : Nat)
    (title : String)
    (entries : List Entry) : List String :=
  if entries.isEmpty then
    []
  else
    ["", title] ++ entries.flatMap (entryLines termWidth)

/- The width of the longest term of a page. -/
def termWidth (page : Page) : Nat :=
  ((page.arguments ++ page.options ++ page.commands).map
    fun entry => Text.width entry.term).foldl max 0

/- The lines of a page. -/
def lines (page : Page) : List String :=
  let width := page.termWidth
  ["Usage: " ++ page.usage, "", page.description] ++
    sectionLines width "Arguments:" page.arguments ++
    sectionLines width "Options:" page.options ++
    sectionLines width "Commands:" page.commands ++
    page.notes

end Page

------------------------------------------------------------
-- Entries
------------------------------------------------------------

/- The entry of an option. -/
def OptionSpec.entry (o : OptionSpec) : Entry :=
  { term := o.usage, description := o.fullDescription }

/- The option that asks for help; every level knows it. -/
def helpOption : OptionSpec :=
  { short := some 'h'
    long := "help"
    description := "display help for command" }

/- The name of the command that shows help. -/
def helpCommandName : String :=
  "help"

/- The entry of the command that shows help. -/
def helpEntry : Entry :=
  { term := helpCommandName ++ " [command]"
    description := helpOption.description }

/- The entries of options, that for help last. -/
def optionEntries (options : List OptionSpec) : List Entry :=
  (options ++ [helpOption]).map OptionSpec.entry

/- The entries of positional arguments, if some is described. -/
def positionalEntries (positionals : List Positional) :
    List Entry :=
  if positionals.any (·.description != "") then
    positionals.map fun p =>
      { term := p.name, description := p.description }
  else
    []

/- The positional arguments of a command, as they are shown. -/
def Command.positionalTexts (c : Command) : List String :=
  c.positionals.map Positional.usage

/- The entry of a command in the list of its group. -/
def Command.entry (c : Command) : Entry :=
  { term :=
      " ".intercalate
        (c.name ::
          ((if c.options.isEmpty then [] else ["[options]"]) ++
            c.positionalTexts))
    description := c.description }

/- The entry of a group in the list of the program. -/
def Group.entry (g : Group) : Entry :=
  { term := g.name, description := g.description }

------------------------------------------------------------
-- The Pages of a Program
------------------------------------------------------------

/- The page of the program. -/
def Program.page (p : Program) : Page :=
  { usage := p.name ++ " [options] [command]"
    description := p.description
    options := optionEntries p.options
    commands := p.groups.map Group.entry ++ [helpEntry]
    notes := p.notes }

/- The page of a group. -/
def Group.page (p : Program) (g : Group) : Page :=
  { usage := p.name ++ " " ++ g.name ++ " [options] [command]"
    description := g.description
    options := optionEntries []
    commands := g.commands.map Command.entry ++ [helpEntry] }

/- The page of a command. -/
def Command.page (p : Program) (g : Group) (c : Command) : Page :=
  { usage :=
      " ".intercalate
        ([p.name, g.name, c.name, "[options]"] ++
          c.positionalTexts)
    description := c.description
    arguments := positionalEntries c.positionals
    options := optionEntries c.options }

end CommandLine

end KbConsole
