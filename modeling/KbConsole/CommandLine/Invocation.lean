import KbConsole.Arguments
import KbConsole.CommandLine.Help
import KbConsole.CommandLine.Scan

/-
  The meaning of a command line: a command with its
  arguments, a help page, the version, or a fault.

  Options of the program may stand anywhere. The first
  operand names a group and the second one a command; what
  is left are the arguments of the command.

  Key definitions include:
    * `Switches`, `Invocation`
    * `Reading`
    * `Command.read`, `Group.read`, `Program.read`
-/

namespace KbConsole

namespace CommandLine

------------------------------------------------------------
-- Invocations
------------------------------------------------------------

/- The options of the program that concern every command. -/
structure Switches where
  json : Bool := false
  dryRun : Bool := false
  quiet : Bool := false
deriving DecidableEq, Repr, Inhabited

/- A command to be run. -/
structure Invocation where
  action : Action
  switches : Switches
  arguments : Arguments
deriving DecidableEq, Repr, Inhabited

/- What a command line asks for. -/
inductive Reading where
  | version (text : String)
  /- A help page that was asked for. -/
  | help (page : Page)
  /- A help page because there is nothing to run. -/
  | usage (page : Page)
  | fault (fault : Fault)
  | run (invocation : Invocation)
deriving DecidableEq, Repr, Inhabited

------------------------------------------------------------
-- Help
------------------------------------------------------------

/- Whether the arguments left over ask for help. -/
def asksForHelp (unknown : List String) : Bool :=
  unknown.any helpOption.isWritten

------------------------------------------------------------
-- Suggestions
------------------------------------------------------------

/- The long options of a level, that for help included. -/
def longOptions (options : List OptionSpec) : List String :=
  (options ++ [helpOption]).map OptionSpec.longText

/-
  The fault of an option that no level knows. Only long
  options are compared with the known ones.
-/
def unknownOption
    (options : List OptionSpec)
    (text : String) : Fault :=
  .unknownOption text
    (if (Text.after? ['-', '-'] text.toList).isSome then
      Suggestion.similar text (longOptions options)
    else
      [])

/- The fault of a command that a level does not know. -/
def unknownCommand (names : List String) (text : String) :
    Fault :=
  .unknownCommand text
    (Suggestion.similar text (names ++ [helpCommandName]))

------------------------------------------------------------
-- Commands
------------------------------------------------------------

/- The argument that an option gives. -/
def optionArgument (s : Scan) (o : OptionSpec) :
    Option Argument :=
  match o.form with
  | .flag => if s.has o.long then some (.flag true) else none
  | .negation => some (.flag (!s.has o.long))
  | .value _ => (s.valuesOf o.long).getLast?.map Argument.text
  | .values _ => some (.texts (s.valuesOf o.long))

/- The arguments that the options of a command give. -/
def optionArguments (options : List OptionSpec) (s : Scan) :
    Arguments :=
  options.filterMap fun o =>
    (optionArgument s o).map (o.key, ·)

/- The arguments that operands give; more of them are ignored. -/
def positionalArguments :
    List Positional → List String → Except Fault Arguments
  | [], _ => .ok []
  | p :: positionals, [] =>
      if p.isOptional then
        positionalArguments positionals []
      else
        .error (.missingArgument p.name)
  | p :: positionals, operand :: operands =>
      if p.takesRest then
        .ok [(p.key, .texts (operand :: operands))]
      else do
        let others ← positionalArguments positionals operands
        return (p.key, .text operand) :: others

/- The reading of what is left for a command. -/
def Command.read
    (p : Program)
    (g : Group)
    (c : Command)
    (switches : Switches)
    (operands unknown : List String) : Reading :=
  match scan c.options false unknown with
  | .error fault => .fault fault
  | .ok s =>
      if asksForHelp s.unknown then
        .help (c.page p g)
      else
        match s.unknown with
        | text :: _ =>
            .fault (unknownOption (c.options ++ p.options) text)
        | [] =>
            match positionalArguments c.positionals
                (operands ++ s.operands) with
            | .error fault => .fault fault
            | .ok positional =>
                .run
                  { action := c.action
                    switches
                    arguments :=
                      positional ++ optionArguments c.options s }

------------------------------------------------------------
-- Groups
------------------------------------------------------------

/- The page of what is named after the help command. -/
def helpReading
    (page : Page)
    (page? : String → Option Page) : Option String → Reading
  | none => .help page
  | some name =>
      if name = "" then
        .help page
      else
        match page? name with
        | some page => .help page
        | none => .usage page

/-
  The reading of a level with its own list of names, when no
  operand leads on to the next level.
-/
def levelReading
    (page : Page)
    (names : List String)
    (options : List OptionSpec)
    (operands unknown : List String) : Reading :=
  if operands.isEmpty && unknown.isEmpty then
    .usage page
  else if asksForHelp unknown then
    .help page
  else
    match operands, unknown with
    | text :: _, _ => .fault (unknownCommand names text)
    | [], text :: _ => .fault (unknownOption options text)
    | [], [] => .usage page

/- The reading of what is left for a group. -/
def Group.read
    (p : Program)
    (g : Group)
    (switches : Switches)
    (operands unknown : List String) : Reading :=
  match scan [] false unknown with
  | .error fault => .fault fault
  | .ok s =>
      let operands := operands ++ s.operands
      let fallback :=
        levelReading (g.page p) (g.commands.map Command.name)
          p.options operands s.unknown
      match operands with
      | [] => fallback
      | name :: rest =>
          match g.command? name with
          | some c => c.read p g switches rest s.unknown
          | none =>
              if name = helpCommandName then
                helpReading (g.page p)
                  (fun name => (g.command? name).map (·.page p g))
                  rest.head?
              else
                fallback

------------------------------------------------------------
-- Programs
------------------------------------------------------------

/- The long option that asks for the version. -/
def versionOption : OptionSpec :=
  { short := some 'V'
    long := "version"
    description := "output the version number" }

/- The options of the program that concern every command. -/
def Switches.ofScan (s : Scan) : Switches :=
  { json := s.has "json"
    dryRun := s.has "dry-run"
    quiet := s.has "quiet" }

/- The reading of a command line. -/
def Program.read (p : Program) (argv : List String) : Reading :=
  match scan p.options false argv with
  | .error fault => .fault fault
  | .ok s =>
      let fallback :=
        levelReading p.page (p.groups.map Group.name) p.options
          s.operands s.unknown
      if s.has versionOption.long then
        .version p.version
      else
        match s.operands with
        | [] => fallback
        | name :: rest =>
            match p.group? name with
            | some g => g.read p (Switches.ofScan s) rest s.unknown
            | none =>
                if name = helpCommandName then
                  helpReading p.page
                    (fun name => (p.group? name).map (·.page p))
                    rest.head?
                else
                  fallback

end CommandLine

end KbConsole
