import KbConsole.Operation
import KbConsole.Text.Blank

/-
  What a command line may hold: options, positional
  arguments, commands in groups, and the program.

  Key definitions include:
    * `OptionSpec`, `Positional`
    * `Action`, `Command`
    * `Group`, `Program`
-/

namespace KbConsole

namespace CommandLine

------------------------------------------------------------
-- Options
------------------------------------------------------------

/- What an option does when it is given. -/
inductive OptionForm where
  /- It sets a flag. -/
  | flag
  /- It clears a flag that is set otherwise. -/
  | negation
  /- It takes a value; the last one counts. -/
  | value (placeholder : String)
  /- It takes a value; all of them count. -/
  | values (placeholder : String)
deriving DecidableEq, Repr, Inhabited

/- An option of a program or of a command. -/
structure OptionSpec where
  short : Option Char := none
  long : String
  form : OptionForm := .flag
  description : String
deriving DecidableEq, Repr, Inhabited

namespace OptionSpec

/- The name of the value, for an option that takes one. -/
def placeholder? (o : OptionSpec) : Option String :=
  match o.form with
  | .flag => none
  | .negation => none
  | .value placeholder => some placeholder
  | .values placeholder => some placeholder

/- Whether an option takes a value. -/
def takesValue (o : OptionSpec) : Bool :=
  o.placeholder?.isSome

/- The long way to write an option. -/
def longText (o : OptionSpec) : String :=
  "--" ++ o.long

/- The short way to write an option, if it has one. -/
def shortText? (o : OptionSpec) : Option String :=
  o.short.map fun c => String.ofList ['-', c]

/- Whether an argument writes the option. -/
def isWritten (o : OptionSpec) (arg : String) : Bool :=
  o.longText == arg || o.shortText? == some arg

/- The ways to write an option, and its value. -/
def usage (o : OptionSpec) : String :=
  (match o.shortText? with
    | none => ""
    | some text => text ++ ", ") ++
  o.longText ++
  (match o.placeholder? with
    | none => ""
    | some placeholder => " <" ++ placeholder ++ ">")

/- The description of an option, with its default. -/
def fullDescription (o : OptionSpec) : String :=
  match o.form with
  | .values _ => o.description ++ " (default: [])"
  | _ => o.description

/- A word with its first letter in upper case. -/
def capitalized (word : String) : String :=
  match word.toList with
  | [] => ""
  | c :: cs => String.ofList (c.toUpper :: cs)

/- Words between hyphens, joined in camel case. -/
def camelCase (text : String) : String :=
  match Text.splitOn '-' text with
  | [] => ""
  | first :: rest =>
      first ++ String.join (rest.map capitalized)

/- The key of the argument that an option gives. -/
def key (o : OptionSpec) : String :=
  match o.form with
  | .negation => camelCase (String.ofList (o.long.toList.drop 3))
  | _ => camelCase o.long

end OptionSpec

------------------------------------------------------------
-- Positional Arguments
------------------------------------------------------------

/- A positional argument of a command. -/
structure Positional where
  key : String
  name : String
  description : String := ""
  isOptional : Bool := false
  takesRest : Bool := false
deriving DecidableEq, Repr, Inhabited

/- How a positional argument is shown. -/
def Positional.usage (p : Positional) : String :=
  let name := if p.takesRest then p.name ++ "..." else p.name
  if p.isOptional then
    "[" ++ name ++ "]"
  else
    "<" ++ name ++ ">"

------------------------------------------------------------
-- Commands
------------------------------------------------------------

/- What a command does. -/
inductive Action where
  /- It carries out an operation. -/
  | perform (operation : Operation)
  /- It removes something, once that is confirmed. -/
  | remove (operation : Operation) (noun key : String)
  | showConfig
  | setServerUrl
  | setProject
  | resetConfig
deriving DecidableEq, Repr, Inhabited

/- A command of a group. -/
structure Command where
  name : String
  description : String
  positionals : List Positional := []
  options : List OptionSpec := []
  action : Action
deriving DecidableEq, Repr, Inhabited

/- A group of commands. -/
structure Group where
  name : String
  description : String
  commands : List Command
deriving DecidableEq, Repr, Inhabited

/- The program: its own options, and groups of commands. -/
structure Program where
  name : String
  description : String
  version : String
  options : List OptionSpec
  groups : List Group
  notes : List String
deriving DecidableEq, Repr, Inhabited

/- The command of a group with the given name. -/
def Group.command? (g : Group) (name : String) :
    Option Command :=
  g.commands.find? (·.name == name)

/- The group of a program with the given name. -/
def Program.group? (p : Program) (name : String) :
    Option Group :=
  p.groups.find? (·.name == name)

end CommandLine

end KbConsole
