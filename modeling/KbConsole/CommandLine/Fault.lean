import KbConsole.CommandLine.Spec
import KbConsole.CommandLine.Suggestion

/-
  What can be wrong with a command line.

  Key definitions include:
    * `Fault`
    * `Fault.message`
-/

namespace KbConsole

namespace CommandLine

/- What is wrong with a command line. -/
inductive Fault where
  /- An option that takes a value stands at the end. -/
  | missingValue (option : OptionSpec)
  /- An option is not known; others resemble it. -/
  | unknownOption (text : String) (similar : List String)
  /- A command is not known; others resemble it. -/
  | unknownCommand (text : String) (similar : List String)
  /- A positional argument is missing. -/
  | missingArgument (name : String)
deriving DecidableEq, Repr, Inhabited

namespace Fault

/- The question whether one of some names was meant. -/
def hint : List String → String
  | [] => ""
  | [name] => "\n(Did you mean " ++ name ++ "?)"
  | names =>
      "\n(Did you mean one of " ++ ", ".intercalate names ++ "?)"

/- The message that explains a fault to the user. -/
def message : Fault → String
  | missingValue o =>
      "error: option '" ++ o.usage ++ "' argument missing"
  | unknownOption text similar =>
      "error: unknown option '" ++ text ++ "'" ++ hint similar
  | unknownCommand text similar =>
      "error: unknown command '" ++ text ++ "'" ++ hint similar
  | missingArgument name =>
      "error: missing required argument '" ++ name ++ "'"

end Fault

end CommandLine

end KbConsole
