import KbConsole.CommandLine.Catalog
import KbConsole.Run.Menu

/-
  Runs from the command line to their end.

  Without arguments, or when the first one asks for it, the
  main menu is shown; otherwise the command line is read and
  obeyed.

  Key definitions include:
    * `Run.obey`
    * `Run.start`
    * `Run.finish`
-/

namespace KbConsole

namespace Run

open CommandLine

/- Run a command. -/
def invoke (i : Invocation) : Run Unit :=
  match i.action with
  | .perform operation => execute operation i.arguments i.switches
  | .remove operation noun key =>
      remove operation noun key i.arguments i.switches
  | .showConfig => showConfig
  | .setServerUrl =>
      setServerUrl (some (givenText i.arguments "url"))
  | .setProject => setProject (givenText i.arguments "project")
  | .resetConfig => resetConfig "Reset configuration to defaults?"

/- Do what a command line asks for. -/
def obey : Reading → Run Unit
  | .version text => do
      say (Line.plain text)
      leave 0
  | .help page => do
      sayAll (page.lines.map Line.plain)
      leave 0
  | .usage page => do
      complain page.lines
      leave 1
  | .fault fault => do
      complain [fault.message]
      leave 1
  | .run invocation => invoke invocation

/- Whether an argument asks for the main menu. -/
def asksForMenu (arg : String) : Bool :=
  arg == "-i" || arg == "--interactive"

/- Run the program with the given arguments. -/
def start : List String → Run Unit
  | [] => mainMenu
  | first :: rest =>
      if asksForMenu first then
        mainMenu
      else
        obey (console.read (first :: rest))

/- The last state of a run, by how it ended. -/
def close : Except Halt Unit × RunState → RunState
  | (.ok _, s) => s
  | (.error (.exit status), s) => { s with status }
  | (.error (.unanswered why), s) =>
      { s with
        complaints := s.complaints ++ ["Error: " ++ why.message]
        status := 1 }

/- The last state of a run with the given arguments. -/
def finish (argv : List String) (s : RunState) : RunState :=
  close ((start argv).run s)

end Run

end KbConsole
