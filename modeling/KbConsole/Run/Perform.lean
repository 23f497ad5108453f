import KbConsole.CommandLine.Invocation
import KbConsole.Run.State
import KbConsole.Terminal.ReportLines

/-
  Operations carried out within a run: statements are sent
  to the configured server, and the report is printed.

  What removes something asks first, unless it is told not
  to or sends nothing.

  Key definitions include:
    * `Run.runner`
    * `Run.perform`
    * `Run.execute`
    * `Run.remove`
-/

namespace KbConsole

namespace Run

open CommandLine

/-
  The runner of a run: statements are printed if they are to
  be echoed, and executed in a session with the server.
-/
def runner (settings : Settings) (echo : Bool) :
    Runner (Session × RunState) :=
  { announce := fun sql s =>
      if echo then
        (s.1, s.2.say [Line.statement sql])
      else
        s
    execute := fun sql s =>
      Session.execute RunState.server settings sql s }

/- Carry out an operation, and print its report. -/
def perform
    (operation : Operation)
    (args : Arguments)
    (switches : Switches) : Run Report := do
  let settings := (← get).config.settings
  let echo := !(switches.quiet || switches.json)
  let (report, (_, state)) :=
    dispatch (runner settings echo) settings {} switches.dryRun
      operation.name args (none, ← get)
  set state
  sayAll (report.lines switches.json)
  return report

/- Carry out an operation; its failure is that of the run. -/
def execute
    (operation : Operation)
    (args : Arguments)
    (switches : Switches) : Run Unit := do
  let report ← perform operation args switches
  if report.outcome.isFailure then
    modify fun s => { s with status := 1 }

/- Whether the user agrees to a removal. -/
def confirmed
    (noun name : String)
    (args : Arguments)
    (switches : Switches) : Run Bool :=
  if args.isSet "yes" || switches.dryRun then
    return true
  else
    askDecision ("Drop " ++ noun ++ " '" ++ name ++ "'?") false

/- The text of an argument as it was given. -/
def givenText (args : Arguments) (key : String) : String :=
  match Keyed.get? key args with
  | some (.text value) => value
  | _ => ""

/- Remove something, once that is confirmed. -/
def remove
    (operation : Operation)
    (noun key : String)
    (args : Arguments)
    (switches : Switches) : Run Unit := do
  if ← confirmed noun (givenText args key) args switches then
    execute operation args switches
  else
    say (Line.info "Cancelled.")

end Run

end KbConsole
