import KbConsole.Config
import KbConsole.Run.Prompt
import KbConsole.Server.Session
import KbConsole.Terminal.Line

/-
  Runs of the console.

  A run reads answers of the user and replies of the server
  from its state, and records there what it asked, called
  and printed. It ends by itself, by leaving with a status,
  or when no answer is left.

  Key definitions include:
    * `RunState`
    * `Halt`, `Run`
    * `Run.say`, `Run.call`
    * `Run.askText`, `Run.askDecision`, `Run.choose`
-/

namespace KbConsole

------------------------------------------------------------
-- States
------------------------------------------------------------

/- The state of a run. -/
structure RunState where
  config : Config := {}
  /- The answers still to come. -/
  answers : List Answer := []
  /- The replies still to come; then all is well. -/
  replies : List Reply := []
  /- What was asked so far. -/
  exchanges : List Exchange := []
  /- What was called so far. -/
  calls : List Call := []
  /- What was printed so far. -/
  lines : List Line := []
  /- What was printed about errors of the run itself. -/
  complaints : List String := []
  status : Nat := 0
deriving Repr, Inhabited

namespace RunState

/- Print lines. -/
def say (lines : List Line) (s : RunState) : RunState :=
  { s with lines := s.lines ++ lines }

/- Record a question and what became of it. -/
def record (e : Exchange) (s : RunState) : RunState :=
  { s with exchanges := s.exchanges ++ [e] }

/- The server, as far as the replies of a state tell. -/
def server : Server RunState := fun call s =>
  (s.replies.headD Reply.plain,
    { s with
      replies := s.replies.tail
      calls := s.calls ++ [call] })

end RunState

------------------------------------------------------------
-- Runs
------------------------------------------------------------

/- Why a run ended early. -/
inductive Halt where
  /- It left with a status. -/
  | exit (status : Nat)
  /- A question was left without an answer. -/
  | unanswered (why : Unanswered)
deriving DecidableEq, Repr, Inhabited

/- A part of a run, with its result. -/
abbrev Run (α : Type) :=
  ExceptT Halt (StateM RunState) α

namespace Run

------------------------------------------------------------
-- Output and Calls
------------------------------------------------------------

/- Print lines. -/
def sayAll (lines : List Line) : Run Unit :=
  modify (RunState.say lines)

/- Print a line. -/
def say (line : Line) : Run Unit :=
  sayAll [line]

/- Print lines about an error of the run itself. -/
def complain (lines : List String) : Run Unit :=
  modify fun s => { s with complaints := s.complaints ++ lines }

/- Leave with a status. -/
def leave {α : Type} (status : Nat) : Run α :=
  throw (.exit status)

/- Call the server. -/
def call (c : Call) : Run Reply :=
  modifyGet (RunState.server c)

/- The configuration. -/
def config : Run Config := do
  return (← get).config

/- Change the configuration. -/
def reconfigure (f : Config → Config) : Run Unit :=
  modify fun s => { s with config := f s.config }

------------------------------------------------------------
-- Questions
------------------------------------------------------------

/- Record a question without an answer, and stop. -/
def unanswered {α : Type} (e : Exchange) (why : Unanswered) :
    Run α := do
  modify (RunState.record e)
  throw (.unanswered why)

/- Ask for a text that a check accepts. -/
def askText
    (name message : String)
    (fallback : Option String)
    (check : Check) : Run String := do
  let question : Question :=
    { form := .input
      name
      message
      fallback := fallback.map Json.text }
  let settled := question.settle check (← get).answers
  let rejected := settled.rejected
  modify fun s => { s with answers := settled.rest }
  match settled.result with
  | .error why => unanswered { question, rejected } why
  | .ok text =>
      modify (RunState.record
        { question, rejected, answer := some (.text text) })
      return text

/- Ask a question that takes any answer. -/
def askAny (question : Question) : Run Answer := do
  match (← get).answers with
  | [] => unanswered { question } .closed
  | answer :: rest =>
      modify fun s =>
        { s with answers := rest }.record
          { question, answer := some answer }
      return answer

/- Ask for a decision. -/
def askDecision (message : String) (fallback : Bool) :
    Run Bool := do
  let answer ← askAny
    { form := .confirm
      name := "confirm"
      message
      fallback := some (.bool fallback) }
  return answer.isTruthy

/- Ask for a choice from a menu. -/
def choose (message : String) (items : List MenuItem) :
    Run Answer :=
  askAny { form := .list items, name := "action", message }

end Run

end KbConsole
