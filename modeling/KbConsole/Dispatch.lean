import KbConsole.Outcome
import KbConsole.Request.Notice
import KbConsole.Request.OfArguments
import KbConsole.Sql.Compile

/-
  Operations carried out from end to end: the arguments are
  read, the statements compiled and run one after another,
  and their outcomes reported.

  A problem with the input stops everything before the first
  statement is sent, and a failed statement stops the ones
  after it. An object that is already there is no failure of
  the statement that creates it.

  Key definitions include:
    * `CreatedObject.ofText?`
    * `Runner`
    * `Report`
    * `Report.judge`
    * `dispatch`
-/

namespace KbConsole

------------------------------------------------------------
-- Created Objects
------------------------------------------------------------

/- The object that a statement creates. -/
structure CreatedObject where
  label : String
  name : String
deriving DecidableEq, Repr

namespace CreatedObject

/- The keywords of objects, in lower case, with labels. -/
def kinds : List (String × String) :=
  [("database", "Datasource"),
    ("knowledge_base", "Knowledge base"),
    ("agent", "Agent"),
    ("model", "Model"),
    ("job", "Job")]

/- A character of a name, backquotes included. -/
def isNameChar (c : Char) : Bool :=
  c.isAlphanum || c == '_' || c == '.' || c == '\x60'

/- What follows a phrase, case of letters aside. -/
def afterPhrase? (phrase : String) (cs : List Char) :
    Option (List Char) :=
  if (cs.take phrase.length).map Char.toLower ==
      phrase.toList then
    some (cs.drop phrase.length)
  else
    none

/- The object of one kind that a statement creates. -/
def ofKind?
    (cs : List Char)
    (kind : String × String) : Option CreatedObject :=
  match afterPhrase? ("create " ++ kind.1 ++ " ") cs with
  | none => none
  | some rest =>
      let name := rest.takeWhile isNameChar
      if name.isEmpty then
        none
      else
        some {
          label := kind.2
          name := String.ofList (name.filter (· != '\x60')) }

/-
  The object that a statement creates, if it begins by
  creating one of the known kinds.
-/
def ofText? (sql : String) : Option CreatedObject :=
  kinds.findSome? (ofKind? sql.toList)

/- What is shown when an object was created on the way. -/
def readyText (o : CreatedObject) : String :=
  o.label ++ " '" ++ o.name ++ "' is ready."

/- What is shown when an object was there already. -/
def existsText (o : CreatedObject) : String :=
  o.label ++ " '" ++ o.name ++ "' already exists."

end CreatedObject

------------------------------------------------------------
-- Running Statements
------------------------------------------------------------

/-
  What runs statements: each is announced and then executed.
  Both may change a state.
-/
structure Runner (σ : Type) where
  announce : String → σ → σ
  execute : String → σ → Except Rejection ResultSet × σ

/- The outcome of one statement, and its text. -/
structure Step where
  outcome : Outcome
  text : String
deriving DecidableEq, Repr, Inhabited

namespace Step

/- The step of a statement that was rejected. -/
def ofRejection
    (created : Option CreatedObject)
    (rejection : Rejection) : Step :=
  let outcome := Outcome.ofRejection rejection
  match created with
  | none => { outcome, text := outcome.plainText }
  | some object =>
      if rejection.alreadyExists then
        { outcome := .empty, text := object.existsText }
      else
        { outcome, text := outcome.plainText }

/-
  What is shown for a statement without rows. The last one
  of a request confirms the request.
-/
def emptyText
    (acknowledgement : String)
    (isLast : Bool)
    (created : Option CreatedObject) : String :=
  match created with
  | none => acknowledgement
  | some object =>
      if isLast then acknowledgement else object.readyText

/- The step of a statement, by what its execution gave. -/
def judge
    (acknowledgement : String)
    (isLast : Bool)
    (sql : String)
    (result : Except Rejection ResultSet) : Step :=
  let created := CreatedObject.ofText? sql
  match result with
  | .error rejection => ofRejection created rejection
  | .ok result =>
      let outcome := Outcome.ofResult result
      let nothing := emptyText acknowledgement isLast created
      match outcome.render nothing with
      | .error rejection => ofRejection created rejection
      | .ok text => { outcome, text }

end Step

namespace Runner

variable {σ : Type}

/- Run statements up to the first failure. -/
def runAll
    (runner : Runner σ)
    (acknowledgement : String) :
    List String → σ → List Step × σ
  | [], state => ([], state)
  | sql :: rest, state =>
      let (result, state) :=
        runner.execute sql (runner.announce sql state)
      let step :=
        Step.judge acknowledgement rest.isEmpty sql result
      if step.outcome.isFailure then
        ([step], state)
      else
        let (steps, state) :=
          runner.runAll acknowledgement rest state
        (step :: steps, state)

end Runner

------------------------------------------------------------
-- Reports
------------------------------------------------------------

/- What is reported about an operation. -/
structure Report where
  statements : List String := []
  outcomes : List Outcome := []
  outcome : Outcome
  text : String
  warnings : List String := []
  executed : Bool := false
deriving DecidableEq, Repr, Inhabited

namespace Report

/- The report of an operation that was not begun. -/
def ofFailure (outcome : Outcome) : Report :=
  { outcome, text := outcome.plainText }

/- The report of an operation that was only compiled. -/
def ofDryRun
    (statements warnings : List String) : Report :=
  { statements
    outcome := .empty
    text := "\n".intercalate statements
    warnings }

/- The report of an operation whose statements were run. -/
def ofSteps
    (statements warnings : List String)
    (steps : List Step) : Report :=
  let outcomes := steps.map Step.outcome
  { statements
    outcomes
    outcome := outcomes.getLast?.getD .empty
    text := "\n\n".intercalate (steps.map Step.text)
    warnings
    executed := true }

end Report

/- The request of an operation, and its statements. -/
def prepare
    (op : Operation)
    (args : Arguments)
    (settings : Settings)
    (d : Sql.Dialect) :
    Except Problem (Request × List String) := do
  let request ← Request.ofArguments op args settings
  let statements ← request.compile d
  return (request, statements)

/-
  Carry out the operation of the given name. In a dry run
  its statements are only compiled.
-/
def dispatch
    {σ : Type}
    (runner : Runner σ)
    (settings : Settings)
    (d : Sql.Dialect)
    (dryRun : Bool)
    (name : String)
    (args : Arguments)
    (state : σ) : Report × σ :=
  match Operation.ofName? name with
  | none =>
      (.ofFailure (.failure .unknownOperation
        ("Unknown operation '" ++ name ++ "'")), state)
  | some op =>
      match prepare op args settings d with
      | .error problem =>
          (.ofFailure (.ofProblem problem), state)
      | .ok (request, statements) =>
          if dryRun then
            (.ofDryRun statements request.warnings, state)
          else
            let (steps, state) :=
              runner.runAll request.acknowledgement statements
                state
            (.ofSteps statements request.warnings steps, state)

end KbConsole
