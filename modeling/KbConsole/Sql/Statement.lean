import KbConsole.Request.Basic
import KbConsole.Sql.Literal
import KbConsole.Sql.Name

/-
  Statements that the console sends, and their text.

  Key definitions include:
    * `Sql.Condition`
    * `Sql.Output`
    * `Sql.Insertion`
    * `Sql.Statement`
    * `Sql.Statement.body`, `Sql.Statement.text`
-/

namespace KbConsole

namespace Sql

------------------------------------------------------------
-- Conditions
------------------------------------------------------------

/- How a condition compares a column with a literal. -/
inductive Comparison where
  | equal
  | greater
  | atLeast
  | less
  | atMost
deriving DecidableEq, Repr

/- The symbol of a comparison. -/
def Comparison.symbol : Comparison → String
  | equal => "="
  | greater => ">"
  | atLeast => ">="
  | less => "<"
  | atMost => "<="

/- A column compared with a literal. -/
structure Condition where
  column : Column
  comparison : Comparison
  value : Literal
deriving DecidableEq, Repr

/- A condition as it stands in a statement. -/
def Condition.text (d : Dialect) (c : Condition) : String :=
  c.column.text ++ " " ++ c.comparison.symbol ++ " " ++
    c.value.print d

------------------------------------------------------------
-- Projections
------------------------------------------------------------

/-
  What an output of a projection is computed from: one
  column, several columns joined by spaces, or an object of
  keys and columns.
-/
inductive Source where
  | column (column : Column)
  | joined (columns : List Column)
  | object (members : List (Identifier × Column))
deriving DecidableEq, Repr

namespace Source

/- A column with an empty text in place of a missing value. -/
def orEmpty (d : Dialect) (c : Column) : String :=
  "COALESCE(" ++ c.text ++ ", " ++ quoted d "" ++ ")"

/- A key of an object and the column of its value. -/
def memberText
    (d : Dialect)
    (entry : Identifier × Column) : String :=
  quoted d entry.1.text ++ ", " ++ entry.2.text

/- A source as it stands in a statement. -/
def text (d : Dialect) : Source → String
  | column c => c.text
  | joined cs =>
      (" || " ++ quoted d " " ++ " || ").intercalate
        (cs.map (orEmpty d))
  | object members =>
      "JSON_OBJECT(" ++
        ", ".intercalate (members.map (memberText d)) ++ ")"

end Source

/-
  An output of a projection. Without a label it keeps the
  name of its column.
-/
structure Output where
  source : Source
  label : Option Column := none
deriving DecidableEq, Repr

/- An output as it stands in a statement. -/
def Output.text (d : Dialect) (o : Output) : String :=
  match o.label with
  | none => o.source.text d
  | some label => o.source.text d ++ " AS " ++ label.text

------------------------------------------------------------
-- Insertions
------------------------------------------------------------

/-
  Rows of a table inserted into a knowledge base. The
  insertion may name its target columns, and may be limited
  to rows that a job has not yet seen.
-/
structure Insertion where
  knowledgeBase : Identifier
  targets : List String := []
  outputs : List Output
  source : TableName
  newestBy : Option Column := none
  order : Option (Column × Option Direction) := none
  limit : Number
deriving DecidableEq, Repr

namespace Insertion

/- The target columns, if any, after the knowledge base. -/
def targetsText (i : Insertion) : String :=
  if i.targets.isEmpty then
    ""
  else
    " (" ++ ", ".intercalate i.targets ++ ")"

/- The condition that only lets new rows pass. -/
def newestText (i : Insertion) : String :=
  match i.newestBy with
  | none => ""
  | some column => " WHERE " ++ column.text ++ " > LAST"

/- The sort order. -/
def orderText (i : Insertion) : String :=
  match i.order with
  | none => ""
  | some (column, none) => " ORDER BY " ++ column.text
  | some (column, some direction) =>
      " ORDER BY " ++ column.text ++ " " ++ direction.keyword

/- An insertion without its terminator. -/
def text (d : Dialect) (i : Insertion) : String :=
  "INSERT INTO " ++ i.knowledgeBase.text ++ i.targetsText ++
    " SELECT " ++
    ", ".intercalate (i.outputs.map (Output.text d)) ++
    " FROM " ++ i.source.text ++ i.newestText ++
    i.orderText ++ " LIMIT " ++ i.limit.text

end Insertion

------------------------------------------------------------
-- Options
------------------------------------------------------------

/- The value of an option: a literal or a table. -/
inductive OptionValue where
  | literal (value : Literal)
  | table (name : TableName)
deriving DecidableEq, Repr

/- An option of a statement. -/
structure Assignment where
  name : String
  value : OptionValue
deriving DecidableEq, Repr

namespace Assignment

/- An option with a literal value. -/
def literal (name : String) (value : Literal) : Assignment :=
  { name, value := .literal value }

/- An option as it stands in a statement. -/
def text (d : Dialect) (s : Assignment) : String :=
  s.name ++ " = " ++
    match s.value with
    | .literal value => value.print d
    | .table name => name.text

/- The options of a statement. -/
def listText (d : Dialect) (options : List Assignment) : String :=
  " USING " ++ ", ".intercalate (options.map (text d))

end Assignment

------------------------------------------------------------
-- Jobs
------------------------------------------------------------

/- What a job runs: the user's statements or an insertion. -/
inductive JobBody where
  | statements (texts : List String)
  | insertion (insertion : Insertion)
deriving DecidableEq, Repr

/- The body of a job without its parentheses. -/
def JobBody.text (d : Dialect) : JobBody → String
  | statements texts => "; ".intercalate texts
  | insertion i => i.text d

/- A job and when it runs. -/
structure JobDefinition where
  name : ObjectName
  body : JobBody
  schedule : Option Schedule := none
  start : Option String := none
  finish : Option String := none
  condition : Option String := none
deriving DecidableEq, Repr

/- The clause of a schedule; no count means one unit. -/
def scheduleText (s : Schedule) : String :=
  let count := s.count.getD (.integer 1)
  "SCHEDULE EVERY " ++ count.text ++ " " ++ s.unit.name ++
    (if count = .integer 1 then "" else "s")

namespace JobDefinition

/- The schedule clause after a job's body. -/
def scheduleClause (j : JobDefinition) : String :=
  match j.schedule with
  | none => ""
  | some schedule => " " ++ scheduleText schedule

/- A clause that gives a point in time. -/
def timeClause
    (d : Dialect)
    (keyword : String)
    (time : Option String) : String :=
  match time with
  | none => ""
  | some time => " " ++ keyword ++ " " ++ quoted d time

/- The clause that makes a job conditional. -/
def conditionClause (j : JobDefinition) : String :=
  match j.condition with
  | none => ""
  | some condition => " IF (" ++ condition ++ ")"

/- The definition of a job without its terminator. -/
def text (d : Dialect) (j : JobDefinition) : String :=
  "CREATE JOB " ++ j.name.text ++ " (" ++ j.body.text d ++
    ")" ++ j.scheduleClause ++ timeClause d "START" j.start ++
    timeClause d "END" j.finish ++ j.conditionClause

end JobDefinition

/- The tables in which the server keeps its jobs. -/
inductive JobTable where
  | jobs
  | history
deriving DecidableEq, Repr

/- A table of jobs, of one project or of the current one. -/
def JobTable.text
    (table : JobTable)
    (project : Option Identifier) : String :=
  let name :=
    match table with
    | jobs => "jobs"
    | history => "jobs_history"
  match project with
  | none => name
  | some project => project.text ++ "." ++ name

------------------------------------------------------------
-- Statements
------------------------------------------------------------

/- A statement that the console sends. -/
inductive Statement where
  | createKnowledgeBase
      (name : Identifier)
      (options : List Assignment)
  | createDatasource (name : Identifier) (engine : String)
  | insert (insertion : Insertion)
  | search
      (knowledgeBase : Identifier)
      (text : String)
      (conditions : List Condition)
      (limit : Number)
  | createIndex (knowledgeBase : Identifier)
  | showDatabases
  | createAgent
      (name : Identifier)
      (options : List Assignment)
  | askAgent (name : Identifier) (question : String)
  | evaluate
      (knowledgeBase : Identifier)
      (options : List Assignment)
  | createModel
      (name : ObjectName)
      (query : String)
      (predict : Identifier)
      (options : List Assignment)
  | showModels (project : Option Identifier)
  | describeModel (name : ObjectName)
  | dropModel (name : ObjectName)
  | retrain (name : ObjectName)
  | verbatim (sql : String)
  | createJob (job : JobDefinition)
  | showJobs
  | selectJobs (project : Identifier)
  | selectJob
      (table : JobTable)
      (project : Option Identifier)
      (job : Identifier)
  | selectRuns
      (project : Option Identifier)
      (job : Identifier)
      (limit : Number)
  | dropJob (name : ObjectName)
deriving DecidableEq, Repr

namespace Statement

/- The conditions of a search, beginning with its text. -/
def searchConditions
    (d : Dialect)
    (text : String)
    (conditions : List Condition) : String :=
  " AND ".intercalate
    (("content LIKE " ++ quoted d text) ::
      conditions.map (Condition.text d))

/- The condition that picks a job by its name. -/
def jobCondition (d : Dialect) (job : Identifier) : String :=
  " WHERE name = " ++ quoted d job.text

/- A statement without its terminator. -/
def body (d : Dialect) : Statement → String
  | createKnowledgeBase name options =>
      "CREATE KNOWLEDGE_BASE " ++ name.text ++
        Assignment.listText d options
  | createDatasource name engine =>
      "CREATE DATABASE " ++ name.text ++
        " WITH ENGINE = " ++ quoted d engine
  | insert insertion => insertion.text d
  | search knowledgeBase text conditions limit =>
      "SELECT * FROM " ++ knowledgeBase.text ++ " WHERE " ++
        searchConditions d text conditions ++
        " LIMIT " ++ limit.text
  | createIndex knowledgeBase =>
      "CREATE INDEX ON KNOWLEDGE_BASE " ++ knowledgeBase.text
  | showDatabases => "SHOW DATABASES"
  | createAgent name options =>
      "CREATE AGENT " ++ name.text ++
        Assignment.listText d options
  | askAgent name question =>
      "SELECT answer FROM " ++ name.text ++
        " WHERE question = " ++ quoted d question
  | evaluate knowledgeBase options =>
      "EVALUATE KNOWLEDGE_BASE " ++ knowledgeBase.text ++
        Assignment.listText d options
  | createModel name query predict options =>
      "CREATE MODEL " ++ name.text ++ " FROM (" ++ query ++
        ") PREDICT " ++ predict.text ++
        Assignment.listText d options
  | showModels none => "SHOW MODELS"
  | showModels (some project) =>
      "SHOW MODELS FROM " ++ project.text
  | describeModel name => "DESCRIBE MODEL " ++ name.text
  | dropModel name => "DROP MODEL " ++ name.text
  | retrain name => "RETRAIN " ++ name.text
  | verbatim sql => sql
  | createJob job => job.text d
  | showJobs => "SHOW JOBS"
  | selectJobs project =>
      "SELECT * FROM " ++ JobTable.jobs.text (some project)
  | selectJob table project job =>
      "SELECT * FROM " ++ table.text project ++
        jobCondition d job
  | selectRuns project job limit =>
      "SELECT run_start, run_end, error, query FROM " ++
        JobTable.history.text project ++ jobCondition d job ++
        " ORDER BY run_start DESC LIMIT " ++ limit.text
  | dropJob name => "DROP JOB " ++ name.text

/- A statement as it is sent. -/
def text (d : Dialect) (s : Statement) : String :=
  s.body d ++ ";"

end Statement

end Sql

end KbConsole
