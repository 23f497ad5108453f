import KbConsole.Filter
import KbConsole.Operation
import KbConsole.Settings

/-
  Requests: what an operation is asked to do, with every
  option read and every default filled in.

  A request may still name things that no statement can
  name; that is settled when it is compiled.

  Key definitions include:
    * `Model`, `TableRef`, `ObjectRef`
    * `OrderBy`, `Schedule`
    * `Request`
    * `Request.operation`
-/

namespace KbConsole

------------------------------------------------------------
-- Parts
------------------------------------------------------------

/- A model of a provider, for embedding, ranking or judging. -/
structure Model where
  provider : String
  name : String
  baseUrl : Option String := none
  apiKey : Option String := none
deriving DecidableEq, Repr, Inhabited

/- A table of a datasource. -/
structure TableRef where
  datasource : String
  table : String
deriving DecidableEq, Repr, Inhabited

/- A model or job, in a project or in the current one. -/
structure ObjectRef where
  project : Option String := none
  name : String
deriving DecidableEq, Repr, Inhabited

/-
  The columns of an ingestion: those that make up the
  content, and the source column of each metadata key.
-/
structure ColumnChoice where
  content : List String
  metadata : List (String × String)
deriving DecidableEq, Repr, Inhabited

/- The direction of a sort order. -/
inductive Direction where
  | ascending
  | descending
deriving DecidableEq, Repr, Inhabited

/- The keyword of a direction. -/
def Direction.keyword : Direction → String
  | ascending => "ASC"
  | descending => "DESC"

/- A sort order; without a direction the server decides. -/
structure OrderBy where
  column : String
  direction : Option Direction := none
deriving DecidableEq, Repr, Inhabited

/- The units in which schedules count. -/
inductive TimeUnit where
  | minute
  | hour
  | day
  | week
  | month
deriving DecidableEq, Repr, Inhabited

namespace TimeUnit

/- Every unit. -/
def all : List TimeUnit :=
  [minute, hour, day, week, month]

/- The word for one unit. -/
def name : TimeUnit → String
  | minute => "minute"
  | hour => "hour"
  | day => "day"
  | week => "week"
  | month => "month"

end TimeUnit

/- How often a job runs; without a count, every unit. -/
structure Schedule where
  count : Option Number := none
  unit : TimeUnit
deriving DecidableEq, Repr, Inhabited

/- How an evaluation measures. -/
inductive EvaluationVersion where
  | documentId
  | llmRelevancy
deriving DecidableEq, Repr, Inhabited

/- The name of an evaluation version. -/
def EvaluationVersion.name : EvaluationVersion → String
  | documentId => "doc_id"
  | llmRelevancy => "llm_relevancy"

/- The test data that an evaluation generates first. -/
structure Generation where
  fromSql : Option String := none
  count : Number
deriving DecidableEq, Repr, Inhabited

------------------------------------------------------------
-- Larger Requests
------------------------------------------------------------

/- A knowledge base to be created. -/
structure NewKnowledgeBase where
  name : String
  embedding : Model
  reranking : Option Model := none
  contentColumns : Option (List String) := none
  metadataColumns : Option (List String) := none
  idColumn : Option String := none
deriving DecidableEq, Repr, Inhabited

/-
  Rows to be inserted into a knowledge base. The datasource
  may have to be created first.
-/
structure Ingestion where
  knowledgeBase : String
  source : TableRef
  columns : ColumnChoice
  idColumn : String
  limit : Number
  orderBy : Option OrderBy := none
  ensureDatasource : Bool
deriving DecidableEq, Repr, Inhabited

/- A search in a knowledge base. -/
structure Search where
  knowledgeBase : String
  text : String
  filter : Filter
  limit : Number
deriving DecidableEq, Repr, Inhabited

/-
  An agent to be created. Parameters that a named option
  has already set are ignored, and remembered for a warning.
-/
structure NewAgent where
  name : String
  model : String
  googleApiKey : Option String := none
  knowledgeBases : List String
  tables : List TableRef := []
  promptTemplate : Option String := none
  params : List (String × Json) := []
  ignoredParams : List String := []
deriving Repr, Inhabited

/- An evaluation of a knowledge base. -/
structure Evaluation where
  knowledgeBase : String
  testTable : TableRef
  version : EvaluationVersion
  generation : Option Generation := none
  evaluates : Bool
  judge : Option Model := none
  saveTo : Option TableRef := none
deriving DecidableEq, Repr, Inhabited

/- A model to be trained; a parameter may occur twice. -/
structure NewModel where
  ref : ObjectRef
  engine : String
  query : String
  predictColumn : String
  promptTemplate : Option String := none
  params : List (String × String) := []
deriving DecidableEq, Repr, Inhabited

/- A job to be created. -/
structure NewJob where
  ref : ObjectRef
  statements : List String
  schedule : Option Schedule := none
  start : Option String := none
  finish : Option String := none
  condition : Option String := none
deriving DecidableEq, Repr, Inhabited

/- A job that keeps ingesting new rows. -/
structure NewIngestJob where
  ref : ObjectRef
  ingestion : Ingestion
  schedule : Schedule
deriving DecidableEq, Repr, Inhabited

------------------------------------------------------------
-- Requests
------------------------------------------------------------

/- What the console is asked to do. -/
inductive Request where
  | createKnowledgeBase (spec : NewKnowledgeBase)
  | ingest (spec : Ingestion)
  | query (spec : Search)
  | index (knowledgeBase : String)
  | listDatabases
  | createAgent (spec : NewAgent)
  | queryAgent (agent question : String)
  | evaluate (spec : Evaluation)
  | createModel (spec : NewModel)
  | listModels (project : Option String)
  | describeModel (ref : ObjectRef)
  | dropModel (ref : ObjectRef)
  | refreshModel (ref : ObjectRef)
  | runQuery (sql : String)
  | createJob (spec : NewJob)
  | createIngestJob (spec : NewIngestJob)
  | listJobs (project : Option String)
  | jobStatus (ref : ObjectRef)
  | jobHistory (ref : ObjectRef)
  | jobLogs (ref : ObjectRef) (limit : Number)
  | dropJob (ref : ObjectRef)
  | setUpHackernews (datasource : String)
deriving Repr, Inhabited

/- The operation that a request belongs to. -/
def Request.operation : Request → Operation
  | createKnowledgeBase _ => .createKnowledgeBase
  | ingest _ => .ingest
  | query _ => .query
  | index _ => .index
  | listDatabases => .listDatabases
  | createAgent _ => .createAgent
  | queryAgent _ _ => .queryAgent
  | evaluate _ => .evaluate
  | createModel _ => .createModel
  | listModels _ => .listModels
  | describeModel _ => .describeModel
  | dropModel _ => .dropModel
  | refreshModel _ => .refreshModel
  | runQuery _ => .runQuery
  | createJob _ => .createJob
  | createIngestJob _ => .createIngestJob
  | listJobs _ => .listJobs
  | jobStatus _ => .jobStatus
  | jobHistory _ => .jobHistory
  | jobLogs _ _ => .jobLogs
  | dropJob _ => .dropJob
  | setUpHackernews _ => .setUpHackernews

end KbConsole
