/-
  The operations of the console.

  Key definitions include:
    * `Operation`
    * `Operation.name`
    * `Operation.ofName?`
-/

namespace KbConsole

/- What the console can be asked to do. -/
inductive Operation where
  | createKnowledgeBase
  | ingest
  | query
  | index
  | listDatabases
  | createAgent
  | queryAgent
  | evaluate
  | createModel
  | listModels
  | describeModel
  | dropModel
  | refreshModel
  | runQuery
  | createJob
  | createIngestJob
  | listJobs
  | jobStatus
  | jobHistory
  | jobLogs
  | dropJob
  | setUpHackernews
deriving DecidableEq, Repr, Inhabited

namespace Operation

/- Every operation. -/
def all : List Operation :=
  [createKnowledgeBase, ingest, query, index, listDatabases,
    createAgent, queryAgent, evaluate, createModel,
    listModels, describeModel, dropModel, refreshModel,
    runQuery, createJob, createIngestJob, listJobs,
    jobStatus, jobHistory, jobLogs, dropJob,
    setUpHackernews]

/- The name of an operation: its group and its command. -/
def name : Operation → String
  | createKnowledgeBase => "kb.create"
  | ingest => "kb.ingest"
  | query => "kb.query"
  | index => "kb.index"
  | listDatabases => "kb.list-databases"
  | createAgent => "kb.create-agent"
  | queryAgent => "kb.query-agent"
  | evaluate => "kb.evaluate"
  | createModel => "ai.create-model"
  | listModels => "ai.list-models"
  | describeModel => "ai.describe-model"
  | dropModel => "ai.drop-model"
  | refreshModel => "ai.refresh-model"
  | runQuery => "ai.query"
  | createJob => "job.create"
  | createIngestJob => "job.create-hn-ingest"
  | listJobs => "job.list"
  | jobStatus => "job.status"
  | jobHistory => "job.history"
  | jobLogs => "job.logs"
  | dropJob => "job.drop"
  | setUpHackernews => "setup.hackernews"

/- The operation with the given name. -/
def ofName? (s : String) : Option Operation :=
  all.find? (fun op => op.name == s)

/- Every operation is found under its name. -/
@[simp] theorem ofName?_name (op : Operation) :
    ofName? op.name = some op := by
  cases op <;> decide

end Operation

end KbConsole
