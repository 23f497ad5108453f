import KbConsole.Sql.Fragment
import KbConsole.Sql.Statement

/-
  The statements that carry out a request.

  Names, columns and numbers are checked in a fixed order,
  and the first problem met is the one reported.

  Key definitions include:
    * `Sql.filterConditions`
    * `Sql.ingestionOutputs`
    * `Request.statements`
    * `Request.compile`
-/

namespace KbConsole

namespace Sql

------------------------------------------------------------
-- Parts
------------------------------------------------------------

/- The columns that a list of texts names. -/
def columnsOf
    (d : Dialect)
    (field : String)
    (names : List String) : Except Problem (List Column) :=
  names.mapM (Column.ofText d field)

/- The names in a list of texts, all of them safe. -/
def namesOf
    (field : String)
    (names : List String) : Except Problem (List String) :=
  names.mapM fun name =>
    (Identifier.ofText field name).map Identifier.text

/- An option that is there and not empty, as a text entry. -/
def textEntry
    (key : String)
    (value : Option String) : List (String × Scalar) :=
  match given? value with
  | none => []
  | some value => [(key, .text value)]

/- A model as nested options. -/
def modelEntries (m : Model) : List (String × Scalar) :=
  [("provider", .text m.provider),
    ("model_name", .text m.name)] ++
    textEntry "base_url" m.baseUrl ++
    textEntry "api_key" m.apiKey

/- An option that describes a model. -/
def modelOption (name : String) (m : Model) : Assignment :=
  .literal name (.members (modelEntries m))

/- An option with a text that is there and not empty. -/
def textOption
    (name : String)
    (value : Option String) : List Assignment :=
  match given? value with
  | none => []
  | some value => [.literal name (.text value)]

/- The creation of a HackerNews datasource. -/
def datasourceStatement
    (name : String) : Except Problem Statement := do
  let name ← Identifier.ofText "datasource name" name
  return .createDatasource name "hackernews"

------------------------------------------------------------
-- Knowledge Bases
------------------------------------------------------------

/- An option that lists columns, unless there are none. -/
def columnsOption
    (name field : String)
    (columns : Option (List String)) :
    Except Problem (List Assignment) :=
  match columns with
  | none => .ok []
  | some [] => .ok []
  | some columns => do
      let columns ← namesOf field columns
      return [.literal name (.texts columns)]

/- The option that names the identifying column. -/
def idOption
    (column : Option String) :
    Except Problem (List Assignment) :=
  match given? column with
  | none => .ok []
  | some column => do
      let column ← Identifier.ofText "id column" column
      return [.literal "id_column" (.text column.text)]

/- The creation of a knowledge base. -/
def knowledgeBaseStatement
    (spec : NewKnowledgeBase) : Except Problem Statement := do
  let content ←
    columnsOption "content_columns" "content column"
      spec.contentColumns
  let metadata ←
    columnsOption "metadata_columns" "metadata column"
      spec.metadataColumns
  let id ← idOption spec.idColumn
  let name ←
    Identifier.ofText "knowledge base name" spec.name
  let reranking :=
    spec.reranking.toList.map (modelOption "reranking_model")
  return .createKnowledgeBase name
    (modelOption "embedding_model" spec.embedding ::
      reranking ++ content ++ metadata ++ id)

------------------------------------------------------------
-- Ingestion
------------------------------------------------------------

/-
  The content of ingested rows: one column as it is, or
  several joined so that a missing one leaves the rest.
-/
def contentSource
    (d : Dialect)
    (columns : List String) : Except Problem Source :=
  if columns.isEmpty then
    .error (.missing "--content-columns")
  else do
    let columns ← columnsOf d "content column" columns
    match columns with
    | [column] => return .column column
    | columns => return .joined columns

/- A column under a label, left out when it is its name. -/
def labelled
    (d : Dialect)
    (source label : String) : Except Problem Output := do
  let column ← Column.ofText d "source column" source
  if source = label then
    return { source := .column column }
  else
    let label ← Column.ofText d "alias" label
    return { source := .column column, label := some label }

/- The members of the one JSON column of metadata. -/
def metadataMembers
    (d : Dialect)
    (metadata : List (String × String)) :
    Except Problem (List (Identifier × Column)) :=
  metadata.mapM fun entry => do
    let key ← Identifier.ofText "metadata key" entry.1
    let column ←
      Column.ofText d "metadata source column" entry.2
    return (key, column)

/-
  The columns of metadata. The content has its name already;
  so has the identifier, which may be repeated from the same
  column and is then left out.
-/
def metadataOutputs
    (d : Dialect)
    (idColumn : String) :
    List (String × String) → Except Problem (List Output)
  | [] => .ok []
  | (key, source) :: rest => do
      let _ ← Identifier.ofText "metadata key" key
      let _ ←
        Identifier.ofText "metadata source column" source
      if key = "content" ∨
          (key = "id" ∧ source ≠ idColumn) then
        .error (.metadataCollision key)
      else if key = "id" then
        metadataOutputs d idColumn rest
      else
        let first ← labelled d source key
        let others ← metadataOutputs d idColumn rest
        return first :: others

/- A label that is never put into backquotes. -/
def contentLabel : Column :=
  { name := ⟨"content", by decide⟩ }

/- The label of the one JSON column of metadata. -/
def metadataLabel : Column :=
  { name := ⟨"metadata", by decide⟩ }

/-
  What is selected for an ingestion, and the target columns
  if they are named.
-/
def ingestionOutputs
    (d : Dialect)
    (spec : Ingestion) :
    Except Problem (List String × List Output) := do
  let content ← contentSource d spec.columns.content
  let content : Output :=
    { source := content, label := some contentLabel }
  let _ ← Identifier.ofText "id column" spec.idColumn
  let id ← labelled d spec.idColumn "id"
  match d.metadataStrategy with
  | .json =>
      let members ← metadataMembers d spec.columns.metadata
      let metadata : Output :=
        { source := .object members
          label := some metadataLabel }
      return (["content", "metadata", "id"],
        [content, metadata, id])
  | .columns =>
      let metadata ←
        metadataOutputs d spec.idColumn spec.columns.metadata
      return ([], content :: id :: metadata)

/- The column and direction of a sort order. -/
def orderOf
    (d : Dialect)
    (order : Option OrderBy) :
    Except Problem (Option (Column × Option Direction)) :=
  match order with
  | none => .ok none
  | some order => do
      let column ←
        Column.ofText d "order by column" order.column
      return some (column, order.direction)

/- The column by which a job knows the rows it has seen. -/
def newestColumn
    (d : Dialect)
    (incremental : Bool)
    (column : String) : Except Problem (Option Column) :=
  if incremental then
    (Column.ofText d "id column" column).map some
  else
    .ok none

/- A number that is written as it is, and has to be finite. -/
def finite (n : Number) : Except Problem Number :=
  if n.isFinite then .ok n else .error (.notFinite n)

/- The insertion that an ingestion runs, once or in a job. -/
def insertionOf
    (d : Dialect)
    (incremental : Bool)
    (spec : Ingestion) : Except Problem Insertion := do
  let (targets, outputs) ← ingestionOutputs d spec
  let knowledgeBase ←
    Identifier.ofText "knowledge base name" spec.knowledgeBase
  let source ← TableName.ofRef spec.source
  let newestBy ← newestColumn d incremental spec.idColumn
  let order ← orderOf d spec.orderBy
  let limit ← finite spec.limit
  return {
    knowledgeBase, targets, outputs, source, newestBy, order,
    limit }

/- The statements of an ingestion. -/
def ingestionStatements
    (d : Dialect)
    (spec : Ingestion) : Except Problem (List Statement) :=
  if spec.ensureDatasource then do
    let datasource ←
      datasourceStatement spec.source.datasource
    let insertion ← insertionOf d false spec
    return [datasource, .insert insertion]
  else do
    let insertion ← insertionOf d false spec
    return [.insert insertion]

------------------------------------------------------------
-- Search
------------------------------------------------------------

/- The comparison that a filter operator stands for. -/
def Comparison.ofOperator? : String → Option Comparison
  | "$gt" => some greater
  | "$gte" => some atLeast
  | "$lt" => some less
  | "$lte" => some atMost
  | _ => none

/- The comparison and operand of a restriction. -/
def comparisonOf
    (key : String) :
    Restriction → Except Problem (Comparison × Scalar)
  | .equals value => .ok (.equal, value)
  | .compares [(operator, operand)] =>
      match Comparison.ofOperator? operator with
      | none => .error (.unknownOperator key operator)
      | some comparison => .ok (comparison, operand)
  | .compares operators =>
      .error (.operatorCount key operators.length)

/- The condition that one restriction becomes. -/
def conditionOf
    (d : Dialect)
    (entry : String × Restriction) :
    Except Problem Condition := do
  let column ← Column.ofText d "metadata filter key" entry.1
  let (comparison, operand) ← comparisonOf entry.1 entry.2
  let value ← Literal.ofScalar operand
  return { column, comparison, value }

/- The conditions of a filter, one per restriction. -/
def filterConditions
    (d : Dialect)
    (filter : Filter) : Except Problem (List Condition) :=
  filter.mapM (conditionOf d)

/- The statement of a search. -/
def searchStatement
    (d : Dialect)
    (spec : Search) : Except Problem Statement := do
  let conditions ← filterConditions d spec.filter
  let knowledgeBase ←
    Identifier.ofText "knowledge base name" spec.knowledgeBase
  let limit ← finite spec.limit
  return .search knowledgeBase spec.text conditions limit

------------------------------------------------------------
-- Agents
------------------------------------------------------------

/- The option that lists tables, unless there are none. -/
def tablesOption
    (tables : List TableRef) :
    Except Problem (List Assignment) :=
  if tables.isEmpty then
    .ok []
  else do
    let tables ← tables.mapM TableName.ofRef
    return [.literal "include_tables"
      (.texts (tables.map TableName.text))]

/- The option that one parameter of an agent becomes. -/
def agentParam
    (param : String × Json) : Except Problem Assignment := do
  let name ← Identifier.ofText "agent parameter" param.1
  let value ← Literal.ofJson param.2
  return .literal name.text value

/- The creation of an agent. -/
def agentStatement
    (spec : NewAgent) : Except Problem Statement :=
  if spec.knowledgeBases.isEmpty then
    .error (.missing "kb_names")
  else do
    let knowledgeBases ←
      namesOf "knowledge base name" spec.knowledgeBases
    let tables ← tablesOption spec.tables
    let params ← spec.params.mapM agentParam
    let name ← Identifier.ofText "agent name" spec.name
    return .createAgent name
      (.literal "model" (.text spec.model) ::
        textOption "google_api_key" spec.googleApiKey ++
        [.literal "include_knowledge_bases"
          (.texts knowledgeBases)] ++
        tables ++
        textOption "prompt_template" spec.promptTemplate ++
        params)

------------------------------------------------------------
-- Evaluation
------------------------------------------------------------

/- The nested options that describe generated test data. -/
def generationEntries
    (g : Generation) : List (String × Scalar) :=
  (match given? g.fromSql with
    | none => []
    | some sql =>
        [("from_sql", .text (withoutTerminator sql))]) ++
    [("count", .number g.count)]

/- The options of the statement that generates test data. -/
def generationOptions
    (table : TableName)
    (judge : List Assignment)
    (g : Generation) : List Assignment :=
  [{ name := "test_table", value := .table table },
    .literal "generate_data" (.members (generationEntries g)),
    .literal "evaluate" (.bool false)] ++ judge

/- The option that names a table to be written. -/
def saveOption
    (table : Option TableRef) :
    Except Problem (List Assignment) :=
  match table with
  | none => .ok []
  | some table => do
      let table ← TableName.ofRef table
      return [{ name := "save_to", value := .table table }]

/-
  The statements of an evaluation: test data are generated
  by a statement of their own.
-/
def evaluationStatements
    (spec : Evaluation) : Except Problem (List Statement) := do
  let name ←
    Identifier.ofText "knowledge base name" spec.knowledgeBase
  let table ← TableName.ofRef spec.testTable
  let judge := spec.judge.toList.map (modelOption "llm")
  let generation :=
    spec.generation.toList.map fun g =>
      Statement.evaluate name (generationOptions table judge g)
  if spec.evaluates then
    let save ← saveOption spec.saveTo
    let options : List Assignment :=
      [{ name := "test_table", value := .table table },
        .literal "version" (.text spec.version.name)] ++
        judge ++ save
    return generation ++ [.evaluate name options]
  else
    return generation

------------------------------------------------------------
-- Models and Jobs
------------------------------------------------------------

/- A query without its terminator, which must not be empty. -/
def queryOf
    (label sql : String) : Except Problem String :=
  let query := withoutTerminator sql
  if query = "" then .error (.missing label) else .ok query

/- The option that one parameter of a model becomes. -/
def modelParam
    (param : String × String) : Except Problem Assignment := do
  let name ← Identifier.ofText "model parameter" param.1
  return .literal name.text (.text param.2)

/- The creation of a model. -/
def modelStatement
    (spec : NewModel) : Except Problem Statement := do
  let query ← queryOf "--select-data-query" spec.query
  let params ← spec.params.mapM modelParam
  let name ← ObjectName.ofRef "model name" spec.ref
  let predict ←
    Identifier.ofText "predict column" spec.predictColumn
  return .createModel name query predict
    (.literal "engine" (.text spec.engine) ::
      textOption "prompt_template" spec.promptTemplate ++
      params)

/- The creation of a job that runs the user's statements. -/
def jobStatement
    (spec : NewJob) : Except Problem Statement :=
  if spec.statements.isEmpty then
    .error (.missing "statements")
  else do
    let name ← ObjectName.ofRef "job name" spec.ref
    return .createJob {
      name
      body := .statements spec.statements
      schedule := spec.schedule
      start := given? spec.start
      finish := given? spec.finish
      condition :=
        (given? spec.condition).map withoutTerminator }

/- The statements that set up an ingestion job. -/
def ingestionJobStatements
    (d : Dialect)
    (spec : NewIngestJob) :
    Except Problem (List Statement) := do
  let insertion ← insertionOf d true spec.ingestion
  let datasource ←
    datasourceStatement spec.ingestion.source.datasource
  let name ← ObjectName.ofRef "job name" spec.ref
  return [datasource,
    .createJob {
      name
      body := .insertion insertion
      schedule := some spec.schedule }]

/- The statement that lists the jobs of a project. -/
def jobsStatement
    (project : Option String) : Except Problem Statement := do
  match ← project? project with
  | none => return .showJobs
  | some project => return .selectJobs project

/- The project and name of a job to be looked up. -/
def jobOf
    (ref : ObjectRef) :
    Except Problem (Option Identifier × Identifier) := do
  let project ← project? ref.project
  let name ← Identifier.ofText "job name" ref.name
  return (project, name)

end Sql

------------------------------------------------------------
-- Requests
------------------------------------------------------------

open Sql

/- The statements that carry out a request, in order. -/
def Request.statements
    (d : Dialect) :
    Request → Except Problem (List Statement)
  | createKnowledgeBase spec => do
      let statement ← knowledgeBaseStatement spec
      return [statement]
  | ingest spec => ingestionStatements d spec
  | query spec => do
      let statement ← searchStatement d spec
      return [statement]
  | index name => do
      let name ← Identifier.ofText "knowledge base name" name
      return [.createIndex name]
  | listDatabases => return [.showDatabases]
  | createAgent spec => do
      let statement ← agentStatement spec
      return [statement]
  | queryAgent agent question => do
      let agent ← Identifier.ofText "agent name" agent
      return [.askAgent agent question]
  | evaluate spec => evaluationStatements spec
  | createModel spec => do
      let statement ← modelStatement spec
      return [statement]
  | listModels project => do
      let project ← project? project
      return [.showModels project]
  | describeModel ref => do
      let name ← ObjectName.ofRef "model name" ref
      return [.describeModel name]
  | dropModel ref => do
      let name ← ObjectName.ofRef "model name" ref
      return [.dropModel name]
  | refreshModel ref => do
      let name ← ObjectName.ofRef "model name" ref
      return [.retrain name]
  | runQuery sql => do
      let query ← queryOf "query_string" sql
      return [.verbatim query]
  | createJob spec => do
      let statement ← jobStatement spec
      return [statement]
  | createIngestJob spec => ingestionJobStatements d spec
  | listJobs project => do
      let statement ← jobsStatement project
      return [statement]
  | jobStatus ref => do
      let (project, job) ← jobOf ref
      return [.selectJob .jobs project job]
  | jobHistory ref => do
      let (project, job) ← jobOf ref
      return [.selectJob .history project job]
  | jobLogs ref limit => do
      let (project, job) ← jobOf ref
      let limit ← finite limit
      return [.selectRuns project job limit]
  | dropJob ref => do
      let name ← ObjectName.ofRef "job name" ref
      return [.dropJob name]
  | setUpHackernews datasource => do
      let statement ← datasourceStatement datasource
      return [statement]

/- The text of the statements that carry out a request. -/
def Request.compile
    (d : Dialect)
    (request : Request) : Except Problem (List String) := do
  let statements ← request.statements d
  return statements.map (Statement.text d)

end KbConsole
