import KbConsole.Arguments
import KbConsole.Request.OrderBy
import KbConsole.Request.Schedule
import KbConsole.Sql.Fragment
import KbConsole.Url

/-
  Requests read from the arguments of an operation.

  Options are read in a fixed order, and the first problem
  met is the one reported. What is not given is filled in
  from the settings or by a default.

  Key definitions include:
    * `Model.ofOptions`
    * `Ingestion.ofArguments`
    * `NewAgent.takeParam`
    * `Request.ofArguments`
-/

namespace KbConsole

------------------------------------------------------------
-- Defaults
------------------------------------------------------------

/- The number of rows ingested when none is given. -/
def defaultIngestLimit : Nat := 100

/- The number of search results when none is given. -/
def defaultQueryLimit : Nat := 5

/- The number of runs in a job's log when none is given. -/
def defaultLogLimit : Nat := 20

/- The number of generated test rows when none is given. -/
def defaultTestRows : Nat := 100

/- The name of the HackerNews datasource. -/
def defaultDatasource : String := "hackernews"

/- How often an ingestion job runs. -/
def defaultJobSchedule : String := "every 1 day"

/- The provider of models when none is given. -/
def defaultProvider : String := "ollama"

/- The engine of models when none is given. -/
def defaultEngine : String := "openai"

------------------------------------------------------------
-- Models of a Provider
------------------------------------------------------------

/-
  The base address of a provider: the given one, or that of
  the settings for the local provider.
-/
def baseUrlOf
    (settings : Settings)
    (provider : String)
    (url : Option String) : Option String :=
  if url.isSome then
    url
  else if provider = defaultProvider then
    some settings.ollamaBaseUrl
  else
    none

/- A model; an empty address or key counts as absent. -/
def Model.ofOptions
    (settings : Settings)
    (provider name : String)
    (url key : Option String) : Model :=
  { provider
    name
    baseUrl :=
      (given? (baseUrlOf settings provider url)).map
        Url.normalize
    apiKey := given? key }

------------------------------------------------------------
-- Knowledge Bases
------------------------------------------------------------

/- The model that embeds the content of a knowledge base. -/
def embeddingModel
    (args : Arguments)
    (settings : Settings) : Model :=
  Model.ofOptions settings
    ((args.word? "embeddingProvider").getD defaultProvider)
    ((args.word? "embeddingModel").getD
      settings.embeddingModel)
    (args.word? "embeddingBaseUrl")
    (args.word? "embeddingApiKey")

/- The name of the ranking model, if one is asked for. -/
def rerankingName?
    (args : Arguments)
    (settings : Settings) : Option String :=
  (args.word? "rerankingModel").or
    (if args.isSet "withReranking" then
      some settings.rerankingModel
    else
      none)

/- Whether some option of a ranking model is given. -/
def asksForReranking (args : Arguments) : Bool :=
  (args.word? "rerankingProvider").isSome ||
    (args.word? "rerankingBaseUrl").isSome ||
    (args.word? "rerankingApiKey").isSome

/-
  The model that ranks search results. Its other options
  need a model to belong to.
-/
def rerankingModel?
    (args : Arguments)
    (settings : Settings) : Except Problem (Option Model) :=
  match rerankingName? args settings with
  | none =>
      if asksForReranking args then
        .error (.missing "--reranking-model")
      else
        .ok none
  | some name =>
      .ok (some (Model.ofOptions settings
        ((args.word? "rerankingProvider").getD
          defaultProvider)
        name
        (args.word? "rerankingBaseUrl")
        (args.word? "rerankingApiKey")))

/- The knowledge base to be created. -/
def NewKnowledgeBase.ofArguments
    (args : Arguments)
    (settings : Settings) :
    Except Problem NewKnowledgeBase := do
  let embedding := embeddingModel args settings
  let reranking ← rerankingModel? args settings
  let name ← args.word "kbName" "kb_name"
  let contentColumns ←
    args.list? "contentColumns" "--content-columns"
  let metadataColumns ←
    args.list? "metadataColumns" "--metadata-columns"
  return {
    name
    embedding
    reranking
    contentColumns
    metadataColumns
    idColumn := args.word? "idColumn" }

------------------------------------------------------------
-- Ingestion and Search
------------------------------------------------------------

/- The source column of each member of a metadata map. -/
def metadataSources
    (flag : String) :
    List (String × Json) →
      Except Problem (List (String × String))
  | [] => .ok []
  | (key, .text source) :: rest => do
      let others ← metadataSources flag rest
      return (key, source) :: others
  | (key, _) :: _ => .error (.sourceNotText flag key)

/- The source columns that a JSON value maps keys to. -/
def metadataMap
    (flag : String) :
    Json → Except Problem (List (String × String))
  | .object members => metadataSources flag members
  | _ => .error (.notObject flag)

/-
  The table to ingest from: a HackerNews table or any other,
  but not both.
-/
def ingestionSource
    (args : Arguments) : Except Problem TableRef :=
  match args.word? "from", args.word? "fromHackernews" with
  | some _, some _ => .error .twoSources
  | some table, none => TableRef.ofText "--from" table
  | none, some table =>
      .ok { datasource :=
              (args.word? "hnDatasource").getD
                defaultDatasource
            table }
  | none, none => .error (.missing "--from-hackernews")

/- The ingestion that the arguments ask for. -/
def Ingestion.ofArguments
    (args : Arguments) : Except Problem Ingestion := do
  let knowledgeBase ← args.word "kbName" "kb_name"
  let source ← ingestionSource args
  let defaults := defaultColumns source.table
  let map ← args.json? "metadataMap" "--metadata-map"
  let content ←
    args.list? "contentColumns" "--content-columns"
  let metadata ←
    match map with
    | none => .ok defaults.metadata
    | some json => metadataMap "--metadata-map" json
  let limit ← args.count "limit" "--limit" defaultIngestLimit
  let orderBy ←
    match args.word? "orderBy" with
    | none => .ok none
    | some text => (OrderBy.ofText text).map some
  return {
    knowledgeBase
    source
    columns :=
      { content := content.getD defaults.content, metadata }
    idColumn := (args.word? "idColumn").getD "id"
    limit
    orderBy
    ensureDatasource :=
      (args.word? "fromHackernews").isSome }

/- The search that the arguments ask for. -/
def Search.ofArguments
    (args : Arguments) : Except Problem Search := do
  let json ← args.json? "metadataFilter" "--metadata-filter"
  let knowledgeBase ← args.word "kbName" "kb_name"
  let text ← args.text "queryText" "query_text"
  let filter ←
    match json with
    | none => .ok []
    | some json => Filter.ofJson "--metadata-filter" json
  let limit ← args.count "limit" "--limit" defaultQueryLimit
  return { knowledgeBase, text, filter, limit }

------------------------------------------------------------
-- Agents
------------------------------------------------------------

/- The parameters that have a named option of their own. -/
def reservedParams : List String :=
  ["model", "google_api_key", "include_knowledge_bases",
    "include_tables", "prompt_template"]

/- The texts of a JSON array that holds nothing else. -/
def textItems? : List Json → Option (List String)
  | [] => some []
  | .text first :: rest => (textItems? rest).map (first :: ·)
  | _ :: _ => none

/- The tables that a parameter lists, if they are wanted. -/
def NewAgent.tableTexts?
    (agent : NewAgent)
    (value : Json) : Option (List String) :=
  if agent.tables.isEmpty then
    value.items?.bind textItems?
  else
    none

namespace NewAgent

/- Remember a parameter that was not used. -/
def ignore (agent : NewAgent) (key : String) : NewAgent :=
  { agent with ignoredParams := agent.ignoredParams ++ [key] }

/-
  Take one parameter into an agent. A reserved parameter
  only fills an option that has no value yet; otherwise it
  is ignored.
-/
def takeParam
    (agent : NewAgent)
    (key : String)
    (value : Json) : Except Problem NewAgent :=
  if !reservedParams.contains key then
    .ok { agent with params := agent.params ++ [(key, value)] }
  else if key = "google_api_key" then
    match given? agent.googleApiKey, value with
    | none, .text text =>
        .ok { agent with googleApiKey := some text }
    | _, _ => .ok (agent.ignore key)
  else if key = "prompt_template" then
    match given? agent.promptTemplate, value with
    | none, .text text =>
        .ok { agent with promptTemplate := some text }
    | _, _ => .ok (agent.ignore key)
  else if key = "include_tables" then
    match agent.tableTexts? value with
    | some texts => do
        let tables ←
          TableRef.listOfTexts "--params include_tables" texts
        return { agent with tables }
    | none => .ok (agent.ignore key)
  else
    .ok (agent.ignore key)

/- Take parameters into an agent, one after another. -/
def takeParams
    (agent : NewAgent) :
    List (String × Json) → Except Problem NewAgent
  | [] => .ok agent
  | (key, value) :: rest => do
      let agent ← agent.takeParam key value
      agent.takeParams rest

/- The agent described by the named options. -/
def ofOptions
    (args : Arguments)
    (settings : Settings) : Except Problem NewAgent := do
  let name ← args.word "agentName" "agent_name"
  let knowledgeBases ← args.list? "knowledgeBases" "kb_names"
  let tableTexts ← args.list? "tables" "--tables"
  let tables ←
    TableRef.listOfTexts "--tables" (tableTexts.getD [])
  let knowledgeBases ←
    Arguments.demand "kb_names" knowledgeBases
  return {
    name
    model := (args.word? "model").getD settings.googleModel
    googleApiKey :=
      (args.word? "googleApiKey").or settings.googleApiKey
    knowledgeBases
    tables
    promptTemplate := args.text? "promptTemplate" }

/- The agent that the arguments ask for. -/
def ofArguments
    (args : Arguments)
    (settings : Settings) : Except Problem NewAgent := do
  let agent ← ofOptions args settings
  let params ← args.json? "params" "--params"
  match params with
  | none => return agent
  | some (.object members) => agent.takeParams members
  | some _ => .error (.notObject "--params")

end NewAgent

------------------------------------------------------------
-- Evaluation
------------------------------------------------------------

/- The evaluation version with the given name. -/
def EvaluationVersion.ofText
    (text : String) : Except Problem EvaluationVersion :=
  if text = EvaluationVersion.documentId.name then
    .ok .documentId
  else if text = EvaluationVersion.llmRelevancy.name then
    .ok .llmRelevancy
  else
    .error (.unknownVersion text)

/- Whether test data is to be generated. -/
def asksForGeneration (args : Arguments) : Bool :=
  args.isSet "generateData" ||
    (args.text? "generateFromSql").isSome ||
    (args.word? "generateCount").isSome

/- The test data to be generated, if any. -/
def generation?
    (args : Arguments) : Except Problem (Option Generation) :=
  if asksForGeneration args then do
    let count ←
      args.count "generateCount" "--generate-count"
        defaultTestRows
    return some
      { fromSql := args.text? "generateFromSql", count }
  else
    .ok none

/- The model that judges the answers, if one is named. -/
def judge?
    (args : Arguments)
    (settings : Settings) : Option Model :=
  (args.word? "llmModel").map fun name =>
    Model.ofOptions settings
      ((args.word? "llmProvider").getD defaultProvider)
      name
      (args.word? "llmBaseUrl")
      (args.word? "llmApiKey")

/- The evaluation that the arguments ask for. -/
def Evaluation.ofArguments
    (args : Arguments)
    (settings : Settings) : Except Problem Evaluation := do
  let version ←
    EvaluationVersion.ofText
      ((args.word? "evalVersion").getD
        EvaluationVersion.documentId.name)
  let evaluates := !args.isUnset "evaluate"
  if !evaluates && !asksForGeneration args then
    .error .nothingToEvaluate
  else
    let knowledgeBase ← args.word "kbName" "kb_name"
    let table ← args.word "testTable" "--test-table"
    let testTable ← TableRef.ofText "--test-table" table
    let generation ← generation? args
    let saveTo ←
      match args.word? "saveTo" with
      | none => .ok none
      | some text =>
          (TableRef.ofText "--save-to" text).map some
    return {
      knowledgeBase
      testTable
      version
      generation
      evaluates
      judge := judge? args settings
      saveTo }

------------------------------------------------------------
-- Models and Jobs
------------------------------------------------------------

/-
  The parameters of a model, with the Google key of the
  settings added for the Google engine.
-/
def modelParams
    (settings : Settings)
    (engine : String)
    (params : List (String × String)) :
    List (String × String) :=
  match given? settings.googleApiKey with
  | some key =>
      if engine = "google_gemini" &&
          !Keyed.has "api_key" params then
        params ++ [("api_key", key)]
      else
        params
  | none => params

/- The model that the arguments ask for. -/
def NewModel.ofArguments
    (args : Arguments)
    (settings : Settings) : Except Problem NewModel := do
  let engine := (args.word? "engine").getD defaultEngine
  let params ← Parameter.listOfTexts (args.repeated "param")
  let ref ← args.objectRef "modelName" "model_name"
  let query ←
    args.text "selectDataQuery" "--select-data-query"
  let predictColumn ←
    args.word "predictColumn" "--predict-column"
  return {
    ref
    engine
    query
    predictColumn
    promptTemplate := args.text? "promptTemplate"
    params := modelParams settings engine params }

/- The statements of a job that are not empty. -/
def jobStatements (args : Arguments) : List String :=
  ((args.repeated "statements").map
    Sql.withoutTerminator).filter (· != "")

/- A point in time, if one is given. -/
def timestamp?
    (args : Arguments)
    (key flag : String) : Except Problem (Option String) :=
  match args.word? key with
  | none => .ok none
  | some text => (Timestamp.ofText flag text).map some

/- The job that the arguments ask for. -/
def NewJob.ofArguments
    (args : Arguments) : Except Problem NewJob := do
  let statements := jobStatements args
  if statements.isEmpty then
    .error (.missing "statements")
  else
    let ref ← args.objectRef "jobName" "job_name"
    let schedule ←
      match args.word? "every" with
      | none => .ok none
      | some text => (Schedule.ofText text).map some
    let start ← timestamp? args "start" "--start"
    let finish ← timestamp? args "end" "--end"
    return {
      ref
      statements
      schedule
      start
      finish
      condition := args.text? "if" }

/- The ingestion job that the arguments ask for. -/
def NewIngestJob.ofArguments
    (args : Arguments) : Except Problem NewIngestJob := do
  let ref ← args.objectRef "jobName" "job_name"
  let table ← args.word "hnTable" "hn_table"
  let ingestion ←
    Ingestion.ofArguments
      (("fromHackernews", .text table) :: args)
  let schedule ←
    Schedule.ofText
      ((args.word? "every").getD defaultJobSchedule)
  return { ref, ingestion, schedule }

/- A job in the given project, or in that of the settings. -/
def jobInProject
    (args : Arguments)
    (settings : Settings) : Except Problem ObjectRef := do
  let name ← args.word "jobName" "job_name"
  return {
    project :=
      some ((args.word? "projectName").getD settings.project)
    name }

------------------------------------------------------------
-- Requests
------------------------------------------------------------

/- The request that the arguments of an operation make. -/
def Request.ofArguments
    (op : Operation)
    (args : Arguments)
    (settings : Settings) : Except Problem Request :=
  match op with
  | .createKnowledgeBase => do
      let spec ← NewKnowledgeBase.ofArguments args settings
      return .createKnowledgeBase spec
  | .ingest => do
      let spec ← Ingestion.ofArguments args
      return .ingest spec
  | .query => do
      let spec ← Search.ofArguments args
      return .query spec
  | .index => do
      let name ← args.word "kbName" "kb_name"
      return .index name
  | .listDatabases => .ok .listDatabases
  | .createAgent => do
      let spec ← NewAgent.ofArguments args settings
      return .createAgent spec
  | .queryAgent => do
      let agent ← args.word "agentName" "agent_name"
      let question ← args.text "question" "question"
      return .queryAgent agent question
  | .evaluate => do
      let spec ← Evaluation.ofArguments args settings
      return .evaluate spec
  | .createModel => do
      let spec ← NewModel.ofArguments args settings
      return .createModel spec
  | .listModels => .ok (.listModels (args.word? "projectName"))
  | .describeModel => do
      let ref ← args.objectRef "modelName" "model_name"
      return .describeModel ref
  | .dropModel => do
      let ref ← args.objectRef "modelName" "model_name"
      return .dropModel ref
  | .refreshModel => do
      let ref ← args.objectRef "modelName" "model_name"
      return .refreshModel ref
  | .runQuery => do
      let sql ← args.text "queryString" "query_string"
      return .runQuery sql
  | .createJob => do
      let spec ← NewJob.ofArguments args
      return .createJob spec
  | .createIngestJob => do
      let spec ← NewIngestJob.ofArguments args
      return .createIngestJob spec
  | .listJobs =>
      .ok (.listJobs
        (some
          ((args.word? "projectName").getD settings.project)))
  | .jobStatus => do
      let ref ← jobInProject args settings
      return .jobStatus ref
  | .jobHistory => do
      let ref ← jobInProject args settings
      return .jobHistory ref
  | .jobLogs => do
      let ref ← jobInProject args settings
      let limit ← args.count "limit" "--limit" defaultLogLimit
      return .jobLogs ref limit
  | .dropJob => do
      let ref ← args.objectRef "jobName" "job_name"
      return .dropJob ref
  | .setUpHackernews =>
      .ok (.setUpHackernews
        ((args.word? "name").getD defaultDatasource))

end KbConsole
