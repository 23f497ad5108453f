import KbConsole.CommandLine.Invocation

/-
  The commands of the console, as data.

  Key definitions include:
    * `knowledgeBaseCommands`, `modelCommands`, `jobCommands`
    * `setupCommands`, `configCommands`
    * `console`
-/

namespace KbConsole

namespace CommandLine

------------------------------------------------------------
-- Short Forms
------------------------------------------------------------

/- An option that takes a value. -/
def taking
    (long placeholder description : String) : OptionSpec :=
  { long, form := .value placeholder, description }

/- An option that sets a flag. -/
def setting (long description : String) : OptionSpec :=
  { long, description }

/- The option that limits the number of rows. -/
def limitOption (description : String) : OptionSpec :=
  { short := some 'l'
    long := "limit"
    form := .value "number"
    description }

/- The option that skips the confirmation. -/
def yesOption : OptionSpec :=
  { short := some 'y'
    long := "yes"
    description := "Skip confirmation" }

/- The option that names the project. -/
def projectOption (description : String) : OptionSpec :=
  taking "project-name" "project" description

/- A positional argument. -/
def naming (key name description : String) : Positional :=
  { key, name, description }

/- The knowledge base that a command works on. -/
def knowledgeBaseName : Positional :=
  naming "kbName" "kb_name" "Knowledge base name"

/- The model that a command works on. -/
def modelName : Positional :=
  naming "modelName" "model_name" "Model name"

/- The job that a command works on. -/
def jobName : Positional :=
  naming "jobName" "job_name" "Job name"

/- The agent that a command works on. -/
def agentName : Positional :=
  naming "agentName" "agent_name" "Agent name"

------------------------------------------------------------
-- Knowledge Bases and Agents
------------------------------------------------------------

/- The commands about knowledge bases and agents. -/
def knowledgeBaseCommands : List Command :=
  [{ name := "create"
     description := "Create a knowledge base"
     positionals := [knowledgeBaseName]
     options :=
       [taking "embedding-provider" "provider"
          "Embedding model provider (default: ollama)",
        taking "embedding-model" "model"
          ("Embedding model name (default: " ++
            "OLLAMA_EMBEDDING_MODEL or nomic-embed-text)"),
        taking "embedding-base-url" "url"
          ("Embedding provider base URL (default for " ++
            "ollama: OLLAMA_BASE_URL)"),
        taking "embedding-api-key" "key"
          "Embedding provider API key",
        setting "with-reranking"
          ("Add a reranking model (default: " ++
            "OLLAMA_RERANKING_MODEL or llama3)"),
        taking "reranking-provider" "provider"
          "Reranking model provider (default: ollama)",
        taking "reranking-model" "model"
          "Reranking model name",
        taking "reranking-base-url" "url"
          "Reranking provider base URL",
        taking "reranking-api-key" "key"
          "Reranking provider API key",
        taking "content-columns" "columns"
          "Comma-separated content columns, e.g. \"title,text\"",
        taking "metadata-columns" "columns"
          "Comma-separated metadata columns, e.g. \"id,score\"",
        taking "id-column" "column" "ID column"]
     action := .perform .createKnowledgeBase },
   { name := "ingest"
     description :=
       "Insert rows from a source table into a knowledge base"
     positionals := [knowledgeBaseName]
     options :=
       [taking "from-hackernews" "table"
          "HackerNews table (stories, comments, ...)",
        taking "hn-datasource" "name"
          "HackerNews datasource name (default: hackernews)",
        taking "from" "source"
          "Any source table as <datasource>.<table>",
        taking "content-columns" "columns"
          ("Comma-separated content columns (auto-detected " ++
            "for HackerNews tables)"),
        taking "metadata-map" "json"
          "JSON object mapping metadata keys to source columns",
        taking "id-column" "column" "ID column (default: id)",
        limitOption "Maximum rows to ingest (default: 100)",
        taking "order-by" "expr" "Ordering, e.g. \"id DESC\""]
     action := .perform .ingest },
   { name := "query"
     description := "Semantic search over a knowledge base"
     positionals :=
       [knowledgeBaseName,
        naming "queryText" "query_text" "Search text"]
     options :=
       [taking "metadata-filter" "json"
          ("Metadata filter, e.g. " ++
            "'\x7b\"score\": \x7b\"$gt\": 50\x7d\x7d'"),
        limitOption "Maximum results (default: 5)"]
     action := .perform .query },
   { name := "index"
     description :=
       "Create or rebuild the index of a knowledge base"
     positionals := [knowledgeBaseName]
     action := .perform .index },
   { name := "list-databases"
     description := "List databases and datasources"
     action := .perform .listDatabases },
   { name := "create-agent"
     description :=
       "Create an agent that answers questions from " ++
         "knowledge bases"
     positionals :=
       [agentName,
        naming "knowledgeBases" "kb_names"
          "Comma-separated knowledge base names"]
     options :=
       [taking "model" "model"
          "LLM name (default: GOOGLE_MODEL or gemini-2.0-flash)",
        taking "google-api-key" "key"
          "Google API key (default: GOOGLE_GEMINI_API_KEY)",
        taking "tables" "tables"
          "Comma-separated <datasource>.<table> list",
        taking "prompt-template" "template"
          "Instructions for the agent",
        taking "params" "json"
          "Additional USING parameters as a JSON object"]
     action := .perform .createAgent },
   { name := "query-agent"
     description := "Ask an agent a question"
     positionals :=
       [agentName,
        naming "question" "question"
          "Question in natural language"]
     action := .perform .queryAgent },
   { name := "evaluate"
     description :=
       "Evaluate retrieval quality of a knowledge base"
     positionals := [knowledgeBaseName]
     options :=
       [taking "test-table" "table"
          "Test data table as <datasource>.<table>",
        taking "eval-version" "version"
          "doc_id or llm_relevancy (default: doc_id)",
        setting "generate-data"
          "Generate test data before evaluating",
        taking "generate-from-sql" "sql"
          ("Query selecting the content to generate test " ++
            "data from"),
        taking "generate-count" "number"
          "Number of test rows to generate (default: 100)",
        { long := "no-evaluate"
          form := .negation
          description := "Only generate test data" },
        taking "llm-provider" "provider"
          ("LLM provider for generation/judging (default: " ++
            "ollama)"),
        taking "llm-model" "model" "LLM model name",
        taking "llm-base-url" "url" "LLM provider base URL",
        taking "llm-api-key" "key" "LLM provider API key",
        taking "save-to" "table"
          "Store the report in <datasource>.<table>"]
     action := .perform .evaluate }]

------------------------------------------------------------
-- Models
------------------------------------------------------------

/- The commands about models. -/
def modelCommands : List Command :=
  [{ name := "create-model"
     description :=
       "Create a model that predicts a column from a query"
     positionals := [modelName]
     options :=
       [projectOption "Project that owns the model",
        taking "select-data-query" "sql" "Training data query",
        taking "predict-column" "column" "Column to predict",
        taking "engine" "engine" "ML engine (default: openai)",
        taking "prompt-template" "template"
          "Prompt template for LLM engines",
        { long := "param"
          form := .values "key=value"
          description := "Extra USING parameter, repeatable" }]
     action := .perform .createModel },
   { name := "list-models"
     description := "List models"
     options := [projectOption "Only list models of this project"]
     action := .perform .listModels },
   { name := "describe-model"
     description := "Show details of a model"
     positionals := [modelName]
     options := [projectOption "Project that owns the model"]
     action := .perform .describeModel },
   { name := "drop-model"
     description := "Delete a model"
     positionals := [modelName]
     options :=
       [projectOption "Project that owns the model", yesOption]
     action := .remove .dropModel "model" modelName.key },
   { name := "refresh-model"
     description := "Retrain a model on fresh data"
     positionals := [modelName]
     options := [projectOption "Project that owns the model"]
     action := .perform .refreshModel },
   { name := "query"
     description := "Run a raw SQL statement"
     positionals :=
       [naming "queryString" "query_string" "SQL to run"]
     action := .perform .runQuery }]

------------------------------------------------------------
-- Jobs
------------------------------------------------------------

/- The commands about jobs. -/
def jobCommands : List Command :=
  [{ name := "create"
     description := "Create a job running one or more statements"
     positionals :=
       [jobName,
        { key := "statements"
          name := "statements"
          description := "SQL statements, one argument each"
          takesRest := true }]
     options :=
       [projectOption "Project that owns the job",
        taking "every" "schedule"
          "Schedule, e.g. \"every 2 hours\" or \"day\"",
        taking "start" "timestamp"
          "First run, \"YYYY-MM-DD[ HH:MM:SS]\"",
        taking "end" "timestamp"
          "Last run, \"YYYY-MM-DD[ HH:MM:SS]\"",
        taking "if" "condition"
          "Only run when this query returns rows"]
     action := .perform .createJob },
   { name := "create-hn-ingest"
     description :=
       "Create a job that keeps ingesting new HackerNews " ++
         "rows into a knowledge base"
     positionals :=
       [jobName, knowledgeBaseName,
        naming "hnTable" "hn_table"
          "HackerNews table (stories, comments, ...)"]
     options :=
       [projectOption "Project that owns the job",
        taking "hn-datasource" "name"
          "HackerNews datasource name (default: hackernews)",
        taking "every" "schedule"
          "Schedule (default: \"every 1 day\")",
        taking "content-columns" "columns"
          "Comma-separated content columns",
        taking "metadata-map" "json"
          "JSON object mapping metadata keys to source columns",
        taking "id-column" "column" "ID column (default: id)",
        limitOption "Maximum rows per run (default: 100)"]
     action := .perform .createIngestJob },
   { name := "list"
     description := "List jobs"
     options :=
       [projectOption
          "Project to list (default: MINDSDB_PROJECT)"]
     action := .perform .listJobs },
   { name := "status"
     description := "Show the current state of a job"
     positionals := [jobName]
     options := [projectOption "Project that owns the job"]
     action := .perform .jobStatus },
   { name := "history"
     description := "Show the run history of a job"
     positionals := [jobName]
     options := [projectOption "Project that owns the job"]
     action := .perform .jobHistory },
   { name := "logs"
     description :=
       "Show the latest runs of a job with their errors"
     positionals := [jobName]
     options :=
       [projectOption "Project that owns the job",
        limitOption "Number of runs (default: 20)"]
     action := .perform .jobLogs },
   { name := "drop"
     description := "Delete a job"
     positionals := [jobName]
     options :=
       [projectOption "Project that owns the job", yesOption]
     action := .remove .dropJob "job" jobName.key }]

------------------------------------------------------------
-- Setup and Configuration
------------------------------------------------------------

/- The commands that set up datasources. -/
def setupCommands : List Command :=
  [{ name := "hackernews"
     description := "Connect the HackerNews datasource"
     options :=
       [taking "name" "name"
          "Datasource name (default: hackernews)"]
     action := .perform .setUpHackernews }]

/- The commands about the configuration. -/
def configCommands : List Command :=
  [{ name := "show"
     description := "Show current configuration"
     action := .showConfig },
   { name := "set-url"
     description := "Set the MindsDB server URL"
     positionals :=
       [{ key := "url", name := "url", isOptional := true }]
     action := .setServerUrl },
   { name := "set-project"
     description := "Set the default project for models and jobs"
     positionals := [{ key := "project", name := "project" }]
     action := .setProject },
   { name := "reset"
     description := "Reset configuration to defaults"
     action := .resetConfig }]

------------------------------------------------------------
-- The Program
------------------------------------------------------------

/- The options of the program. -/
def programOptions : List OptionSpec :=
  [versionOption,
   setting "json" "Print SQL, outcome and warnings as JSON",
   setting "dry-run" "Print the compiled SQL without sending it",
   { short := some 'q'
     long := "quiet"
     description := "Do not echo SQL before running it" },
   { short := some 'i'
     long := "interactive"
     description := "Force interactive mode" }]

/- The groups of commands. -/
def groups : List Group :=
  [{ name := "kb"
     description := "Knowledge base and agent commands"
     commands := knowledgeBaseCommands },
   { name := "ai"
     description := "AI model commands"
     commands := modelCommands },
   { name := "job"
     description := "Scheduled job commands"
     commands := jobCommands },
   { name := "setup"
     description := "Datasource setup commands"
     commands := setupCommands },
   { name := "config"
     description := "CLI configuration commands"
     commands := configCommands }]

/- The examples under the help page of the program. -/
def examples : List String :=
  ["",
   "Examples:",
   "  Setup:",
   "    $ kbforge setup hackernews                      " ++
     "# Connect the HackerNews datasource",
   "    $ kbforge config set-url http://127.0.0.1:47334 " ++
     "# Point at a MindsDB server",
   "",
   "  Knowledge bases:",
   "    $ kbforge kb create hn_kb " ++
     "--content-columns title,text",
   "    $ kbforge kb ingest hn_kb " ++
     "--from-hackernews stories --limit 500",
   "    $ kbforge kb query hn_kb \"rust async\" " ++
     "--metadata-filter " ++
     "'\x7b\"score\": \x7b\"$gt\": 50\x7d\x7d'",
   "    $ kbforge kb create-agent hn_agent hn_kb " ++
     "--prompt-template \"Answer from HN posts\"",
   "    $ kbforge kb query-agent hn_agent " ++
     "\"What do people think of Zig?\"",
   "",
   "  Models:",
   "    $ kbforge ai list-models",
   "    $ kbforge ai drop-model sentiment --yes",
   "",
   "  Jobs:",
   "    $ kbforge job create-hn-ingest hn_refresh hn_kb " ++
     "stories --every \"every 6 hours\"",
   "    $ kbforge job logs hn_refresh --limit 5",
   "",
   "  Inspect without running:",
   "    $ kbforge --dry-run kb ingest hn_kb " ++
     "--from-hackernews comments",
   "",
   "  Interactive:",
   "    $ kbforge                    " ++
     "# Launch interactive menu",
   "    $ kbforge -i                 " ++
     "# Force interactive mode",
   ""]

/- The program. -/
def console : Program :=
  { name := "kbforge"
    description :=
      "Manage MindsDB knowledge bases, agents, models and " ++
        "jobs from the command line"
    version := "0.1.0"
    options := programOptions
    groups
    notes := examples }

end CommandLine

end KbConsole
