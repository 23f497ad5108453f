import KbConsole.Outcome
import KbConsole.Request.Basic

/-
  What the user is told about a request: the confirmation
  that it was carried out, and remarks that do not stop it.

  Key definitions include:
    * `Request.acknowledgement`
    * `Request.warnings`
-/

namespace KbConsole

/- A model or job as the user names it. -/
def ObjectRef.qualified (ref : ObjectRef) : String :=
  match given? ref.project with
  | none => ref.name
  | some project => project ++ "." ++ ref.name

namespace Request

------------------------------------------------------------
-- Confirmations
------------------------------------------------------------

/- The confirmation that a job was created. -/
def jobCreated (ref : ObjectRef) : String :=
  "Job '" ++ ref.qualified ++ "' created."

/-
  What is shown when the last statement of a request
  succeeds without giving rows.
-/
def acknowledgement : Request → String
  | createKnowledgeBase spec =>
      "Knowledge base '" ++ spec.name ++ "' created."
  | ingest spec =>
      "Ingestion into '" ++ spec.knowledgeBase ++
        "' from '" ++ spec.source.datasource ++ "." ++
        spec.source.table ++ "' submitted."
  | index name =>
      "Index creation for knowledge base '" ++ name ++
        "' initiated."
  | createAgent spec => "Agent '" ++ spec.name ++ "' created."
  | evaluate spec =>
      "Evaluation statement for '" ++ spec.knowledgeBase ++
        "' completed."
  | createModel spec =>
      "Model '" ++ spec.ref.qualified ++
        "' created. Training may take a while; check it " ++
        "with: kbforge ai describe-model " ++ spec.ref.name
  | dropModel ref => "Model '" ++ ref.qualified ++ "' dropped."
  | refreshModel ref =>
      "Retraining of '" ++ ref.qualified ++ "' started."
  | createJob spec => jobCreated spec.ref
  | createIngestJob spec => jobCreated spec.ref
  | dropJob ref => "Job '" ++ ref.qualified ++ "' dropped."
  | setUpHackernews datasource =>
      "HackerNews datasource '" ++ datasource ++ "' is ready."
  | _ => Outcome.nothingFound

------------------------------------------------------------
-- Warnings
------------------------------------------------------------

/- The engines that usually want a key. -/
def hostedEngines : List String :=
  ["openai", "anthropic", "google_gemini"]

/- Remarks about an agent. -/
def agentWarnings (spec : NewAgent) : List String :=
  (if spec.ignoredParams.isEmpty then
    []
  else
    ["Ignored --params keys already set by named " ++
      "options: " ++ ", ".intercalate spec.ignoredParams]) ++
  (if (given? spec.googleApiKey).isNone &&
      "gemini".toList.isPrefixOf spec.model.toList then
    ["No Google API key given (--google-api-key or " ++
      "GOOGLE_GEMINI_API_KEY); agent creation may fail."]
  else
    [])

/- Remarks about a model. -/
def modelWarnings (spec : NewModel) : List String :=
  if hostedEngines.contains spec.engine &&
      !Keyed.has "api_key" spec.params then
    ["Engine '" ++ spec.engine ++
      "' usually needs an API key: pass " ++
      "--param api_key=<key>."]
  else
    []

/- Remarks about a request that do not stop it. -/
def warnings : Request → List String
  | createAgent spec => agentWarnings spec
  | createModel spec => modelWarnings spec
  | _ => []

end Request

end KbConsole
