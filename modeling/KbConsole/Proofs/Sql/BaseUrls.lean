import KbConsole.Proofs.Sql.Agent
import KbConsole.Proofs.Sql.Structured

/-
  The base addresses of models in statements.

  Only knowledge bases and evaluations have models with an
  address of their own. It is one of the nested options of
  the model, in every statement that has the model.

  Key definitions include:
    * `Sql.Statement.baseUrls`
    * `Request.models`, `Model.baseUrls`

  The main statement is `Request.baseUrls_of_statements`.
-/

namespace KbConsole

------------------------------------------------------------
-- Written Addresses
------------------------------------------------------------

open Sql

namespace Sql

/- The address among the nested options of a model. -/
def entryUrl : String × Scalar → List String
  | ("base_url", .text url) => [url]
  | _ => []

/- The addresses that are nested in an option. -/
def Assignment.baseUrls (option : Assignment) : List String :=
  match option.value with
  | .literal (.members entries) => entries.flatMap entryUrl
  | _ => []

/- The options of a statement. -/
def Statement.options : Statement → List Assignment
  | createKnowledgeBase _ options => options
  | createAgent _ options => options
  | evaluate _ options => options
  | createModel _ _ _ options => options
  | _ => []

/- The addresses of models in a statement, in order. -/
def Statement.baseUrls (s : Statement) : List String :=
  s.options.flatMap Assignment.baseUrls

end Sql

/- The models that a request names by their providers. -/
def Request.models : Request → List Model
  | createKnowledgeBase spec =>
      spec.embedding :: spec.reranking.toList
  | evaluate spec => spec.judge.toList
  | _ => []

/- The addresses of models; an empty one is not written. -/
def Model.baseUrls (models : List Model) : List String :=
  models.flatMap fun m => (given? m.baseUrl).toList

namespace Sql

theorem baseUrls_of_options_eq_nil
    {s : Statement}
    (hNone : s.options = []) :
    s.baseUrls = [] := by
  rw [Statement.baseUrls, hNone, List.flatMap_nil]

theorem baseUrls_modelOption (name : String) (m : Model) :
    (modelOption name m).baseUrls =
      (given? m.baseUrl).toList := by
  change (modelEntries m).flatMap entryUrl = _
  rw [modelEntries, textEntry_eq_map, textEntry_eq_map]
  cases given? m.baseUrl <;> cases given? m.apiKey <;> rfl

theorem baseUrls_models (name : String) (models : List Model) :
    (models.map (modelOption name)).flatMap
        Assignment.baseUrls =
      Model.baseUrls models := by
  rw [List.flatMap_map, Model.baseUrls]
  simp only [baseUrls_modelOption]

/- A knowledge base has the addresses of its two models. -/
theorem baseUrls_knowledgeBase
    {spec : NewKnowledgeBase}
    {s : Statement}
    (hStatement : knowledgeBaseStatement spec = .ok s) :
    s.baseUrls =
      Model.baseUrls
        (spec.embedding :: spec.reranking.toList) := by
  simp only [knowledgeBaseStatement, bind_eq_ok_iff,
    pure_eq_ok_iff] at hStatement
  rcases hStatement with
    ⟨content, hContent, metadata, hMetadata, id, hId, name, -,
      rfl⟩
  have hOthers :
      (content ++ metadata ++ id).flatMap
          Assignment.baseUrls = [] := by
    rw [List.flatMap_eq_nil_iff]
    intro option hOption
    rw [List.mem_append, List.mem_append] at hOption
    rcases hOption with (hOption | hOption) | hOption
    · rcases exists_of_mem_columnsOption hContent option
        hOption with ⟨names, rfl⟩
      rfl
    · rcases exists_of_mem_columnsOption hMetadata option
        hOption with ⟨names, rfl⟩
      rfl
    · rcases exists_of_mem_idOption hId option hOption with
        ⟨column, rfl⟩
      rfl
  calc
    _ = (modelOption "embedding_model" spec.embedding ::
            spec.reranking.toList.map
              (modelOption "reranking_model") ++
          (content ++ metadata ++ id)).flatMap
            Assignment.baseUrls := by
          simp only [Statement.baseUrls, Statement.options,
            List.append_assoc, List.cons_append]
    _ = _ := by
          rw [List.flatMap_append, hOthers, List.append_nil,
            List.flatMap_cons, baseUrls_modelOption,
            baseUrls_models]
          rfl

/- Both statements of an evaluation have that of its judge. -/
theorem baseUrls_evaluation
    {spec : Evaluation}
    {statements : List Statement}
    (hStatements : evaluationStatements spec = .ok statements) :
    ∀ s ∈ statements,
      s.baseUrls = Model.baseUrls spec.judge.toList := by
  intro s hMember
  rcases cases_of_evaluationStatements hStatements with
    ⟨name, table, -, -, hCases⟩
  have hGeneration
      (hFirst : s ∈ generationStatements spec name table) :
      s.baseUrls = Model.baseUrls spec.judge.toList := by
    rcases List.mem_map.mp hFirst with ⟨g, -, rfl⟩
    have hEntries :
        (generationEntries g).flatMap entryUrl = [] := by
      unfold generationEntries
      cases given? g.fromSql <;> rfl
    rw [← baseUrls_models "llm"]
    simp [Statement.baseUrls, Statement.options,
      generationOptions, Assignment.baseUrls,
      Assignment.literal, hEntries]
  rcases hCases with ⟨-, rfl⟩ | ⟨-, save, hSave, rfl⟩
  · exact hGeneration hMember
  · rcases List.mem_append.mp hMember with hFirst | hLast
    · exact hGeneration hFirst
    · obtain rfl := List.mem_singleton.mp hLast
      have hOthers :
          save.flatMap Assignment.baseUrls = [] := by
        rw [List.flatMap_eq_nil_iff]
        intro option hOption
        rcases exists_of_mem_saveOption hSave option hOption
          with ⟨target, rfl⟩
        rfl
      change
        (scoreOptions spec table save).flatMap
          Assignment.baseUrls = _
      rw [scoreOptions, List.flatMap_append, hOthers,
        List.append_nil, List.flatMap_append, baseUrls_models]
      rfl

/- The values of a parameter are not nested. -/
theorem baseUrls_of_isOptionOf
    {param : String × Json}
    {option : Assignment}
    (hOption : IsOptionOf param option) :
    option.baseUrls = [] := by
  rcases param with ⟨key, json⟩
  rcases hOption with ⟨value, hValue, rfl⟩
  cases json with
  | number n =>
      simp only [Literal.ofJson, Literal.ofNumber] at hValue
      split at hValue
      · obtain rfl := Except.ok.inj hValue
        rfl
      · cases hValue
  | _ =>
      obtain rfl := Except.ok.inj hValue
      rfl

theorem baseUrls_agent
    {spec : NewAgent}
    {s : Statement}
    (hStatement : agentStatement spec = .ok s) :
    s.baseUrls = [] := by
  rcases agentStatement_eq_ok_iff.mp hStatement with
    ⟨-, -, -, options, hOptions, name, -, rfl⟩
  have hParams := (mapM_agentParam_eq_ok_iff.mp hOptions).2
  apply List.flatMap_eq_nil_iff.mpr
  intro option hOption
  rcases List.mem_append.mp hOption with hNamed | hParam
  · rcases mem_namedOptions_iff.mp hNamed with
      rfl | hKey | rfl | hTables | hTemplate
    · rfl
    · rcases mem_textOption_iff.mp hKey with ⟨text, -, rfl⟩
      rfl
    · rfl
    · rcases mem_listedTables_iff.mp hTables with ⟨-, rfl⟩
      rfl
    · rcases mem_textOption_iff.mp hTemplate with
        ⟨text, -, rfl⟩
      rfl
  · rcases exists_of_mem_forall₂ hParams.flip hParam with
      ⟨param, -, hOf⟩
    exact baseUrls_of_isOptionOf hOf

theorem baseUrls_model
    {spec : NewModel}
    {s : Statement}
    (hStatement : modelStatement spec = .ok s) :
    s.baseUrls = [] := by
  rcases modelStatement_eq_ok_iff.mp hStatement with
    ⟨-, -, name, predict, -, -, rfl⟩
  apply List.flatMap_eq_nil_iff.mpr
  intro option hOption
  rcases List.mem_map.mp hOption with ⟨entry, -, rfl⟩
  rfl

end Sql

------------------------------------------------------------
-- Requests
------------------------------------------------------------

namespace Request

variable {d : Dialect}
variable {request : Request}
variable {statements : List Statement}

/- The one statement that is made of a value. -/
theorem exists_of_mem_bind
    {α : Type}
    {first : Except Problem α}
    {build : α → Statement}
    {s : Statement}
    (hStatements :
      (first >>= fun value => pure [build value]) =
        .ok statements)
    (hMember : s ∈ statements) :
    ∃ value, first = .ok value ∧ build value = s := by
  simp only [bind_eq_ok_iff, pure_eq_ok_iff] at hStatements
  rcases hStatements with ⟨value, hFirst, rfl⟩
  exact ⟨value, hFirst, (List.mem_singleton.mp hMember).symm⟩

theorem options_ingestion
    {spec : Ingestion}
    (hStatements :
      ingestionStatements d spec = .ok statements) :
    ∀ s ∈ statements, s.options = [] := by
  unfold ingestionStatements datasourceStatement at hStatements
  split at hStatements
  · simp only [bind_eq_ok_iff, pure_eq_ok_iff] at hStatements
    rcases hStatements with ⟨_, ⟨_, -, rfl⟩, _, -, rfl⟩
    simp [Statement.options]
  · simp only [bind_eq_ok_iff, pure_eq_ok_iff] at hStatements
    rcases hStatements with ⟨_, -, rfl⟩
    simp [Statement.options]

theorem options_ingestionJob
    {spec : NewIngestJob}
    (hStatements :
      ingestionJobStatements d spec = .ok statements) :
    ∀ s ∈ statements, s.options = [] := by
  simp only [ingestionJobStatements, datasourceStatement,
    bind_eq_ok_iff, pure_eq_ok_iff] at hStatements
  rcases hStatements with
    ⟨_, -, _, ⟨_, -, rfl⟩, _, -, rfl⟩
  simp [Statement.options]

theorem options_job
    {spec : NewJob}
    {s : Statement}
    (hStatement : jobStatement spec = .ok s) :
    s.options = [] := by
  rcases jobStatement_eq_ok_iff.mp hStatement with
    ⟨-, name, -, rfl⟩
  rfl

theorem options_jobs
    {project : Option String}
    {s : Statement}
    (hStatement : jobsStatement project = .ok s) :
    s.options = [] := by
  simp only [jobsStatement, bind_eq_ok_iff] at hStatement
  rcases hStatement with ⟨_ | _, -, hStatement⟩
  · obtain rfl := pure_eq_ok_iff.mp hStatement
    rfl
  · obtain rfl := pure_eq_ok_iff.mp hStatement
    rfl

/- The addresses in a statement are those of the models. -/
theorem baseUrls_of_statements
    (hStatements : request.statements d = .ok statements) :
    ∀ s ∈ statements,
      s.baseUrls = Model.baseUrls request.models := by
  intro s hMember
  cases request with
  | createKnowledgeBase spec =>
      rcases exists_of_mem_bind hStatements hMember with
        ⟨_, hStatement, rfl⟩
      exact baseUrls_knowledgeBase hStatement
  | createAgent spec =>
      rcases exists_of_mem_bind hStatements hMember with
        ⟨_, hStatement, rfl⟩
      exact baseUrls_agent hStatement
  | createModel spec =>
      rcases exists_of_mem_bind hStatements hMember with
        ⟨_, hStatement, rfl⟩
      exact baseUrls_model hStatement
  | evaluate spec =>
      exact baseUrls_evaluation hStatements s hMember
  | ingest spec =>
      exact baseUrls_of_options_eq_nil
        (options_ingestion hStatements s hMember)
  | createIngestJob spec =>
      exact baseUrls_of_options_eq_nil
        (options_ingestionJob hStatements s hMember)
  | createJob spec =>
      rcases exists_of_mem_bind hStatements hMember with
        ⟨_, hStatement, rfl⟩
      exact baseUrls_of_options_eq_nil (options_job hStatement)
  | listJobs project =>
      rcases exists_of_mem_bind hStatements hMember with
        ⟨_, hStatement, rfl⟩
      exact baseUrls_of_options_eq_nil (options_jobs hStatement)
  | _ =>
      apply baseUrls_of_options_eq_nil
      simp only [Request.statements, searchStatement,
        datasourceStatement, bind_eq_ok_iff, pure_eq_ok_iff]
        at hStatements
      grind [Statement.options]

end Request

end KbConsole
