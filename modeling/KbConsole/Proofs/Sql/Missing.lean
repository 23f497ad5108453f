import KbConsole.Proofs.Result
import KbConsole.Sql.Compile

/-
  Where the compiler may find that a field is missing.

  Apart from the SQL that the user writes, only lists can
  turn out to be empty: the content of an ingestion, the
  knowledge bases of an agent, and the statements of a job.

  Key definitions include:
    * `Problem.IsOther`
    * `Request.HasLists`, `Request.HasNoSql`

  The main statement is `Request.failsWith_compile`.
-/

namespace KbConsole

/- A problem is not that a field is missing. -/
def Problem.IsOther (problem : Problem) : Prop :=
  problem.kind ≠ .missingRequiredField

namespace Sql

variable {d : Dialect}

------------------------------------------------------------
-- Names
------------------------------------------------------------

theorem failsWith_identifier (field text : String) :
    FailsWith Problem.IsOther
      (Identifier.ofText field text) := by
  unfold Identifier.ofText
  cases Identifier.ofText? text with
  | none => exact .error ErrorKind.noConfusion
  | some name => exact .ok _

theorem failsWith_column (field text : String) :
    FailsWith Problem.IsOther (Column.ofText d field text) :=
  (failsWith_identifier field text).bind_pure _

theorem failsWith_columnsOf
    (field : String)
    (names : List String) :
    FailsWith Problem.IsOther (columnsOf d field names) :=
  FailsWith.mapM (failsWith_column field) names

theorem failsWith_namesOf
    (field : String)
    (names : List String) :
    FailsWith Problem.IsOther (namesOf field names) := by
  apply FailsWith.mapM
  intro name
  exact (failsWith_identifier field name).map

theorem failsWith_project? (project : Option String) :
    FailsWith Problem.IsOther (project? project) := by
  unfold project?
  cases given? project with
  | none => exact .ok _
  | some text => exact (failsWith_identifier _ text).map

theorem failsWith_objectName
    (field : String)
    (ref : ObjectRef) :
    FailsWith Problem.IsOther (ObjectName.ofRef field ref) := by
  unfold ObjectName.ofRef
  apply (failsWith_identifier field ref.name).bind
  intro name _
  exact (failsWith_project? ref.project).bind_pure _

theorem failsWith_tableName (ref : TableRef) :
    FailsWith Problem.IsOther (TableName.ofRef ref) := by
  unfold TableName.ofRef
  apply (failsWith_identifier _ ref.datasource).bind
  intro datasource _
  exact (failsWith_identifier _ ref.table).bind_pure _

theorem failsWith_datasource (name : String) :
    FailsWith Problem.IsOther (datasourceStatement name) :=
  (failsWith_identifier _ name).bind_pure _

------------------------------------------------------------
-- Knowledge Bases
------------------------------------------------------------

theorem failsWith_columnsOption
    (name field : String)
    (columns : Option (List String)) :
    FailsWith Problem.IsOther
      (columnsOption name field columns) := by
  unfold columnsOption
  split
  · exact .ok _
  · exact .ok _
  · exact (failsWith_namesOf field _).bind_pure _

theorem failsWith_idOption (column : Option String) :
    FailsWith Problem.IsOther (idOption column) := by
  unfold idOption
  split
  · exact .ok _
  · exact (failsWith_identifier _ _).bind_pure _

theorem failsWith_knowledgeBase (spec : NewKnowledgeBase) :
    FailsWith Problem.IsOther (knowledgeBaseStatement spec) := by
  unfold knowledgeBaseStatement
  apply (failsWith_columnsOption _ _ _).bind
  intro content _
  apply (failsWith_columnsOption _ _ _).bind
  intro metadata _
  apply (failsWith_idOption _).bind
  intro id _
  exact (failsWith_identifier _ _).bind_pure _

------------------------------------------------------------
-- Numbers and Literals
------------------------------------------------------------

theorem failsWith_finite (n : Number) :
    FailsWith Problem.IsOther (finite n) := by
  unfold finite
  split
  · exact .ok _
  · exact .error ErrorKind.noConfusion

theorem failsWith_ofNumber (n : Number) :
    FailsWith Problem.IsOther (Literal.ofNumber n) := by
  unfold Literal.ofNumber
  split
  · exact .ok _
  · exact .error ErrorKind.noConfusion

theorem failsWith_ofScalar (value : Scalar) :
    FailsWith Problem.IsOther (Literal.ofScalar value) := by
  cases value with
  | number n => exact failsWith_ofNumber n
  | text s => exact .ok _
  | bool b => exact .ok _

theorem failsWith_ofJson (value : Json) :
    FailsWith Problem.IsOther (Literal.ofJson value) := by
  cases value with
  | number n => exact failsWith_ofNumber n
  | null => exact .ok _
  | bool b => exact .ok _
  | text s => exact .ok _
  | array items => exact .ok _
  | object members => exact .ok _

------------------------------------------------------------
-- Ingestions
------------------------------------------------------------

theorem failsWith_contentSource
    {columns : List String}
    (hColumns : columns ≠ []) :
    FailsWith Problem.IsOther (contentSource d columns) := by
  unfold contentSource
  rw [if_neg (by simpa using hColumns)]
  apply (failsWith_columnsOf _ columns).bind
  intro found _
  split <;> exact .ok _

theorem failsWith_labelled (source label : String) :
    FailsWith Problem.IsOther (labelled d source label) := by
  unfold labelled
  apply (failsWith_column _ source).bind
  intro column _
  split
  · exact .ok _
  · exact (failsWith_column _ label).bind_pure _

theorem failsWith_metadataMembers
    (metadata : List (String × String)) :
    FailsWith Problem.IsOther (metadataMembers d metadata) := by
  apply FailsWith.mapM
  intro entry
  apply (failsWith_identifier _ entry.1).bind
  intro key _
  exact (failsWith_column _ entry.2).bind_pure _

theorem failsWith_metadataOutputs
    (idColumn : String)
    (metadata : List (String × String)) :
    FailsWith Problem.IsOther
      (metadataOutputs d idColumn metadata) := by
  induction metadata with
  | nil => exact .ok _
  | cons entry metadata ih =>
      rcases entry with ⟨key, source⟩
      unfold metadataOutputs
      apply (failsWith_identifier _ key).bind
      intro _ _
      apply (failsWith_identifier _ source).bind
      intro _ _
      split
      · exact .error ErrorKind.noConfusion
      · split
        · exact ih
        · apply (failsWith_labelled source key).bind
          intro first _
          exact ih.bind_pure _

theorem failsWith_ingestionOutputs
    {spec : Ingestion}
    (hContent : spec.columns.content ≠ []) :
    FailsWith Problem.IsOther (ingestionOutputs d spec) := by
  unfold ingestionOutputs
  apply (failsWith_contentSource hContent).bind
  intro content _
  apply (failsWith_identifier _ spec.idColumn).bind
  intro _ _
  apply (failsWith_labelled spec.idColumn "id").bind
  intro id _
  split
  · exact (failsWith_metadataMembers _).bind_pure _
  · exact (failsWith_metadataOutputs _ _).bind_pure _

theorem failsWith_newestColumn
    (incremental : Bool)
    (column : String) :
    FailsWith Problem.IsOther
      (newestColumn d incremental column) := by
  unfold newestColumn
  split
  · exact (failsWith_column _ column).map
  · exact .ok _

theorem failsWith_orderOf (order : Option OrderBy) :
    FailsWith Problem.IsOther (orderOf d order) := by
  unfold orderOf
  split
  · exact .ok _
  · exact (failsWith_column _ _).bind_pure _

theorem failsWith_insertionOf
    {spec : Ingestion}
    (hContent : spec.columns.content ≠ [])
    (incremental : Bool) :
    FailsWith Problem.IsOther
      (insertionOf d incremental spec) := by
  unfold insertionOf
  apply (failsWith_ingestionOutputs hContent).bind
  intro selected _
  apply (failsWith_identifier _ spec.knowledgeBase).bind
  intro knowledgeBase _
  apply (failsWith_tableName spec.source).bind
  intro source _
  apply (failsWith_newestColumn incremental _).bind
  intro newestBy _
  apply (failsWith_orderOf spec.orderBy).bind
  intro order _
  exact (failsWith_finite spec.limit).bind_pure _

theorem failsWith_ingestion
    {spec : Ingestion}
    (hContent : spec.columns.content ≠ []) :
    FailsWith Problem.IsOther (ingestionStatements d spec) := by
  have hInsertion := failsWith_insertionOf hContent false (d := d)
  unfold ingestionStatements
  split
  · apply (failsWith_datasource _).bind
    intro datasource _
    exact hInsertion.bind_pure _
  · exact hInsertion.bind_pure _

theorem failsWith_ingestionJob
    {spec : NewIngestJob}
    (hContent : spec.ingestion.columns.content ≠ []) :
    FailsWith Problem.IsOther
      (ingestionJobStatements d spec) := by
  unfold ingestionJobStatements
  apply (failsWith_insertionOf hContent true).bind
  intro insertion _
  apply (failsWith_datasource _).bind
  intro datasource _
  exact (failsWith_objectName _ spec.ref).bind_pure _

------------------------------------------------------------
-- Searches
------------------------------------------------------------

theorem failsWith_comparisonOf
    (key : String)
    (restriction : Restriction) :
    FailsWith Problem.IsOther
      (comparisonOf key restriction) := by
  unfold comparisonOf
  split
  · exact .ok _
  · split
    · exact .error ErrorKind.noConfusion
    · exact .ok _
  · exact .error ErrorKind.noConfusion

theorem failsWith_search (spec : Search) :
    FailsWith Problem.IsOther (searchStatement d spec) := by
  have hCondition (entry : String × Restriction) :
      FailsWith Problem.IsOther (conditionOf d entry) := by
    unfold conditionOf
    apply (failsWith_column _ entry.1).bind
    intro column _
    apply (failsWith_comparisonOf entry.1 entry.2).bind
    intro comparison _
    exact (failsWith_ofScalar comparison.2).bind_pure _
  unfold searchStatement
  apply (FailsWith.mapM hCondition spec.filter).bind
  intro conditions _
  apply (failsWith_identifier _ spec.knowledgeBase).bind
  intro knowledgeBase _
  exact (failsWith_finite spec.limit).bind_pure _

------------------------------------------------------------
-- Agents and Evaluations
------------------------------------------------------------

theorem failsWith_tablesOption (tables : List TableRef) :
    FailsWith Problem.IsOther (tablesOption tables) := by
  unfold tablesOption
  split
  · exact .ok _
  · exact
      (FailsWith.mapM failsWith_tableName tables).bind_pure _

theorem failsWith_agentParam (param : String × Json) :
    FailsWith Problem.IsOther (agentParam param) := by
  unfold agentParam
  apply (failsWith_identifier _ param.1).bind
  intro name _
  exact (failsWith_ofJson param.2).bind_pure _

theorem failsWith_agent
    {spec : NewAgent}
    (hKnowledgeBases : spec.knowledgeBases ≠ []) :
    FailsWith Problem.IsOther (agentStatement spec) := by
  unfold agentStatement
  rw [if_neg (by simpa using hKnowledgeBases)]
  apply (failsWith_namesOf _ spec.knowledgeBases).bind
  intro knowledgeBases _
  apply (failsWith_tablesOption spec.tables).bind
  intro tables _
  apply (FailsWith.mapM failsWith_agentParam spec.params).bind
  intro params _
  exact (failsWith_identifier _ spec.name).bind_pure _

theorem failsWith_saveOption (table : Option TableRef) :
    FailsWith Problem.IsOther (saveOption table) := by
  unfold saveOption
  split
  · exact .ok _
  · exact (failsWith_tableName _).bind_pure _

theorem failsWith_evaluation (spec : Evaluation) :
    FailsWith Problem.IsOther (evaluationStatements spec) := by
  unfold evaluationStatements
  apply (failsWith_identifier _ spec.knowledgeBase).bind
  intro name _
  apply (failsWith_tableName spec.testTable).bind
  intro table _
  split
  · exact (failsWith_saveOption spec.saveTo).bind_pure _
  · exact .ok _

------------------------------------------------------------
-- Models and Jobs
------------------------------------------------------------

theorem failsWith_queryOf
    (label : String)
    {sql : String}
    (hQuery : withoutTerminator sql ≠ "") :
    FailsWith Problem.IsOther (queryOf label sql) := by
  unfold queryOf
  dsimp only
  rw [if_neg hQuery]
  exact .ok _

theorem failsWith_modelParam (param : String × String) :
    FailsWith Problem.IsOther (modelParam param) :=
  (failsWith_identifier _ param.1).bind_pure _

theorem failsWith_model
    (spec : NewModel)
    (hQuery : withoutTerminator spec.query ≠ "") :
    FailsWith Problem.IsOther (modelStatement spec) := by
  unfold modelStatement
  apply (failsWith_queryOf _ hQuery).bind
  intro query _
  apply (FailsWith.mapM failsWith_modelParam spec.params).bind
  intro params _
  apply (failsWith_objectName _ spec.ref).bind
  intro name _
  exact (failsWith_identifier _ spec.predictColumn).bind_pure _

theorem failsWith_job
    {spec : NewJob}
    (hStatements : spec.statements ≠ []) :
    FailsWith Problem.IsOther (jobStatement spec) := by
  unfold jobStatement
  rw [if_neg (by simpa using hStatements)]
  exact (failsWith_objectName _ spec.ref).bind_pure _

theorem failsWith_jobs (project : Option String) :
    FailsWith Problem.IsOther (jobsStatement project) := by
  unfold jobsStatement
  apply (failsWith_project? project).bind
  intro found _
  split <;> exact .ok _

theorem failsWith_jobOf (ref : ObjectRef) :
    FailsWith Problem.IsOther (jobOf ref) := by
  unfold jobOf
  apply (failsWith_project? ref.project).bind
  intro project _
  exact (failsWith_identifier _ ref.name).bind_pure _

end Sql

------------------------------------------------------------
-- Requests
------------------------------------------------------------

open Sql

namespace Request

variable {d : Dialect}

/- The lists that a statement cannot do without have entries. -/
def HasLists : Request → Prop
  | ingest spec => spec.columns.content ≠ []
  | createIngestJob spec =>
      spec.ingestion.columns.content ≠ []
  | createAgent spec => spec.knowledgeBases ≠ []
  | createJob spec => spec.statements ≠ []
  | _ => True

/- The SQL that the user writes is nothing but terminators. -/
def HasNoSql : Request → Prop
  | runQuery sql => withoutTerminator sql = ""
  | createModel spec => withoutTerminator spec.query = ""
  | _ => False

theorem failsWith_statements
    {request : Request}
    (hLists : request.HasLists)
    (hSql : ¬ request.HasNoSql) :
    FailsWith Problem.IsOther (request.statements d) := by
  cases request with
  | createKnowledgeBase spec =>
      exact (failsWith_knowledgeBase spec).bind_pure _
  | ingest spec => exact failsWith_ingestion hLists
  | query spec => exact (failsWith_search spec).bind_pure _
  | index name => exact (failsWith_identifier _ name).bind_pure _
  | listDatabases => exact .ok _
  | createAgent spec => exact (failsWith_agent hLists).bind_pure _
  | queryAgent agent question =>
      exact (failsWith_identifier _ agent).bind_pure _
  | evaluate spec => exact failsWith_evaluation spec
  | createModel spec =>
      exact (failsWith_model spec hSql).bind_pure _
  | listModels project =>
      exact (failsWith_project? project).bind_pure _
  | describeModel ref | dropModel ref | refreshModel ref
  | dropJob ref =>
      exact (failsWith_objectName _ ref).bind_pure _
  | runQuery sql =>
      have hQuery : withoutTerminator sql ≠ "" := hSql
      exact (failsWith_queryOf _ hQuery).bind_pure _
  | createJob spec => exact (failsWith_job hLists).bind_pure _
  | createIngestJob spec => exact failsWith_ingestionJob hLists
  | listJobs project => exact (failsWith_jobs project).bind_pure _
  | jobStatus ref | jobHistory ref =>
      exact (failsWith_jobOf ref).bind_pure _
  | jobLogs ref limit =>
      apply (failsWith_jobOf ref).bind
      intro job _
      exact (failsWith_finite limit).bind_pure _
  | setUpHackernews datasource =>
      exact (failsWith_datasource datasource).bind_pure _

/- A field is missing exactly when there is no SQL. -/
theorem statements_missing_iff
    {request : Request}
    (hLists : request.HasLists)
    (d : Dialect) :
    (∃ problem,
      request.statements d = .error problem ∧
        problem.kind = .missingRequiredField) ↔
      request.HasNoSql := by
  constructor
  · rintro ⟨problem, hProblem, hMissing⟩
    by_contra hSql
    exact
      (failsWith_statements hLists hSql).of_eq_error problem
        hProblem hMissing
  · intro hSql
    cases request with
    | runQuery sql =>
        have hQuery : withoutTerminator sql = "" := hSql
        refine ⟨.missing "query_string", ?_, rfl⟩
        simp [Request.statements, queryOf, hQuery, bind,
          Except.bind]
    | createModel spec =>
        have hQuery : withoutTerminator spec.query = "" := hSql
        refine ⟨.missing "--select-data-query", ?_, rfl⟩
        simp [Request.statements, modelStatement, queryOf,
          hQuery, bind, Except.bind]
    | _ => cases hSql

/- With its lists, a request can only be without its SQL. -/
theorem failsWith_compile
    {request : Request}
    (hLists : request.HasLists)
    (d : Dialect) :
    FailsWith
      (fun problem =>
        problem.kind = .missingRequiredField →
          request.HasNoSql)
      (request.compile d) := by
  by_cases hSql : request.HasNoSql
  · exact ⟨fun _ _ _ => hSql⟩
  · have hCompile :
        FailsWith Problem.IsOther (request.compile d) :=
      (failsWith_statements hLists hSql).bind_pure _
    apply hCompile.mono
    intro problem hOther hMissing
    exact absurd hMissing hOther

end Request

end KbConsole
