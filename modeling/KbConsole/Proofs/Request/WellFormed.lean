import KbConsole.Proofs.Dispatch.Contract
import KbConsole.Proofs.Request.Agent
import KbConsole.Proofs.Request.Ingestion
import KbConsole.Proofs.Sql.Missing

/-
  Requests that are read from arguments are well-formed.

  Names have a text, lists have entries, counts are at least
  one, and keys are distinct. The compiler then finds no
  field missing, apart from the SQL that the user writes.

  Key definitions include:
    * `Ingestion.IsProper`, `Evaluation.IsProper`
    * `Request.IsProper`

  The main statement is `Request.ofArguments_contract`. Its
  two parts are `Request.isProper_of_ofArguments` and
  `Request.failsWith_compile`.
-/

namespace KbConsole

------------------------------------------------------------
-- Knowledge Bases and Searches
------------------------------------------------------------

/- What is known of a knowledge base to be created. -/
structure NewKnowledgeBase.IsProper
    (spec : NewKnowledgeBase) : Prop where
  name : Text.IsTrimmed spec.name
  contentColumns :
    ∀ columns,
      spec.contentColumns = some columns →
        ColumnList.IsProper columns
  metadataColumns :
    ∀ columns,
      spec.metadataColumns = some columns →
        ColumnList.IsProper columns

theorem NewKnowledgeBase.isProper_of_ofArguments
    {args : Arguments}
    {settings : Settings}
    {spec : NewKnowledgeBase}
    (hSpec : ofArguments args settings = .ok spec) :
    spec.IsProper := by
  simp only [ofArguments, bind_eq_ok_iff, pure_eq_ok_iff]
    at hSpec
  rcases hSpec with
    ⟨reranking, -, name, hName, content, hContent, metadata,
      hMetadata, rfl⟩
  constructor
  · exact Arguments.isTrimmed_of_word hName
  · rintro columns rfl
    exact Arguments.isProper_of_list? hContent
  · rintro columns rfl
    exact Arguments.isProper_of_list? hMetadata

/- What is known of a search. -/
structure Search.IsProper (spec : Search) : Prop where
  knowledgeBase : Text.IsTrimmed spec.knowledgeBase
  limit : spec.limit.AtLeastOne

theorem Search.isProper_of_ofArguments
    {args : Arguments}
    {spec : Search}
    (hSpec : ofArguments args = .ok spec) :
    spec.IsProper := by
  simp only [ofArguments, bind_eq_ok_iff] at hSpec
  rcases hSpec with ⟨json, -, name, hName, text, -, hSpec⟩
  have hKnowledgeBase := Arguments.isTrimmed_of_word hName
  split at hSpec
  · simp only [bind_eq_ok_iff, pure_eq_ok_iff] at hSpec
    rcases hSpec with ⟨_, -, limit, hLimit, rfl⟩
    exact
      ⟨hKnowledgeBase,
        Arguments.atLeastOne_of_count (by decide) hLimit⟩
  · simp only [bind_eq_ok_iff, pure_eq_ok_iff] at hSpec
    rcases hSpec with ⟨_, -, limit, hLimit, rfl⟩
    exact
      ⟨hKnowledgeBase,
        Arguments.atLeastOne_of_count (by decide) hLimit⟩

------------------------------------------------------------
-- Ingestions
------------------------------------------------------------

/- What is known of an ingestion. -/
structure Ingestion.IsProper (spec : Ingestion) : Prop where
  knowledgeBase : Text.IsTrimmed spec.knowledgeBase
  source : spec.source.IsProper
  content : ColumnList.IsProper spec.columns.content
  metadata : (Keyed.keys spec.columns.metadata).Nodup
  idColumn : Text.IsTrimmed spec.idColumn
  limit : spec.limit.AtLeastOne
  orderBy :
    ∀ order, spec.orderBy = some order → order.IsProper

theorem isProper_content_defaultColumns (table : String) :
    ColumnList.IsProper (defaultColumns table).content := by
  unfold defaultColumns
  split
  · exact ⟨by decide, by decide +kernel, by decide⟩
  · split
    · exact ⟨by decide, by decide +kernel, by decide⟩
    · exact ⟨by decide, by decide +kernel, by decide⟩

theorem nodup_metadata_defaultColumns (table : String) :
    (Keyed.keys (defaultColumns table).metadata).Nodup := by
  unfold defaultColumns
  split
  · decide
  · split <;> decide

theorem keys_metadataSources
    {flag : String}
    {members : List (String × Json)}
    {sources : List (String × String)}
    (hSources : metadataSources flag members = .ok sources) :
    Keyed.keys sources = Keyed.keys members := by
  induction members generalizing sources with
  | nil =>
      obtain rfl := Except.ok.inj hSources
      rfl
  | cons member members ih =>
      rcases member with ⟨key, value⟩
      cases value with
      | text source =>
          simp only [metadataSources, bind_eq_ok_iff,
            pure_eq_ok_iff] at hSources
          rcases hSources with ⟨others, hOthers, rfl⟩
          exact congrArg (key :: ·) (ih hOthers)
      | _ => cases hSources

theorem isProper_of_ingestionSource
    {args : Arguments}
    {source : TableRef}
    (hSource : ingestionSource args = .ok source) :
    source.IsProper := by
  unfold ingestionSource at hSource
  split at hSource
  · cases hSource
  · exact TableRef.isProper_of_ofText hSource
  · rename_i table hFrom hTable
    obtain rfl := Except.ok.inj hSource
    constructor
    · exact Arguments.isTrimmed_getD (by decide +kernel)
    · exact Arguments.isTrimmed_of_word? hTable
  · cases hSource

namespace Ingestion

variable {args : Arguments}
variable {spec : Ingestion}

/- The keys of a JSON object are distinct, as the defaults. -/
theorem nodup_metadata
    (hRead : spec.IsReadFrom args) :
    (Keyed.keys spec.columns.metadata).Nodup := by
  rcases hRead.metadata with ⟨map, hMap, hMetadata⟩
  cases map with
  | none =>
      have hDefault := Except.ok.inj hMetadata
      rw [← hDefault]
      exact nodup_metadata_defaultColumns _
  | some json =>
      rcases Arguments.json?_eq_ok_iff.mp hMap with
        ⟨text, -, hParse⟩
      change metadataMap "--metadata-map" json = _ at hMetadata
      unfold metadataMap at hMetadata
      split at hMetadata
      · rw [keys_metadataSources hMetadata]
        exact Json.nodup_keys_of_parse? hParse
      · cases hMetadata

theorem isProper_content
    (hRead : spec.IsReadFrom args) :
    ColumnList.IsProper spec.columns.content := by
  rcases hRead.content with ⟨content, hList, hContent⟩
  rw [hContent]
  cases content with
  | none => exact isProper_content_defaultColumns _
  | some columns => exact Arguments.isProper_of_list? hList

theorem isProper_orderBy
    (hRead : spec.IsReadFrom args) :
    ∀ order, spec.orderBy = some order → order.IsProper := by
  intro order hOrder
  have hText := hRead.order
  rw [hOrder] at hText
  unfold orderOf at hText
  split at hText
  · cases hText
  · rcases map_eq_ok_iff.mp hText with ⟨found, hFound, hSome⟩
    obtain rfl := Option.some.inj hSome
    exact OrderBy.isProper_of_ofText hFound

theorem isProper_of_ofArguments
    (hSpec : ofArguments args = .ok spec) :
    spec.IsProper := by
  have hRead := isReadFrom_of_ofArguments hSpec
  have hId : Text.IsTrimmed spec.idColumn := by
    rw [hRead.idColumn]
    exact Arguments.isTrimmed_getD (by decide +kernel)
  exact
    { knowledgeBase :=
        Arguments.isTrimmed_of_word hRead.knowledgeBase
      source := isProper_of_ingestionSource hRead.source
      content := isProper_content hRead
      metadata := nodup_metadata hRead
      idColumn := hId
      limit :=
        Arguments.atLeastOne_of_count (by decide) hRead.limit
      orderBy := isProper_orderBy hRead }

end Ingestion

------------------------------------------------------------
-- Evaluations
------------------------------------------------------------

/- What is known of an evaluation. -/
structure Evaluation.IsProper (spec : Evaluation) : Prop where
  knowledgeBase : Text.IsTrimmed spec.knowledgeBase
  testTable : spec.testTable.IsProper
  generation :
    ∀ g, spec.generation = some g → g.count.AtLeastOne
  saveTo : ∀ table, spec.saveTo = some table → table.IsProper
  effective :
    spec.evaluates = true ∨ spec.generation.isSome = true

theorem atLeastOne_of_generation?
    {args : Arguments}
    {g : Generation}
    (hGeneration : generation? args = .ok (some g)) :
    g.count.AtLeastOne := by
  unfold generation? at hGeneration
  split at hGeneration
  · simp only [bind_eq_ok_iff, pure_eq_ok_iff] at hGeneration
    rcases hGeneration with ⟨count, hCount, hSome⟩
    obtain rfl := Option.some.inj hSome
    exact Arguments.atLeastOne_of_count (by decide) hCount
  · cases hGeneration

theorem Evaluation.isProper_of_ofArguments
    {args : Arguments}
    {settings : Settings}
    {spec : Evaluation}
    (hSpec : ofArguments args settings = .ok spec) :
    spec.IsProper := by
  have hEffective := isEffective_evaluation hSpec
  rw [Request.isEffective, Bool.or_eq_true] at hEffective
  simp only [ofArguments, bind_eq_ok_iff] at hSpec
  rcases hSpec with ⟨version, -, hSpec⟩
  split at hSpec
  · cases hSpec
  · simp only [bind_eq_ok_iff] at hSpec
    rcases hSpec with
      ⟨name, hName, text, -, table, hTable, generation,
        hGeneration, hSpec⟩
    have hCount (g : Generation) (hSome : generation = some g) :
        g.count.AtLeastOne := by
      rw [hSome] at hGeneration
      exact atLeastOne_of_generation? hGeneration
    split at hSpec
    · obtain rfl := Except.ok.inj hSpec
      have hSave (ref : TableRef) (hSome : none = some ref) :
          ref.IsProper := by
        cases hSome
      exact
        { knowledgeBase := Arguments.isTrimmed_of_word hName
          testTable := TableRef.isProper_of_ofText hTable
          generation := hCount
          saveTo := hSave
          effective := hEffective }
    · simp only [bind_eq_ok_iff, pure_eq_ok_iff, map_eq_ok_iff]
        at hSpec
      rcases hSpec with ⟨_, ⟨saved, hSaved, rfl⟩, rfl⟩
      have hSave (ref : TableRef) (hSome : some saved = some ref) :
          ref.IsProper := by
        obtain rfl := Option.some.inj hSome
        exact TableRef.isProper_of_ofText hSaved
      exact
        { knowledgeBase := Arguments.isTrimmed_of_word hName
          testTable := TableRef.isProper_of_ofText hTable
          generation := hCount
          saveTo := hSave
          effective := hEffective }

------------------------------------------------------------
-- Models and Jobs
------------------------------------------------------------

/- What is known of a model to be trained. -/
structure NewModel.IsProper (spec : NewModel) : Prop where
  name : Text.IsTrimmed spec.ref.name
  predictColumn : Text.IsTrimmed spec.predictColumn

theorem NewModel.isProper_of_ofArguments
    {args : Arguments}
    {settings : Settings}
    {spec : NewModel}
    (hSpec : ofArguments args settings = .ok spec) :
    spec.IsProper := by
  simp only [ofArguments, bind_eq_ok_iff, pure_eq_ok_iff]
    at hSpec
  rcases hSpec with
    ⟨params, -, ref, hRef, query, -, column, hColumn, rfl⟩
  exact
    ⟨Arguments.isTrimmed_of_objectRef hRef,
      Arguments.isTrimmed_of_word hColumn⟩

/- What is known of a job. -/
structure NewJob.IsProper (spec : NewJob) : Prop where
  name : Text.IsTrimmed spec.ref.name
  someStatement : spec.statements ≠ []
  statements :
    ∀ statement ∈ spec.statements, Text.IsTrimmed statement
  schedule :
    ∀ schedule,
      spec.schedule = some schedule → schedule.IsProper

theorem isTrimmed_of_mem_jobStatements
    {args : Arguments}
    {statement : String}
    (hStatement : statement ∈ jobStatements args) :
    Text.IsTrimmed statement := by
  unfold jobStatements at hStatement
  rw [List.mem_filter, bne_iff_ne] at hStatement
  rcases List.mem_map.mp hStatement.1 with ⟨sql, -, rfl⟩
  refine ⟨hStatement.2, ?_⟩
  unfold Sql.withoutTerminator Text.trim
  rw [String.toList_ofList, Text.trimChars_trimChars]

theorem NewJob.isProper_of_ofArguments
    {args : Arguments}
    {spec : NewJob}
    (hSpec : ofArguments args = .ok spec) :
    spec.IsProper := by
  unfold ofArguments at hSpec
  dsimp only at hSpec
  split at hSpec
  · cases hSpec
  · rename_i hSome
    rw [List.isEmpty_iff] at hSome
    rcases bind_eq_ok_iff.mp hSpec with ⟨ref, hRef, hSpec⟩
    have hName := Arguments.isTrimmed_of_objectRef hRef
    split at hSpec
    · simp only [bind_eq_ok_iff, pure_eq_ok_iff, ok_bind]
        at hSpec
      rcases hSpec with ⟨start, -, finish, -, rfl⟩
      exact
        { name := hName
          someStatement := hSome
          statements := fun _ => isTrimmed_of_mem_jobStatements
          schedule := fun _ hNone => nomatch hNone }
    · simp only [bind_eq_ok_iff, pure_eq_ok_iff, map_eq_ok_iff]
        at hSpec
      rcases hSpec with
        ⟨_, ⟨found, hFound, rfl⟩, start, -, finish, -, rfl⟩
      have hSchedule
          (schedule : Schedule)
          (hSome : some found = some schedule) :
          schedule.IsProper := by
        obtain rfl := Option.some.inj hSome
        exact Schedule.isProper_of_ofText hFound
      exact
        { name := hName
          someStatement := hSome
          statements := fun _ => isTrimmed_of_mem_jobStatements
          schedule := hSchedule }

/- What is known of a job that keeps ingesting. -/
structure NewIngestJob.IsProper
    (spec : NewIngestJob) : Prop where
  name : Text.IsTrimmed spec.ref.name
  ingestion : spec.ingestion.IsProper
  schedule : spec.schedule.IsProper

theorem NewIngestJob.isProper_of_ofArguments
    {args : Arguments}
    {spec : NewIngestJob}
    (hSpec : ofArguments args = .ok spec) :
    spec.IsProper := by
  simp only [ofArguments, bind_eq_ok_iff, pure_eq_ok_iff]
    at hSpec
  rcases hSpec with
    ⟨ref, hRef, table, -, ingestion, hIngestion, schedule,
      hSchedule, rfl⟩
  exact
    { name := Arguments.isTrimmed_of_objectRef hRef
      ingestion := Ingestion.isProper_of_ofArguments hIngestion
      schedule := Schedule.isProper_of_ofText hSchedule }

------------------------------------------------------------
-- Requests
------------------------------------------------------------

theorem isTrimmed_of_jobInProject
    {args : Arguments}
    {settings : Settings}
    {ref : ObjectRef}
    (hRef : jobInProject args settings = .ok ref) :
    Text.IsTrimmed ref.name := by
  simp only [jobInProject, bind_eq_ok_iff, pure_eq_ok_iff]
    at hRef
  rcases hRef with ⟨name, hName, rfl⟩
  exact Arguments.isTrimmed_of_word hName

namespace Request

/- What is known of a request that was read. -/
def IsProper : Request → Prop
  | createKnowledgeBase spec => spec.IsProper
  | ingest spec => spec.IsProper
  | query spec => spec.IsProper
  | index knowledgeBase => Text.IsTrimmed knowledgeBase
  | listDatabases => True
  | createAgent spec => spec.IsProper
  | queryAgent agent _ => Text.IsTrimmed agent
  | evaluate spec => spec.IsProper
  | createModel spec => spec.IsProper
  | listModels _ => True
  | describeModel ref => Text.IsTrimmed ref.name
  | dropModel ref => Text.IsTrimmed ref.name
  | refreshModel ref => Text.IsTrimmed ref.name
  | runQuery _ => True
  | createJob spec => spec.IsProper
  | createIngestJob spec => spec.IsProper
  | listJobs _ => True
  | jobStatus ref => Text.IsTrimmed ref.name
  | jobHistory ref => Text.IsTrimmed ref.name
  | jobLogs ref limit =>
      Text.IsTrimmed ref.name ∧ limit.AtLeastOne
  | dropJob ref => Text.IsTrimmed ref.name
  | setUpHackernews datasource => Text.IsTrimmed datasource

/- Most requests are built from a single specification. -/
theorem isProper_of_bind
    {α : Type}
    {read : Except Problem α}
    {build : α → Request}
    {request : Request}
    (hRequest :
      (do
        let spec ← read
        return build spec) = .ok request)
    (hRead : ∀ spec, read = .ok spec → (build spec).IsProper) :
    request.IsProper := by
  simp only [bind_eq_ok_iff, pure_eq_ok_iff] at hRequest
  rcases hRequest with ⟨spec, hSpec, rfl⟩
  exact hRead spec hSpec

theorem isProper_of_ofArguments
    {op : Operation}
    {args : Arguments}
    {settings : Settings}
    {request : Request}
    (hRequest : ofArguments op args settings = .ok request) :
    request.IsProper := by
  cases op with
  | createKnowledgeBase =>
      apply isProper_of_bind hRequest
      exact fun _ => NewKnowledgeBase.isProper_of_ofArguments
  | ingest =>
      apply isProper_of_bind hRequest
      exact fun _ => Ingestion.isProper_of_ofArguments
  | query =>
      apply isProper_of_bind hRequest
      exact fun _ => Search.isProper_of_ofArguments
  | index =>
      apply isProper_of_bind hRequest
      exact fun _ => Arguments.isTrimmed_of_word
  | createAgent =>
      apply isProper_of_bind hRequest
      exact fun _ => NewAgent.isProper_of_ofArguments
  | queryAgent =>
      simp only [ofArguments, bind_eq_ok_iff, pure_eq_ok_iff]
        at hRequest
      rcases hRequest with ⟨agent, hAgent, question, -, rfl⟩
      exact Arguments.isTrimmed_of_word hAgent
  | evaluate =>
      apply isProper_of_bind hRequest
      exact fun _ => Evaluation.isProper_of_ofArguments
  | createModel =>
      apply isProper_of_bind hRequest
      exact fun _ => NewModel.isProper_of_ofArguments
  | describeModel | dropModel | refreshModel | dropJob =>
      apply isProper_of_bind hRequest
      exact fun _ => Arguments.isTrimmed_of_objectRef
  | runQuery =>
      apply isProper_of_bind hRequest
      exact fun _ _ => trivial
  | createJob =>
      apply isProper_of_bind hRequest
      exact fun _ => NewJob.isProper_of_ofArguments
  | createIngestJob =>
      apply isProper_of_bind hRequest
      exact fun _ => NewIngestJob.isProper_of_ofArguments
  | jobStatus | jobHistory =>
      apply isProper_of_bind hRequest
      exact fun _ => isTrimmed_of_jobInProject
  | jobLogs =>
      simp only [ofArguments, bind_eq_ok_iff, pure_eq_ok_iff]
        at hRequest
      rcases hRequest with ⟨ref, hRef, limit, hLimit, rfl⟩
      exact
        ⟨isTrimmed_of_jobInProject hRef,
          Arguments.atLeastOne_of_count (by decide) hLimit⟩
  | listDatabases | listModels | listJobs =>
      obtain rfl := Except.ok.inj hRequest
      exact trivial
  | setUpHackernews =>
      obtain rfl := Except.ok.inj hRequest
      exact Arguments.isTrimmed_getD (by decide +kernel)

/- The lists that the compiler asks for have entries. -/
theorem IsProper.hasLists
    {request : Request}
    (hProper : request.IsProper) :
    request.HasLists := by
  cases request with
  | ingest spec =>
      have hSpec : spec.IsProper := hProper
      exact hSpec.content.notEmpty
  | createIngestJob spec =>
      have hSpec : spec.IsProper := hProper
      exact hSpec.ingestion.content.notEmpty
  | createAgent spec =>
      have hSpec : spec.IsProper := hProper
      exact hSpec.knowledgeBases.notEmpty
  | createJob spec =>
      have hSpec : spec.IsProper := hProper
      exact hSpec.someStatement
  | _ => exact trivial

/-
  A request that was read is well-formed. When it is
  compiled, the only field that may be found missing is the
  SQL of the user, and only if it has no text but
  terminators.
-/
theorem ofArguments_contract
    {op : Operation}
    {args : Arguments}
    {settings : Settings}
    {request : Request}
    (hRequest : ofArguments op args settings = .ok request) :
    request.IsProper ∧
      ∀ (d : Sql.Dialect) (problem : Problem),
        request.compile d = .error problem →
          problem.kind = .missingRequiredField →
            request.HasNoSql := by
  have hProper := isProper_of_ofArguments hRequest
  refine ⟨hProper, ?_⟩
  intro d problem hProblem
  exact (failsWith_compile hProper.hasLists d).of_eq_error
    problem hProblem

/- Comments that a job ingests every two hours. -/
def commentsArguments : Arguments :=
  [("jobName", .text " refresh "), ("kbName", .text "kb"),
    ("hnTable", .text "comments"),
    ("contentColumns", .text "by, text"),
    ("limit", .text "+25"), ("orderBy", .text "time desc"),
    ("every", .text "every 2 hours")]

/- The job that ingests these comments. -/
def commentsJob : NewIngestJob where
  ref := { name := "refresh" }
  ingestion :=
    { knowledgeBase := "kb"
      source := { datasource := "hackernews", table := "comments" }
      columns :=
        { content := ["by", "text"]
          metadata :=
            [("id", "id"), ("by", "by"), ("parent", "parent"),
              ("time", "time")] }
      idColumn := "id"
      limit := .integer 25
      orderBy :=
        some { column := "time", direction := some .descending }
      ensureDatasource := true }
  schedule := { count := some (.integer 2), unit := .hour }

theorem ofArguments_comments :
    ofArguments .createIngestJob commentsArguments {} =
      .ok (createIngestJob commentsJob) := by
  have hJob :
      NewIngestJob.ofArguments commentsArguments =
        .ok commentsJob := by
    decide +kernel
  simp only [ofArguments, hJob, ok_bind]
  rfl

/- The job on comments is well-formed, and has its lists. -/
theorem ofArguments_contract_comments :
    ofArguments .createIngestJob commentsArguments {} =
        .ok (createIngestJob commentsJob) ∧
      (createIngestJob commentsJob).IsProper ∧
      ∀ (d : Sql.Dialect) (problem : Problem),
        (createIngestJob commentsJob).compile d =
            .error problem →
          problem.kind = .missingRequiredField →
            (createIngestJob commentsJob).HasNoSql :=
  ⟨ofArguments_comments,
    ofArguments_contract ofArguments_comments⟩

end Request

end KbConsole
