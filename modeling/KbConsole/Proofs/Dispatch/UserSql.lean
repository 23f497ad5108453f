import KbConsole.Proofs.Dispatch.ModelOptions
import KbConsole.Proofs.Sql.Missing
import KbConsole.Proofs.Sql.Terminator

/-
  The SQL that a user writes, in the statements that are
  made of it.

  A query, the query of a model, the statements and the
  condition of a job, and the query that generates test data
  are all put into a statement without their terminators.
  Queries and the statements of a job are looked at again
  before they are used, and so they are never empty. The two
  other texts are not.

  Key definitions include:
    * `Sql.Statement.userSql`
    * `Operation.userSql`

  The main statements are `Request.userSql_contract` and
  `Request.emptySql_contract`. Both rest on
  `Request.userSql_of_prepare`.
-/

namespace KbConsole

------------------------------------------------------------
-- User Texts
------------------------------------------------------------

namespace Sql

/- The query among the nested options of test data. -/
def entrySql : String × Scalar → List String
  | ("from_sql", .text sql) => [sql]
  | _ => []

/- The SQL of the user in an option. -/
def Assignment.userSql (option : Assignment) : List String :=
  match option.value with
  | .literal (.members entries) =>
      if option.name = "generate_data" then
        entries.flatMap entrySql
      else
        []
  | _ => []

/- The SQL of the user in a job. -/
def JobDefinition.userSql (job : JobDefinition) : List String :=
  match job.body with
  | .statements texts => texts ++ job.condition.toList
  | .insertion _ => job.condition.toList

/- The SQL of the user in a statement, in order. -/
def Statement.userSql : Statement → List String
  | verbatim sql => [sql]
  | createModel _ query _ _ => [query]
  | createJob job => job.userSql
  | evaluate _ options => options.flatMap Assignment.userSql
  | _ => []

end Sql

open Sql

/- The operations that put SQL of the user into statements. -/
def Operation.takingSql : List Operation :=
  [.runQuery, .createModel, .createJob, .evaluate]

/-
  The SQL that is given to such an operation. Bare texts
  among the statements of a job do not count.
-/
def Operation.userSql
    (args : Arguments) : Operation → List String
  | runQuery => (args.text? "queryString").toList
  | createModel => (args.text? "selectDataQuery").toList
  | createJob =>
      (args.repeated "statements").filter
          (fun text => ¬ IsBare text) ++
        (args.text? "if").toList
  | evaluate => (args.text? "generateFromSql").toList
  | _ => []

------------------------------------------------------------
-- Jobs
------------------------------------------------------------

/- Bare texts are left out of a job. -/
theorem jobStatements_eq (args : Arguments) :
    jobStatements args =
      ((args.repeated "statements").filter
        (fun text => ¬ IsBare text)).map
          withoutTerminator := by
  unfold jobStatements
  rw [List.filter_map]
  apply congrArg (List.map withoutTerminator)
  apply List.filter_congr
  intro text _
  rw [Function.comp_apply, Bool.eq_iff_iff, bne_iff_ne,
    decide_eq_true_iff, ← withoutTerminator_eq_empty_iff]

theorem empty_notMem_jobStatements (args : Arguments) :
    "" ∉ jobStatements args := by
  simp [jobStatements]

/- What a job takes from the arguments. -/
theorem NewJob.fields_of_ofArguments
    {args : Arguments}
    {spec : NewJob}
    (hSpec : ofArguments args = .ok spec) :
    spec.statements = jobStatements args ∧
      spec.condition = args.text? "if" := by
  unfold ofArguments at hSpec
  dsimp only at hSpec
  split at hSpec
  · cases hSpec
  · rcases bind_eq_ok_iff.mp hSpec with ⟨_, _, hSpec⟩
    split at hSpec
    · simp only [bind_eq_ok_iff, pure_eq_ok_iff, ok_bind]
        at hSpec
      rcases hSpec with ⟨_, _, _, _, rfl⟩
      exact ⟨rfl, rfl⟩
    · simp only [bind_eq_ok_iff, pure_eq_ok_iff] at hSpec
      rcases hSpec with ⟨_, _, _, _, _, _, rfl⟩
      exact ⟨rfl, rfl⟩

------------------------------------------------------------
-- Evaluations
------------------------------------------------------------

/- What an evaluation takes to generate test data from. -/
theorem Evaluation.fromSql_of_ofArguments
    {args : Arguments}
    {settings : Settings}
    {spec : Evaluation}
    (hSpec : ofArguments args settings = .ok spec) :
    spec.generation.bind Generation.fromSql =
      args.text? "generateFromSql" := by
  rcases tasks_of_ofArguments hSpec with ⟨hGeneration, -, -⟩
  unfold generation? at hGeneration
  split at hGeneration
  · simp only [bind_eq_ok_iff, pure_eq_ok_iff] at hGeneration
    rcases hGeneration with ⟨count, -, hSome⟩
    rw [← hSome]
    rfl
  · rename_i hAsks
    rw [← Except.ok.inj hGeneration]
    cases hText : args.text? "generateFromSql" with
    | none => rfl
    | some text => simp [asksForGeneration, hText] at hAsks

namespace Sql

theorem userSql_generationOptions
    (table : TableName)
    (judge : List Assignment)
    (g : Generation) :
    (generationOptions table judge g).flatMap
        Assignment.userSql =
      ((given? g.fromSql).map withoutTerminator).toList ++
        judge.flatMap Assignment.userSql := by
  have hEntries :
      (generationEntries g).flatMap entrySql =
        ((given? g.fromSql).map withoutTerminator).toList := by
    unfold generationEntries
    cases given? g.fromSql with
    | none => rfl
    | some sql => rfl
  rw [← hEntries]
  simp [generationOptions, Assignment.userSql,
    Assignment.literal]

theorem userSql_judge (judge : Option Model) :
    (judge.toList.map (modelOption "llm")).flatMap
        Assignment.userSql =
      [] := by
  cases judge with
  | none => rfl
  | some m => rfl

theorem userSql_saveOption
    {table : Option TableRef}
    {options : List Assignment}
    (hOptions : saveOption table = .ok options) :
    options.flatMap Assignment.userSql = [] := by
  rw [List.flatMap_eq_nil_iff]
  intro option hOption
  rcases exists_of_mem_saveOption hOptions option hOption with
    ⟨table, rfl⟩
  rfl

/- Only test data are generated from the SQL of the user. -/
theorem userSql_evaluationStatements
    {spec : Evaluation}
    {statements : List Statement}
    (hStatements : evaluationStatements spec = .ok statements) :
    statements.flatMap Statement.userSql =
      ((given?
          (spec.generation.bind Generation.fromSql)).map
        withoutTerminator).toList := by
  rcases cases_of_evaluationStatements hStatements with
    ⟨name, table, -, -, hCases⟩
  have hGeneration :
      (generationStatements spec name table).flatMap
          Statement.userSql =
        ((given?
            (spec.generation.bind Generation.fromSql)).map
          withoutTerminator).toList := by
    unfold generationStatements
    cases spec.generation with
    | none => rfl
    | some g =>
        have hOptions :=
          userSql_generationOptions table
            (spec.judge.toList.map (modelOption "llm")) g
        rw [userSql_judge, List.append_nil] at hOptions
        simpa [Statement.userSql] using hOptions
  rcases hCases with ⟨-, rfl⟩ | ⟨-, save, hSave, rfl⟩
  · exact hGeneration
  · rw [List.flatMap_append, hGeneration]
    simp [Statement.userSql, scoreOptions, Assignment.userSql,
      Assignment.literal, userSql_judge,
      userSql_saveOption hSave]

end Sql

------------------------------------------------------------
-- Prepared Statements
------------------------------------------------------------

namespace Request

variable {op : Operation}
variable {args : Arguments}
variable {settings : Settings}
variable {d : Dialect}
variable {request : Request}
variable {texts : List String}

/- A query that is read and not bare. -/
theorem prepare_runQuery_eq_ok
    (hPrepare :
      prepare .runQuery args settings d =
        .ok (request, texts)) :
    ∃ raw,
      args.text? "queryString" = some raw ∧
        withoutTerminator raw ≠ "" ∧
        request.statements d =
          .ok [.verbatim (withoutTerminator raw)] ∧
        texts = [withoutTerminator raw ++ ";"] := by
  rcases prepare_eq_ok_iff.mp hPrepare with
    ⟨hRequest, statements, hStatements, rfl⟩
  simp only [ofArguments, bind_eq_ok_iff, pure_eq_ok_iff,
    Arguments.text, Arguments.demand_eq_ok_iff] at hRequest
  rcases hRequest with ⟨raw, hRaw, rfl⟩
  have hBuilt := hStatements
  simp only [Request.statements, bind_eq_ok_iff,
    pure_eq_ok_iff, queryOf_eq_ok_iff] at hBuilt
  rcases hBuilt with ⟨query, ⟨hSome, rfl⟩, rfl⟩
  exact ⟨raw, hRaw, hSome, hStatements, rfl⟩

/- A job and what it takes from the SQL of the user. -/
theorem prepare_createJob_eq_ok
    (hPrepare :
      prepare .createJob args settings d =
        .ok (request, texts)) :
    ∃ job,
      request.statements d = .ok [.createJob job] ∧
        texts = [(Statement.createJob job).text d] ∧
        job.body = .statements (jobStatements args) ∧
        job.condition =
          (args.text? "if").map withoutTerminator := by
  rcases prepare_eq_ok_iff.mp hPrepare with
    ⟨hRequest, statements, hStatements, rfl⟩
  simp only [ofArguments, bind_eq_ok_iff, pure_eq_ok_iff]
    at hRequest
  rcases hRequest with ⟨spec, hSpec, rfl⟩
  rcases NewJob.fields_of_ofArguments hSpec with
    ⟨hTexts, hCondition⟩
  have hBuilt := hStatements
  simp only [Request.statements, bind_eq_ok_iff,
    pure_eq_ok_iff] at hBuilt
  rcases hBuilt with ⟨s, hStatement, rfl⟩
  rcases jobStatement_eq_ok_iff.mp hStatement with
    ⟨-, name, -, rfl⟩
  refine ⟨_, hStatements, rfl, ?_, ?_⟩
  · rw [hTexts]
  · rw [hCondition, Arguments.given?_text?]

/-
  The SQL of the user in the prepared statements is the one
  that was given, each text without its terminator.
-/
theorem userSql_of_prepare
    (hOp : op ∈ Operation.takingSql)
    (hPrepare :
      prepare op args settings d = .ok (request, texts)) :
    ∃ statements,
      request.statements d = .ok statements ∧
        statements.map (Statement.text d) = texts ∧
        statements.flatMap Statement.userSql =
          (op.userSql args).map withoutTerminator := by
  cases op with
  | runQuery =>
      rcases prepare_runQuery_eq_ok hPrepare with
        ⟨raw, hRaw, -, hStatements, rfl⟩
      refine ⟨_, hStatements, rfl, ?_⟩
      simp [Operation.userSql, Statement.userSql, hRaw]
  | createModel =>
      rcases prepare_createModel_eq_ok hPrepare with
        ⟨spec, s, hSpec, hStatement, hStatements, rfl⟩
      rcases NewModel.ofArguments_eq_ok_iff.mp hSpec with
        ⟨given, hRead⟩
      rcases modelStatement_eq_ok_iff.mp hStatement with
        ⟨-, -, name, predict, -, -, rfl⟩
      refine ⟨_, hStatements, rfl, ?_⟩
      simp [Operation.userSql, Statement.userSql, hRead.query]
  | createJob =>
      rcases prepare_createJob_eq_ok hPrepare with
        ⟨job, hStatements, rfl, hBody, hCondition⟩
      refine ⟨_, hStatements, rfl, ?_⟩
      rw [Operation.userSql, List.map_append,
        ← jobStatements_eq]
      simp [Statement.userSql, JobDefinition.userSql, hBody,
        hCondition, Option.toList_map]
  | evaluate =>
      rcases prepare_eq_ok_iff.mp hPrepare with
        ⟨hRequest, statements, hStatements, rfl⟩
      simp only [ofArguments, bind_eq_ok_iff, pure_eq_ok_iff]
        at hRequest
      rcases hRequest with ⟨spec, hSpec, rfl⟩
      refine ⟨statements, hStatements, rfl, ?_⟩
      rw [userSql_evaluationStatements hStatements,
        Evaluation.fromSql_of_ofArguments hSpec,
        Arguments.given?_text?, Option.toList_map]
      rfl
  | _ => exact absurd hOp (by decide)

/- Each of these texts was cut from one that was given. -/
theorem forall₂_isCutFrom_of_prepare
    (hOp : op ∈ Operation.takingSql)
    (hPrepare :
      prepare op args settings d = .ok (request, texts)) :
    ∃ statements,
      request.statements d = .ok statements ∧
        statements.map (Statement.text d) = texts ∧
        List.Forall₂ IsCutFrom (op.userSql args)
          (statements.flatMap Statement.userSql) := by
  rcases userSql_of_prepare hOp hPrepare with
    ⟨statements, hStatements, hTexts, hSql⟩
  refine ⟨statements, hStatements, hTexts, ?_⟩
  rw [hSql]
  exact forall₂_isCutFrom _

/- A stray semicolon among the statements of a job is left. -/
theorem isTerminated_jobStatements_iff (args : Arguments) :
    (∃ sql ∈ jobStatements args, IsTerminated sql) ↔
      ∃ raw ∈ args.repeated "statements",
        HasStrayTerminator raw := by
  rw [jobStatements_eq]
  constructor
  · rintro ⟨sql, hSql, hLast⟩
    rcases List.mem_map.mp hSql with ⟨raw, hRaw, rfl⟩
    exact
      ⟨raw, (List.mem_filter.mp hRaw).1,
        stray_of_isTerminated hLast⟩
  · rintro ⟨raw, hRaw, hStray⟩
    -- A text with a stray semicolon is not left out of the job.
    have hFilled : ¬ IsBare raw := fun hBare =>
      hBare.notStray hStray
    refine
      ⟨withoutTerminator raw, List.mem_map_of_mem ?_,
        isTerminated_of_stray hStray⟩
    exact List.mem_filter.mpr ⟨hRaw, decide_eq_true hFilled⟩

------------------------------------------------------------
-- Missing Texts
------------------------------------------------------------

/-
  A text without which there is no request, and which must
  not be bare, is found missing when it is bare.
-/
theorem prepare_missing_iff
    {raw : String}
    (hBlank :
      Text.isVoid raw = true →
        ∃ problem,
          ofArguments op args settings = .error problem ∧
            problem.kind = .missingRequiredField)
    (hFilled :
      Text.isVoid raw = false →
        ∃ request,
          ofArguments op args settings = .ok request ∧
            request.HasLists ∧
            (request.HasNoSql ↔ withoutTerminator raw = ""))
    (d : Dialect) :
    (∃ problem,
      prepare op args settings d = .error problem ∧
        problem.kind = .missingRequiredField) ↔
      IsBare raw := by
  -- A blank text is missed when it is read, and any other one
  -- when it is compiled.
  cases hVoid : Text.isVoid raw with
  | true =>
      rcases hBlank hVoid with ⟨problem, hProblem, hKind⟩
      have hPrepare :
          prepare op args settings d = .error problem :=
        prepare_eq_error_iff.mpr (Or.inl hProblem)
      exact
        ⟨fun _ => isBare_of_isVoid hVoid,
          fun _ => ⟨problem, hPrepare, hKind⟩⟩
  | false =>
      rcases hFilled hVoid with
        ⟨request, hRequest, hLists, hSql⟩
      rw [← withoutTerminator_eq_empty_iff, ← hSql,
        ← statements_missing_iff hLists d]
      simp [prepare_eq_error_iff, hRequest]

theorem prepare_runQuery_missing_iff
    {raw : String}
    (hRaw : Keyed.get? "queryString" args = some (.text raw))
    (settings : Settings)
    (d : Dialect) :
    (∃ problem,
      prepare .runQuery args settings d = .error problem ∧
        problem.kind = .missingRequiredField) ↔
      IsBare raw := by
  have hText := Arguments.text?_of_get? hRaw
  apply prepare_missing_iff
  · intro hVoid
    rw [if_pos hVoid] at hText
    refine ⟨.missing "query_string", ?_, rfl⟩
    simp only [ofArguments, Arguments.text, hText]
    rfl
  · intro hVoid
    rw [if_neg (by simp [hVoid])] at hText
    refine ⟨.runQuery raw, ?_, trivial, Iff.rfl⟩
    simp only [ofArguments, Arguments.text, hText]
    rfl

theorem prepare_createModel_missing_iff
    {raw name column : String}
    (hRaw :
      Keyed.get? "selectDataQuery" args = some (.text raw))
    (hName : args.word? "modelName" = some name)
    (hColumn : args.word? "predictColumn" = some column)
    (hParams :
      ∀ text ∈ args.repeated "param",
        ¬ Parameter.IsMalformed text)
    (settings : Settings)
    (d : Dialect) :
    (∃ problem,
      prepare .createModel args settings d = .error problem ∧
        problem.kind = .missingRequiredField) ↔
      IsBare raw := by
  have hText := Arguments.text?_of_get? hRaw
  apply prepare_missing_iff
  · intro hVoid
    rw [if_pos hVoid] at hText
    rcases NewModel.exists_ofArguments_eq_missing hText hParams
        settings with ⟨problem, hProblem, hKind⟩
    refine ⟨problem, ?_, hKind⟩
    rw [ofArguments_createModel, hProblem]
    rfl
  · intro hVoid
    rw [if_neg (by simp [hVoid])] at hText
    rcases NewModel.exists_ofArguments hName hText hColumn
        hParams settings with ⟨spec, hSpec⟩
    rcases NewModel.ofArguments_eq_ok_iff.mp hSpec with
      ⟨given, hRead⟩
    have hQuery := hRead.query
    rw [hText] at hQuery
    obtain rfl := Option.some.inj hQuery
    refine ⟨.createModel spec, ?_, trivial, Iff.rfl⟩
    rw [ofArguments_createModel, hSpec]
    rfl

------------------------------------------------------------
-- Contracts
------------------------------------------------------------

/-
  Each text is put into its statement without blanks around
  it, and without a semicolon at its end unless one was
  stray. A query and the query of a model are missing
  exactly when they are bare.
-/
theorem userSql_contract
    (settings : Settings)
    (d : Dialect) :
    (∀ op ∈ Operation.takingSql,
      ∀ args request texts,
        prepare op args settings d = .ok (request, texts) →
          ∃ statements,
            request.statements d = .ok statements ∧
              statements.map (Statement.text d) = texts ∧
              List.Forall₂ IsCutFrom (op.userSql args)
                (statements.flatMap Statement.userSql)) ∧
    (∀ args request texts,
      prepare .runQuery args settings d =
          .ok (request, texts) →
        ∃ raw sql,
          args.text? "queryString" = some raw ∧
            texts = [sql ++ ";"] ∧
            sql ≠ "" ∧
            (IsTerminated sql ↔ HasStrayTerminator raw)) ∧
    (∀ args request texts,
      prepare .createJob args settings d =
          .ok (request, texts) →
        ∃ job statements,
          request.statements d = .ok [.createJob job] ∧
            job.body = .statements statements ∧
            "" ∉ statements ∧
            ((∃ sql ∈ statements, IsTerminated sql) ↔
              ∃ raw ∈ args.repeated "statements",
                HasStrayTerminator raw)) ∧
    (∀ args raw,
      Keyed.get? "queryString" args = some (.text raw) →
        ((∃ problem,
          prepare .runQuery args settings d =
              .error problem ∧
            problem.kind = .missingRequiredField) ↔
          IsBare raw)) ∧
    ∀ (args : Arguments) raw name column,
      Keyed.get? "selectDataQuery" args = some (.text raw) →
        args.word? "modelName" = some name →
          args.word? "predictColumn" = some column →
            (∀ text ∈ args.repeated "param",
              ¬ Parameter.IsMalformed text) →
              ((∃ problem,
                prepare .createModel args settings d =
                    .error problem ∧
                  problem.kind = .missingRequiredField) ↔
                IsBare raw) := by
  refine ⟨?_, ?_, ?_, ?_, ?_⟩
  · intro op hOp args request texts hPrepare
    exact forall₂_isCutFrom_of_prepare hOp hPrepare
  · intro args request texts hPrepare
    rcases prepare_runQuery_eq_ok hPrepare with
      ⟨raw, hRaw, hSome, -, hTexts⟩
    exact
      ⟨raw, withoutTerminator raw, hRaw, hTexts, hSome,
        (isCutFrom_withoutTerminator raw).terminated⟩
  · intro args request texts hPrepare
    rcases prepare_createJob_eq_ok hPrepare with
      ⟨job, hStatements, -, hBody, -⟩
    exact
      ⟨job, jobStatements args, hStatements, hBody,
        empty_notMem_jobStatements args,
        isTerminated_jobStatements_iff args⟩
  · intro args raw hRaw
    exact prepare_runQuery_missing_iff hRaw settings d
  · intro args raw name column hRaw hName hColumn hParams
    exact
      prepare_createModel_missing_iff hRaw hName hColumn
        hParams settings d

/-
  A job whose second statement has a stray semicolon and
  whose third one is bare, a query that is sent, and a query
  and a model without any SQL.
-/
theorem userSql_contract_tails :
    let job : Arguments :=
      [("jobName", .text "j"),
        ("statements", .texts ["SELECT 1 ;; ", "; ;", " ;"]),
        ("if", .text "SELECT 2;")]
    let query : Arguments :=
      [("queryString", .text " SELECT 1;\n")]
    let bareQuery : Arguments := [("queryString", .text " ;;")]
    let bareModel : Arguments :=
      [("modelName", .text "m"), ("predictColumn", .text "y"),
        ("selectDataQuery", .text ";"),
        ("param", .texts ["a=b"])]
    ((prepare .createJob job {} {}).map Prod.snd =
        .ok ["CREATE JOB j (SELECT 1; ;) IF (SELECT 2);"] ∧
      ∃ statements : List Statement,
        statements.map (Statement.text {}) =
            ["CREATE JOB j (SELECT 1; ;) IF (SELECT 2);"] ∧
          List.Forall₂ IsCutFrom
            ["SELECT 1 ;; ", "; ;", "SELECT 2;"]
            (statements.flatMap Statement.userSql)) ∧
    ((∃ request,
      prepare .runQuery query {} {} =
        .ok (request, ["SELECT 1;"])) ∧
      ∃ sql,
        ["SELECT 1;"] = [sql ++ ";"] ∧ sql ≠ "" ∧
          ¬ IsTerminated sql) ∧
    (∃ statements : List String,
      "" ∉ statements ∧
        ∃ sql ∈ statements, IsTerminated sql) ∧
    (∃ problem,
      prepare .runQuery bareQuery {} {} = .error problem ∧
        problem.kind = .missingRequiredField) ∧
    ∃ problem,
      prepare .createModel bareModel {} {} = .error problem ∧
        problem.kind = .missingRequiredField := by
  intro job query bareQuery bareModel
  rcases userSql_contract {} {} with
    ⟨hCut, hQuery, hJob, hNoQuery, hNoModel⟩
  have hJobText :
      (prepare .createJob job {} {}).map Prod.snd =
        .ok ["CREATE JOB j (SELECT 1; ;) IF (SELECT 2);"] := by
    decide +kernel
  have hQueryText :
      (prepare .runQuery query {} {}).map Prod.snd =
        .ok ["SELECT 1;"] := by
    decide +kernel
  rcases map_eq_ok_iff.mp hJobText with
    ⟨⟨jobRequest, _⟩, hJobPrepare, hTexts⟩
  obtain rfl := hTexts
  rcases map_eq_ok_iff.mp hQueryText with
    ⟨⟨queryRequest, _⟩, hQueryPrepare, hTexts⟩
  obtain rfl := hTexts
  refine ⟨⟨hJobText, ?_⟩, ⟨⟨_, hQueryPrepare⟩, ?_⟩, ?_, ?_, ?_⟩
  · rcases hCut .createJob (by decide) job jobRequest _
        hJobPrepare with ⟨statements, -, hTexts, hSql⟩
    have hGiven :
        Operation.userSql job .createJob =
          ["SELECT 1 ;; ", "; ;", "SELECT 2;"] := by
      decide +kernel
    rw [hGiven] at hSql
    exact ⟨statements, hTexts, hSql⟩
  · rcases hQuery query queryRequest _ hQueryPrepare with
      ⟨raw, sql, hRaw, hText, hSome, hStray⟩
    refine ⟨sql, hText, hSome, ?_⟩
    have hGiven :
        query.text? "queryString" = some " SELECT 1;\n" := by
      decide +kernel
    rw [hGiven] at hRaw
    obtain rfl := Option.some.inj hRaw
    rw [hStray]
    decide
  · rcases hJob job jobRequest _ hJobPrepare with
      ⟨_, statements, -, -, hNotEmpty, hStray⟩
    refine ⟨statements, hNotEmpty, hStray.mpr ⟨"; ;", ?_⟩⟩
    decide +kernel
  · exact (hNoQuery bareQuery " ;;" (by decide)).mpr (by decide)
  · have hParams :
        ∀ text ∈ bareModel.repeated "param",
          ¬ Parameter.IsMalformed text :=
      Parameter.exists_listOfTexts_iff.mp
        ⟨[("a", "b")], by decide⟩
    exact
      (hNoModel bareModel ";" "m" "y" (by decide)
        (by decide +kernel) (by decide +kernel) hParams).mpr
          (by decide)

/- A query may be sent with two semicolons at its end. -/
theorem not_singleTerminator :
    ¬ ∀ (args : Arguments) (settings : Settings)
        (d : Dialect) (request : Request)
        (texts : List String),
      prepare .runQuery args settings d =
          .ok (request, texts) →
        ∃ sql, texts = [sql ++ ";"] ∧ ¬ IsTerminated sql := by
  intro hSingle
  have hTexts :
      (prepare .runQuery
          [("queryString", .text "SELECT 1; ;")] {} {}).map
          Prod.snd =
        .ok ["SELECT 1;" ++ ";"] := by
    decide +kernel
  rcases map_eq_ok_iff.mp hTexts with
    ⟨⟨request, texts⟩, hPrepare, hEq⟩
  rcases hSingle _ _ _ _ _ hPrepare with
    ⟨sql, hSql, hFinal⟩
  have hSame : ["SELECT 1;" ++ ";"] = [sql ++ ";"] :=
    hEq.symm.trans hSql
  obtain rfl : "SELECT 1;" = sql :=
    (String.append_left_inj ";").mp (List.cons.inj hSame).1
  exact hFinal (by decide)

/-
  The condition of a job and the query for test data were
  cut from the texts given for them, and are empty exactly
  when these are bare.
-/
theorem emptySql_contract
    (settings : Settings)
    (d : Dialect) :
    (∀ args request texts,
      prepare .createJob args settings d =
          .ok (request, texts) →
        ∃ job,
          request.statements d = .ok [.createJob job] ∧
            texts = [(Statement.createJob job).text d] ∧
            Option.Rel IsCutFrom (args.text? "if")
              job.condition ∧
            (job.conditionClause = " IF ()" ↔
              ∃ raw,
                args.text? "if" = some raw ∧ IsBare raw)) ∧
    ∀ args request texts,
      prepare .evaluate args settings d =
          .ok (request, texts) →
        ∃ statements,
          request.statements d = .ok statements ∧
            statements.map (Statement.text d) = texts ∧
            List.Forall₂ IsCutFrom
              (args.text? "generateFromSql").toList
              (statements.flatMap Statement.userSql) ∧
            ((∃ s ∈ statements, "" ∈ s.userSql) ↔
              ∃ raw,
                args.text? "generateFromSql" = some raw ∧
                  IsBare raw) := by
  constructor
  · intro args request texts hPrepare
    rcases prepare_createJob_eq_ok hPrepare with
      ⟨job, hStatements, hTexts, -, hCondition⟩
    refine ⟨job, hStatements, hTexts, ?_, ?_⟩
    · rw [hCondition]
      cases args.text? "if" with
      | none => exact .none
      | some raw =>
          exact .some (isCutFrom_withoutTerminator raw)
    · have hClause : " IF (" ++ "" ++ ")" = " IF ()" := by
        decide
      rw [← hClause, job.conditionClause_eq_iff, hCondition,
        Option.map_eq_some_iff]
      simp only [withoutTerminator_eq_empty_iff]
  · intro args request texts hPrepare
    have hOp : Operation.evaluate ∈ Operation.takingSql := by
      decide
    rcases userSql_of_prepare hOp hPrepare with
      ⟨statements, hStatements, hTexts, hSql⟩
    refine ⟨statements, hStatements, hTexts, ?_, ?_⟩
    · rw [hSql]
      exact forall₂_isCutFrom _
    · rw [← List.mem_flatMap, hSql, Operation.userSql,
        List.mem_map]
      simp only [Option.mem_toList,
        withoutTerminator_eq_empty_iff]

/- A bare condition, and test data from a bare query. -/
theorem emptySql_contract_bare :
    let job : Arguments :=
      [("jobName", .text "j"),
        ("statements", .texts ["SELECT 1"]),
        ("if", .text ";")]
    let evaluation : Arguments :=
      [("kbName", .text "kb"), ("testTable", .text "ds.t"),
        ("generateFromSql", .text " ;; "),
        ("evaluate", .flag false)]
    let generated : String :=
      "EVALUATE KNOWLEDGE_BASE kb USING test_table = ds.t, " ++
        "generate_data = \x7b\"from_sql\": \"\", " ++
        "\"count\": 100\x7d, evaluate = false;"
    ((prepare .createJob job {} {}).map Prod.snd =
        .ok ["CREATE JOB j (SELECT 1) IF ();"] ∧
      ∃ created : JobDefinition,
        ["CREATE JOB j (SELECT 1) IF ();"] =
            [(Statement.createJob created).text {}] ∧
          created.conditionClause = " IF ()") ∧
    (prepare .evaluate evaluation {} {}).map Prod.snd =
        .ok [generated] ∧
      ∃ statements : List Statement,
        statements.map (Statement.text {}) = [generated] ∧
          ∃ s ∈ statements, "" ∈ s.userSql := by
  intro job evaluation generated
  rcases emptySql_contract {} {} with ⟨hJobs, hEvaluations⟩
  have hJobText :
      (prepare .createJob job {} {}).map Prod.snd =
        .ok ["CREATE JOB j (SELECT 1) IF ();"] := by
    decide +kernel
  have hEvaluationText :
      (prepare .evaluate evaluation {} {}).map Prod.snd =
        .ok [generated] := by
    decide +kernel
  refine ⟨⟨hJobText, ?_⟩, hEvaluationText, ?_⟩
  · rcases map_eq_ok_iff.mp hJobText with
      ⟨⟨request, _⟩, hPrepare, hTexts⟩
    obtain rfl := hTexts
    rcases hJobs job request _ hPrepare with
      ⟨created, -, hText, -, hClause⟩
    refine ⟨created, hText, hClause.mpr ⟨";", ?_, ?_⟩⟩
    · decide +kernel
    · decide
  · rcases map_eq_ok_iff.mp hEvaluationText with
      ⟨⟨request, _⟩, hPrepare, hTexts⟩
    obtain rfl := hTexts
    rcases hEvaluations evaluation request _ hPrepare with
      ⟨statements, -, hText, -, hEmpty⟩
    refine ⟨statements, hText, hEmpty.mpr ⟨" ;; ", ?_, ?_⟩⟩
    · decide +kernel
    · decide

/- A job may be created with nothing as its condition. -/
theorem not_filledCondition :
    ¬ ∀ (args : Arguments) (settings : Settings)
        (d : Dialect) (request : Request)
        (texts : List String) (job : JobDefinition),
      prepare .createJob args settings d =
          .ok (request, texts) →
        request.statements d = .ok [.createJob job] →
          job.conditionClause ≠ " IF ()" := by
  intro hFilled
  let args : Arguments :=
    [("jobName", .text "j"),
      ("statements", .texts ["SELECT 1"]),
      ("if", .text ";")]
  have hTexts :
      (prepare .createJob args {} {}).map Prod.snd =
        .ok ["CREATE JOB j (SELECT 1) IF ();"] := by
    decide +kernel
  rcases map_eq_ok_iff.mp hTexts with
    ⟨⟨request, texts⟩, hPrepare, -⟩
  rcases prepare_createJob_eq_ok hPrepare with
    ⟨job, hStatements, -, -, hCondition⟩
  have hNone :
      (args.text? "if").map withoutTerminator = some "" := by
    decide +kernel
  apply hFilled _ _ _ _ _ job hPrepare hStatements
  unfold JobDefinition.conditionClause
  rw [hCondition, hNone]
  decide

end Request

end KbConsole
