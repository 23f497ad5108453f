import KbConsole.Proofs.Result
import KbConsole.Proofs.Sql.Agent
import KbConsole.Proofs.Sql.Clause
import KbConsole.Proofs.Sql.Compiled

/-
  Statements keep their integrity: whatever texts a request
  carries, each of its statements is one statement to the
  server, with every quoted token closed.

  Key definitions include:
    * `Request.carriesSql`

  The main statement is `Request.compile_isSealed`.
-/

namespace KbConsole

namespace Sql

variable {d : Dialect}

------------------------------------------------------------
-- Compiled Statements
------------------------------------------------------------

theorem optionsNamed_columnsOption
    {name field : String}
    (hName : Fragment d name)
    {columns : Option (List String)}
    {options : List Assignment}
    (hOptions : columnsOption name field columns = .ok options) :
    OptionsNamed d options := by
  intro option hOption
  rw [name_of_columnsOption hOptions option hOption]
  exact hName

theorem optionsNamed_idOption
    {column : Option String}
    {options : List Assignment}
    (hOptions : idOption column = .ok options) :
    OptionsNamed d options := by
  intro option hOption
  rw [name_of_idOption hOptions option hOption]
  exact fragment_plain (by decide)

theorem optionsNamed_modelOptions
    {name : String}
    (hName : Fragment d name)
    (models : List Model) :
    OptionsNamed d (models.map (modelOption name)) := by
  intro option hMember
  rcases List.mem_map.mp hMember with ⟨model, _, rfl⟩
  exact hName

theorem isComposed_knowledgeBase
    {spec : NewKnowledgeBase}
    {s : Statement}
    (hStatement : knowledgeBaseStatement spec = .ok s) :
    s.IsComposed d := by
  simp only [knowledgeBaseStatement, bind_eq_ok_iff,
    pure_eq_ok_iff] at hStatement
  rcases hStatement with
    ⟨content, hContent, metadata, hMetadata, id, hId,
      name, _, rfl⟩
  have hContent : OptionsNamed d content :=
    optionsNamed_columnsOption
      (fragment_plain (by decide)) hContent
  have hMetadata : OptionsNamed d metadata :=
    optionsNamed_columnsOption
      (fragment_plain (by decide)) hMetadata
  have hReranking :
      OptionsNamed d
        (spec.reranking.toList.map
          (modelOption "reranking_model")) :=
    optionsNamed_modelOptions (fragment_plain (by decide)) _
  have hModels :
      OptionsNamed d
        (modelOption "embedding_model" spec.embedding ::
          spec.reranking.toList.map
            (modelOption "reranking_model")) :=
    OptionsNamed.cons (fragment_plain (by decide)) hReranking
  exact ((hModels.append hContent).append hMetadata).append
    (optionsNamed_idOption hId)

theorem isComposed_datasource
    {name : String}
    {s : Statement}
    (hStatement : datasourceStatement name = .ok s) :
    s.IsComposed d := by
  simp only [datasourceStatement, bind_eq_ok_iff,
    pure_eq_ok_iff] at hStatement
  rcases hStatement with ⟨name, _, rfl⟩
  trivial

/- The target columns have names of the console's own. -/
theorem fragment_of_mem_targets
    {spec : Ingestion}
    {targets : List String}
    {outputs : List Output}
    (hOutputs :
      ingestionOutputs d spec = .ok (targets, outputs)) :
    ∀ target ∈ targets, Fragment d target := by
  simp only [ingestionOutputs, bind_eq_ok_iff] at hOutputs
  rcases hOutputs with ⟨content, _, _, _, id, _, hOutputs⟩
  intro target hTarget
  split at hOutputs
  · simp only [bind_eq_ok_iff, pure_eq_ok_iff,
      Prod.mk.injEq] at hOutputs
    rcases hOutputs with ⟨members, _, rfl, _⟩
    simp only [List.mem_cons, List.not_mem_nil,
      or_false] at hTarget
    rcases hTarget with rfl | rfl | rfl
    · exact fragment_plain (by decide)
    · exact fragment_plain (by decide)
    · exact fragment_plain (by decide)
  · simp only [bind_eq_ok_iff, pure_eq_ok_iff,
      Prod.mk.injEq] at hOutputs
    rcases hOutputs with ⟨metadata, _, rfl, _⟩
    cases hTarget

theorem isComposed_insertion
    {incremental : Bool}
    {spec : Ingestion}
    {insertion : Insertion}
    (hInsertion :
      insertionOf d incremental spec = .ok insertion) :
    (Statement.insert insertion).IsComposed d := by
  simp only [insertionOf, bind_eq_ok_iff,
    pure_eq_ok_iff] at hInsertion
  rcases hInsertion with
    ⟨⟨targets, outputs⟩, hOutputs, _, _, _, _, _, _, _, _,
      _, _, rfl⟩
  exact fragment_of_mem_targets hOutputs

theorem isComposed_singleton
    {s : Statement}
    (hComposed : s.IsComposed d) :
    ∀ s' ∈ [s], s'.IsComposed d := by
  intro s' hMember
  rcases List.mem_singleton.mp hMember with rfl
  exact hComposed

theorem isComposed_ingestion
    {spec : Ingestion}
    {statements : List Statement}
    (hStatements :
      ingestionStatements d spec = .ok statements) :
    ∀ s ∈ statements, s.IsComposed d := by
  unfold ingestionStatements at hStatements
  split at hStatements
  · simp only [bind_eq_ok_iff, pure_eq_ok_iff] at hStatements
    rcases hStatements with
      ⟨datasource, hDatasource, insertion, hInsertion, rfl⟩
    intro s hMember
    rcases List.mem_pair.mp hMember with rfl | rfl
    · exact isComposed_datasource hDatasource
    · exact isComposed_insertion hInsertion
  · simp only [bind_eq_ok_iff, pure_eq_ok_iff] at hStatements
    rcases hStatements with ⟨insertion, hInsertion, rfl⟩
    exact isComposed_singleton (isComposed_insertion hInsertion)

theorem isComposed_ingestionJob
    {spec : NewIngestJob}
    {statements : List Statement}
    (hStatements :
      ingestionJobStatements d spec = .ok statements) :
    ∀ s ∈ statements, s.IsComposed d := by
  simp only [ingestionJobStatements, bind_eq_ok_iff,
    pure_eq_ok_iff] at hStatements
  rcases hStatements with
    ⟨insertion, hInsertion, datasource, hDatasource, name, _,
      rfl⟩
  intro s hMember
  rcases List.mem_pair.mp hMember with rfl | rfl
  · exact isComposed_datasource hDatasource
  · exact ⟨⟨insertion, rfl, isComposed_insertion hInsertion⟩,
      rfl⟩

theorem isComposed_search
    {spec : Search}
    {s : Statement}
    (hStatement : searchStatement d spec = .ok s) :
    s.IsComposed d := by
  simp only [searchStatement, bind_eq_ok_iff,
    pure_eq_ok_iff] at hStatement
  rcases hStatement with ⟨_, _, _, _, _, _, rfl⟩
  trivial

/- The named options have names that are plain texts. -/
theorem optionsNamed_namedOptions (spec : NewAgent) :
    OptionsNamed d (namedOptions spec) := by
  have hReserved : ∀ name ∈ reservedParams, Fragment d name := by
    intro name hName
    simp only [reservedParams, List.mem_cons,
      List.not_mem_nil, or_false] at hName
    rcases hName with rfl | rfl | rfl | rfl | rfl <;>
      exact fragment_plain (by decide)
  intro option hMember
  apply hReserved
  apply (names_namedOptions spec).subset
  exact List.mem_map_of_mem hMember

/- Parameters have safe names, whatever their values are. -/
theorem optionsNamed_agentParams
    {params : List (String × Json)}
    {options : List Assignment}
    (hOptions : params.mapM agentParam = .ok options) :
    OptionsNamed d options := by
  intro option hMember
  rcases exists_of_mem_mapM hOptions hMember with
    ⟨param, _, hParam⟩
  simp only [agentParam, bind_eq_ok_iff,
    pure_eq_ok_iff] at hParam
  rcases hParam with ⟨name, _, value, _, rfl⟩
  exact fragment_name name

theorem isComposed_agent
    {spec : NewAgent}
    {s : Statement}
    (hStatement : agentStatement spec = .ok s) :
    s.IsComposed d := by
  rcases agentStatement_eq_ok_iff.mp hStatement with
    ⟨-, -, -, options, hOptions, name, -, rfl⟩
  exact (optionsNamed_namedOptions spec).append
    (optionsNamed_agentParams hOptions)

theorem optionsNamed_saveOption
    {table : Option TableRef}
    {options : List Assignment}
    (hOptions : saveOption table = .ok options) :
    OptionsNamed d options := by
  intro option hOption
  rw [name_of_saveOption hOptions option hOption]
  exact fragment_plain (by decide)

theorem optionsNamed_generation
    {judge : List Assignment}
    (hJudge : OptionsNamed d judge)
    (table : TableName)
    (g : Generation) :
    OptionsNamed d (generationOptions table judge g) :=
  OptionsNamed.cons (fragment_plain (by decide))
    (OptionsNamed.cons (fragment_plain (by decide))
      (OptionsNamed.cons (fragment_plain (by decide)) hJudge))

theorem isComposed_evaluation
    {spec : Evaluation}
    {statements : List Statement}
    (hStatements : evaluationStatements spec = .ok statements) :
    ∀ s ∈ statements, s.IsComposed d := by
  rcases cases_of_evaluationStatements hStatements with
    ⟨name, table, -, -, hCases⟩
  have hJudge :
      OptionsNamed d
        (spec.judge.toList.map (modelOption "llm")) :=
    optionsNamed_modelOptions (fragment_plain (by decide)) _
  have hGeneration :
      ∀ s ∈ generationStatements spec name table,
        s.IsComposed d := by
    intro s hMember
    rcases List.mem_map.mp hMember with ⟨g, _, rfl⟩
    exact optionsNamed_generation hJudge table g
  rcases hCases with ⟨-, rfl⟩ | ⟨-, save, hSave, rfl⟩
  · exact hGeneration
  · intro s hMember
    rcases List.mem_append.mp hMember with hMember | hMember
    · exact hGeneration s hMember
    · rcases List.mem_singleton.mp hMember with rfl
      exact OptionsNamed.cons (fragment_plain (by decide))
        (OptionsNamed.cons (fragment_plain (by decide))
          (hJudge.append (optionsNamed_saveOption hSave)))

theorem isComposed_jobs
    {project : Option String}
    {s : Statement}
    (hStatement : jobsStatement project = .ok s) :
    s.IsComposed d := by
  simp only [jobsStatement, bind_eq_ok_iff] at hStatement
  rcases hStatement with ⟨project, _, hStatement⟩
  split at hStatement
  · rcases pure_eq_ok_iff.mp hStatement with rfl
    trivial
  · rcases pure_eq_ok_iff.mp hStatement with rfl
    trivial

theorem optionsNamed_modelSettings
    {spec : NewModel}
    (hParams :
      ∀ param ∈ spec.params,
        Identifier.isSafe param.1 = true) :
    OptionsNamed d
      ((modelSettings spec).map textAssignment) := by
  intro option hMember
  rcases List.mem_map.mp hMember with ⟨entry, hEntry, rfl⟩
  unfold modelSettings at hEntry
  rcases List.mem_append.mp hEntry with hEntry | hEntry
  · rcases List.mem_cons.mp hEntry with rfl | hEntry
    · exact fragment_plain (by decide)
    · rcases List.mem_map.mp hEntry with ⟨template, -, rfl⟩
      exact fragment_plain (by decide)
  · exact fragment_name ⟨entry.1, hParams entry hEntry⟩

/- A model's statement adds nothing open to its query. -/
theorem isBalanced_model
    {spec : NewModel}
    {s : Statement}
    (hStatement : modelStatement spec = .ok s)
    (hQuery : IsBalanced d (withoutTerminator spec.query)) :
    IsBalanced d (s.body d) := by
  rcases modelStatement_eq_ok_iff.mp hStatement with
    ⟨-, hParams, name, predict, -, -, rfl⟩
  exact isBalanced_createModel name hQuery predict
    (optionsNamed_modelSettings hParams)

end Sql

------------------------------------------------------------
-- Requests
------------------------------------------------------------

namespace Request

open Sql

/-
  Whether a request hands SQL of the user to the server: a
  query as it is, the statements of a job, or the query
  that a model is trained on.
-/
def carriesSql : Request → Bool
  | createModel _ => true
  | runQuery _ => true
  | createJob _ => true
  | _ => false

/- One statement that is built from what a step gives. -/
theorem isComposed_of_bind
    {d : Dialect}
    {α : Type}
    {first : Except Problem α}
    {build : α → Statement}
    {statements : List Statement}
    (hStatements :
      (first >>= fun value => pure [build value]) =
        .ok statements)
    (hBuild :
      ∀ value, first = .ok value → (build value).IsComposed d) :
    ∀ s ∈ statements, s.IsComposed d := by
  simp only [bind_eq_ok_iff, pure_eq_ok_iff] at hStatements
  rcases hStatements with ⟨value, hFirst, rfl⟩
  exact isComposed_singleton (hBuild value hFirst)

theorem isComposed_of_mem_statements
    {d : Dialect}
    {request : Request}
    (hOwn : request.carriesSql = false)
    {statements : List Statement}
    (hStatements : request.statements d = .ok statements) :
    ∀ s ∈ statements, s.IsComposed d := by
  cases request with
  | createKnowledgeBase spec =>
      exact isComposed_of_bind hStatements fun _ h =>
        isComposed_knowledgeBase h
  | ingest spec => exact isComposed_ingestion hStatements
  | query spec =>
      exact isComposed_of_bind hStatements fun _ h =>
        isComposed_search h
  | index name =>
      exact isComposed_of_bind hStatements fun _ _ => trivial
  | listDatabases =>
      rcases pure_eq_ok_iff.mp hStatements with rfl
      exact isComposed_singleton trivial
  | createAgent spec =>
      exact isComposed_of_bind hStatements fun _ h =>
        isComposed_agent h
  | queryAgent agent question =>
      exact isComposed_of_bind hStatements fun _ _ => trivial
  | evaluate spec => exact isComposed_evaluation hStatements
  | createModel spec => cases hOwn
  | listModels project =>
      exact isComposed_of_bind hStatements fun _ _ => trivial
  | describeModel ref =>
      exact isComposed_of_bind hStatements fun _ _ => trivial
  | dropModel ref =>
      exact isComposed_of_bind hStatements fun _ _ => trivial
  | refreshModel ref =>
      exact isComposed_of_bind hStatements fun _ _ => trivial
  | runQuery sql => cases hOwn
  | createJob spec => cases hOwn
  | createIngestJob spec =>
      exact isComposed_ingestionJob hStatements
  | listJobs project =>
      exact isComposed_of_bind hStatements fun _ h =>
        isComposed_jobs h
  | jobStatus ref =>
      simp only [Request.statements, bind_eq_ok_iff,
        pure_eq_ok_iff] at hStatements
      rcases hStatements with ⟨_, _, rfl⟩
      exact isComposed_singleton trivial
  | jobHistory ref =>
      simp only [Request.statements, bind_eq_ok_iff,
        pure_eq_ok_iff] at hStatements
      rcases hStatements with ⟨_, _, rfl⟩
      exact isComposed_singleton trivial
  | jobLogs ref limit =>
      simp only [Request.statements, bind_eq_ok_iff,
        pure_eq_ok_iff] at hStatements
      rcases hStatements with ⟨_, _, _, _, rfl⟩
      exact isComposed_singleton trivial
  | dropJob ref =>
      exact isComposed_of_bind hStatements fun _ _ => trivial
  | setUpHackernews datasource =>
      exact isComposed_of_bind hStatements fun _ h =>
        isComposed_datasource h

/-
  Each statement of a request is one statement, whatever
  texts the request carries. For a model this is so when its
  query closes its tokens and has no terminator in it.
-/
theorem compile_isSealed
    {d : Dialect}
    {request : Request}
    {texts : List String}
    (hCompile : request.compile d = .ok texts)
    {sql : String}
    (hMember : sql ∈ texts) :
    (request.carriesSql = false → IsSealed d sql) ∧
      ∀ spec, request = .createModel spec →
        IsBalanced d (withoutTerminator spec.query) →
          EndsOutside d sql ∧ EndsOnce d sql := by
  simp only [compile, bind_eq_ok_iff,
    pure_eq_ok_iff] at hCompile
  rcases hCompile with ⟨statements, hStatements, rfl⟩
  rcases List.mem_map.mp hMember with ⟨s, hStatement, rfl⟩
  constructor
  · intro hOwn
    exact (fragment_body
      (isComposed_of_mem_statements hOwn hStatements s
        hStatement)).isSealed
  · rintro spec rfl hQuery
    simp only [Request.statements, bind_eq_ok_iff,
      pure_eq_ok_iff] at hStatements
    rcases hStatements with ⟨s', hModel, rfl⟩
    rcases List.mem_singleton.mp hStatement with rfl
    exact (isBalanced_model hModel hQuery).terminated

/- A search and a model whose texts try to break out. -/
theorem compile_isSealed_hostile :
    IsSealed { escapesBackslash := true }
        ("SELECT * FROM kb WHERE content LIKE 'a''; --' AND " ++
          "\x60order\x60 = '\\\\'';#' LIMIT 5;") ∧
      EndsOutside {}
        ("CREATE MODEL m FROM (SELECT ';' FROM t) PREDICT p " ++
          "USING engine = '/*', e = ''';';") ∧
      EndsOnce {}
        ("CREATE MODEL m FROM (SELECT ';' FROM t) PREDICT p " ++
          "USING engine = '/*', e = ''';';") := by
  have hSearch :
      (Request.query
        { knowledgeBase := "kb"
          text := "a'; --"
          filter := [("order", .equals (.text "\\';#"))]
          limit := .integer 5 }).compile
        { escapesBackslash := true } =
      .ok
        ["SELECT * FROM kb WHERE content LIKE 'a''; --' AND " ++
          "\x60order\x60 = '\\\\'';#' LIMIT 5;"] := by
    decide +kernel
  have hModel :
      (Request.createModel
        { ref := { name := "m" }
          engine := "/*"
          query := " SELECT ';' FROM t ; "
          predictColumn := "p"
          params := [("e", "';")] }).compile {} =
      .ok
        ["CREATE MODEL m FROM (SELECT ';' FROM t) PREDICT p " ++
          "USING engine = '/*', e = ''';';"] := by
    decide +kernel
  have hQuery :
      IsBalanced {}
        (withoutTerminator " SELECT ';' FROM t ; ") := by
    decide +kernel
  exact
    ⟨(compile_isSealed hSearch (List.mem_singleton_self _)).1
        rfl,
      (compile_isSealed hModel (List.mem_singleton_self _)).2
        _ rfl hQuery⟩

end Request

end KbConsole
