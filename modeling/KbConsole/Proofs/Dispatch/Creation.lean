import KbConsole.Proofs.Dispatch.Contract
import KbConsole.Proofs.Sql.Agent
import KbConsole.Proofs.Sql.Compiled
import KbConsole.Proofs.Sql.Creation

/-
  Objects that are there already: which statements of a
  request create an object, what it is called, and how it is
  reported that the server has it.

  Key definitions include:
    * `Request.creations`
    * `Request.firstQuoted`
    * `ReportsExisting`

  The main statement is `Request.creations_contract`. It
  rests on `Request.forall₂_creates_statements`, by cases on
  the request, and on `Act.IsRun.reportsExisting`, which
  follows a run.
-/

namespace KbConsole

open Sql

------------------------------------------------------------
-- Requests
------------------------------------------------------------

namespace Request

/-
  What the statements of a request create, in order. Of the
  user's own statement nothing is known.
-/
def creations : Request → List (Option CreatedObject)
  | createKnowledgeBase spec =>
      [some { label := "Knowledge base", name := spec.name }]
  | ingest spec =>
      if spec.ensureDatasource then
        [some
            { label := "Datasource"
              name := spec.source.datasource },
          none]
      else
        [none]
  | createAgent spec =>
      [some { label := "Agent", name := spec.name }]
  | evaluate spec =>
      spec.generation.toList.map (fun _ => none) ++
        if spec.evaluates then [none] else []
  | createModel spec =>
      [some { label := "Model", name := spec.ref.qualified }]
  | createJob spec =>
      [some { label := "Job", name := spec.ref.qualified }]
  | createIngestJob spec =>
      [some
          { label := "Datasource"
            name := spec.ingestion.source.datasource },
        some { label := "Job", name := spec.ref.qualified }]
  | setUpHackernews datasource =>
      [some { label := "Datasource", name := datasource }]
  | _ => [none]

theorem forall₂_creates_of_bind
    {α : Type}
    {first : Except Problem α}
    {build : α → Statement}
    {object : Option CreatedObject}
    {statements : List Statement}
    (hStatements :
      (first >>= fun value => pure [build value]) =
        .ok statements)
    (hBuild :
      ∀ value, first = .ok value →
        (build value).Creates object) :
    List.Forall₂ Statement.Creates statements [object] := by
  simp only [bind_eq_ok_iff, pure_eq_ok_iff] at hStatements
  rcases hStatements with ⟨value, hFirst, rfl⟩
  exact List.Forall₂.cons (hBuild value hFirst)
    List.Forall₂.nil

theorem creates_datasource
    {name : String}
    {s : Statement}
    (hStatement : datasourceStatement name = .ok s) :
    s.Creates (some { label := "Datasource", name }) := by
  simp only [datasourceStatement, bind_eq_ok_iff,
    pure_eq_ok_iff, Identifier.ofText_eq_ok_iff] at hStatement
  rcases hStatement with ⟨own, rfl, rfl⟩
  exact ⟨rfl, rfl⟩

theorem creates_knowledgeBase
    {spec : NewKnowledgeBase}
    {s : Statement}
    (hStatement : knowledgeBaseStatement spec = .ok s) :
    s.Creates
      (some
        { label := "Knowledge base", name := spec.name }) := by
  simp only [knowledgeBaseStatement, bind_eq_ok_iff,
    pure_eq_ok_iff, Identifier.ofText_eq_ok_iff] at hStatement
  rcases hStatement with
    ⟨_, -, _, -, _, -, name, hName, rfl⟩
  rw [← hName]
  exact ⟨rfl, rfl⟩

theorem creates_agent
    {spec : NewAgent}
    {s : Statement}
    (hStatement : agentStatement spec = .ok s) :
    s.Creates (some { label := "Agent", name := spec.name }) := by
  rcases agentStatement_eq_ok_iff.mp hStatement with
    ⟨-, -, -, _, -, name, hName, rfl⟩
  rw [← hName]
  exact ⟨rfl, rfl⟩

theorem creates_model
    {spec : NewModel}
    {s : Statement}
    (hStatement : modelStatement spec = .ok s) :
    s.Creates
      (some
        { label := "Model", name := spec.ref.qualified }) := by
  rcases modelStatement_eq_ok_iff.mp hStatement with
    ⟨-, -, name, _, hName, -, rfl⟩
  rw [← ObjectName.text_of_ofRef hName]
  exact ⟨rfl, rfl⟩

theorem creates_job
    {spec : NewJob}
    {s : Statement}
    (hStatement : jobStatement spec = .ok s) :
    s.Creates
      (some { label := "Job", name := spec.ref.qualified }) := by
  rcases jobStatement_eq_ok_iff.mp hStatement with
    ⟨-, name, hName, rfl⟩
  rw [← ObjectName.text_of_ofRef hName]
  exact ⟨rfl, rfl⟩

theorem creates_insert (insertion : Insertion) :
    (Statement.insert insertion).Creates none :=
  ⟨rfl, rfl⟩

theorem forall₂_creates_evaluation
    {spec : Evaluation}
    {statements : List Statement}
    (hStatements :
      evaluationStatements spec = .ok statements) :
    List.Forall₂ Statement.Creates statements
      (evaluate spec).creations := by
  have hEvaluate
      (name : Identifier)
      (options : List Assignment) :
      (Statement.evaluate name options).Creates none :=
    ⟨rfl, rfl⟩
  rcases cases_of_evaluationStatements hStatements with
    ⟨name, table, -, -, hCases⟩
  have hGeneration :
      List.Forall₂ Statement.Creates
        (generationStatements spec name table)
        (spec.generation.toList.map fun _ => none) := by
    rw [generationStatements, List.forall₂_map_left_iff,
      List.forall₂_map_right_iff, List.forall₂_same]
    intro g _
    exact hEvaluate name _
  rcases hCases with
    ⟨hEvaluates, rfl⟩ | ⟨hEvaluates, save, -, rfl⟩
  · rw [creations, if_neg (by simp [hEvaluates]),
      List.append_nil]
    exact hGeneration
  · rw [creations, if_pos hEvaluates]
    exact List.rel_append hGeneration
      (List.Forall₂.cons (hEvaluate name _) List.Forall₂.nil)

/- The statements of a request create what the request says. -/
theorem forall₂_creates_statements
    {d : Dialect}
    {request : Request}
    {statements : List Statement}
    (hOwn : request.operation ≠ .runQuery)
    (hStatements : request.statements d = .ok statements) :
    List.Forall₂ Statement.Creates statements
      request.creations := by
  cases request with
  | createKnowledgeBase spec =>
      exact forall₂_creates_of_bind hStatements fun _ h =>
        creates_knowledgeBase h
  | ingest spec =>
      simp only [Request.statements, ingestionStatements] at hStatements
      split at hStatements
      · rename_i hEnsures
        simp only [bind_eq_ok_iff, pure_eq_ok_iff]
          at hStatements
        rcases hStatements with
          ⟨datasource, hDatasource, insertion, -, rfl⟩
        rw [creations, if_pos hEnsures]
        exact List.Forall₂.cons (creates_datasource hDatasource)
          (List.Forall₂.cons (creates_insert insertion)
            List.Forall₂.nil)
      · rename_i hEnsures
        simp only [bind_eq_ok_iff, pure_eq_ok_iff]
          at hStatements
        rcases hStatements with ⟨insertion, -, rfl⟩
        rw [creations, if_neg hEnsures]
        exact List.Forall₂.cons (creates_insert insertion)
          List.Forall₂.nil
  | createAgent spec =>
      exact forall₂_creates_of_bind hStatements fun _ h =>
        creates_agent h
  | evaluate spec => exact forall₂_creates_evaluation hStatements
  | createModel spec =>
      exact forall₂_creates_of_bind hStatements fun _ h =>
        creates_model h
  | runQuery sql => exact absurd rfl hOwn
  | createJob spec =>
      exact forall₂_creates_of_bind hStatements fun _ h =>
        creates_job h
  | createIngestJob spec =>
      simp only [Request.statements, ingestionJobStatements,
        bind_eq_ok_iff, pure_eq_ok_iff] at hStatements
      rcases hStatements with
        ⟨insertion, -, datasource, hDatasource, name, hName,
          rfl⟩
      rw [creations, ← ObjectName.text_of_ofRef hName]
      exact List.Forall₂.cons (creates_datasource hDatasource)
        (List.Forall₂.cons
          ⟨rfl, rfl⟩
          List.Forall₂.nil)
  | setUpHackernews datasource =>
      exact forall₂_creates_of_bind hStatements fun _ h =>
        creates_datasource h
  | query spec =>
      apply forall₂_creates_of_bind hStatements
      intro s hSearch
      simp only [searchStatement, bind_eq_ok_iff,
        pure_eq_ok_iff] at hSearch
      rcases hSearch with ⟨_, -, _, -, _, -, rfl⟩
      exact ⟨rfl, rfl⟩
  | listDatabases =>
      obtain rfl := pure_eq_ok_iff.mp hStatements
      exact List.Forall₂.cons
        ⟨rfl, rfl⟩
        List.Forall₂.nil
  | listJobs project =>
      apply forall₂_creates_of_bind hStatements
      intro s hJobs
      simp only [jobsStatement, bind_eq_ok_iff] at hJobs
      rcases hJobs with ⟨_ | _, -, hJobs⟩
      · obtain rfl := pure_eq_ok_iff.mp hJobs
        exact ⟨rfl, rfl⟩
      · obtain rfl := pure_eq_ok_iff.mp hJobs
        exact ⟨rfl, rfl⟩
  | jobLogs ref limit =>
      simp only [Request.statements, bind_eq_ok_iff, pure_eq_ok_iff]
        at hStatements
      rcases hStatements with ⟨_, -, _, -, rfl⟩
      exact List.Forall₂.cons
        ⟨rfl, rfl⟩
        List.Forall₂.nil
  | _ =>
      exact forall₂_creates_of_bind hStatements fun _ _ =>
        ⟨rfl, rfl⟩

theorem forall₂_isRecognized
    {d : Dialect}
    {request : Request}
    {texts : List String}
    (hOwn : request.operation ≠ .runQuery)
    (hCompile : request.compile d = .ok texts) :
    List.Forall₂ CreatedObject.IsRecognized texts
      request.creations := by
  simp only [Request.compile, bind_eq_ok_iff, pure_eq_ok_iff]
    at hCompile
  rcases hCompile with ⟨statements, hStatements, rfl⟩
  rw [List.forall₂_map_left_iff]
  apply (forall₂_creates_statements hOwn hStatements).imp
  intro s object hCreates
  rw [← hCreates.created]
  exact Statement.isRecognized_text d hCreates.isVerbatim

/- The names of what a request creates are plain. -/
theorem isPlainName_of_mem_creations
    {d : Dialect}
    {request : Request}
    {texts : List String}
    (hOwn : request.operation ≠ .runQuery)
    (hCompile : request.compile d = .ok texts)
    {object : CreatedObject}
    (hObject : some object ∈ request.creations) :
    CreatedObject.IsPlainName object.name := by
  simp only [Request.compile, bind_eq_ok_iff, pure_eq_ok_iff]
    at hCompile
  rcases hCompile with ⟨statements, hStatements, -⟩
  have hCreates := forall₂_creates_statements hOwn hStatements
  have hPlain :
      List.Forall₂
        (fun created s =>
          (∀ object,
            created = some object →
              CreatedObject.IsPlainName object.name) ∧
            Statement.Creates s created)
        request.creations statements := by
    apply hCreates.flip.imp
    rintro created s hCreated
    refine ⟨?_, hCreated⟩
    rintro object rfl
    exact Statement.isPlainName_of_created? hCreated.created
  exact ((List.forall₂_and_left _ _).mp hPlain).1
    (some object) hObject object rfl

------------------------------------------------------------
-- Confirmations
------------------------------------------------------------

/- The text between the first two single quotes. -/
def firstQuoted (text : String) : String :=
  String.ofList
    ((text.toList.dropWhile (· != '\'')).tail.takeWhile
      (· != '\''))

theorem firstQuoted_eq
    {opening name text : String}
    (hOpening :
      opening.toList.getLast? = some '\'' ∧
        '\'' ∉ opening.toList.dropLast)
    (hName : CreatedObject.IsPlainName name)
    (hText :
      CreatedObject.Begins (opening ++ name ++ "'") text) :
    firstQuoted text = name := by
  rcases hText with ⟨after, hAfter⟩
  have hChars :
      text.toList =
        opening.toList.dropLast ++
          '\'' :: (name.toList ++ '\'' :: after) := by
    have hSplit :=
      List.dropLast_append_getLast? '\'' hOpening.1
    rw [← hAfter, List.append_cons, hSplit]
    simp only [String.toList_append, List.append_assoc]
    rfl
  have hSkip :
      ∀ c ∈ opening.toList.dropLast, (c != '\'') = true := by
    intro c hMember
    rw [bne_iff_ne]
    rintro rfl
    exact hOpening.2 hMember
  have hTake : ∀ c ∈ name.toList, (c != '\'') = true :=
    fun c hMember => bne_iff_ne.mpr (hName.bare c hMember).2
  rw [firstQuoted, hChars, List.dropWhile_append_of_pos hSkip,
    List.dropWhile_cons_of_neg (by decide), List.tail_cons,
    List.takeWhile_append_of_pos hTake,
    List.takeWhile_cons_of_neg (by decide), List.append_nil,
    String.ofList_toList]

/- The confirmation names what the last statement creates. -/
theorem firstQuoted_acknowledgement
    {request : Request}
    {object : CreatedObject}
    (hLast : request.creations.getLast? = some (some object))
    (hName : CreatedObject.IsPlainName object.name) :
    firstQuoted request.acknowledgement = object.name := by
  have hCreated (opening : String)
      (hOpening :
        opening.toList.getLast? = some '\'' ∧
          '\'' ∉ opening.toList.dropLast) :
      firstQuoted (opening ++ object.name ++ "' created.") =
        object.name := by
    have hQuote : CreatedObject.Begins "'" "' created." := by
      decide
    exact firstQuoted_eq hOpening hName (hQuote.prepend _)
  cases request with
  | createKnowledgeBase spec =>
      obtain rfl := Option.some.inj (Option.some.inj hLast)
      exact hCreated "Knowledge base '" (by decide)
  | createAgent spec =>
      obtain rfl := Option.some.inj (Option.some.inj hLast)
      exact hCreated "Agent '" (by decide)
  | createJob spec =>
      obtain rfl := Option.some.inj (Option.some.inj hLast)
      exact hCreated "Job '" (by decide)
  | createIngestJob spec =>
      obtain rfl := Option.some.inj (Option.some.inj hLast)
      exact hCreated "Job '" (by decide)
  | createModel spec =>
      obtain rfl := Option.some.inj (Option.some.inj hLast)
      have hQuote :
          CreatedObject.Begins "'"
            "' created. Training may take a while; check it " :=
        by decide
      have hOpening :
          "Model '".toList.getLast? = some '\'' ∧
            '\'' ∉ "Model '".toList.dropLast := by
        decide
      exact firstQuoted_eq hOpening hName
        (((hQuote.prepend _).append _).append spec.ref.name)
  | setUpHackernews datasource =>
      obtain rfl := Option.some.inj (Option.some.inj hLast)
      have hQuote :
          CreatedObject.Begins "'" "' is ready." := by
        decide
      have hOpening :
          "HackerNews datasource '".toList.getLast? =
              some '\'' ∧
            '\'' ∉ "HackerNews datasource '".toList.dropLast := by
        decide
      exact firstQuoted_eq hOpening hName (hQuote.prepend _)
  | ingest spec =>
      rw [creations] at hLast
      split at hLast <;> cases hLast
  | evaluate spec =>
      have hMember := List.mem_of_getLast? hLast
      rw [creations] at hMember
      split at hMember
      · simp at hMember
      · simp at hMember
  | _ => cases hLast

end Request

------------------------------------------------------------
-- Rejections
------------------------------------------------------------

/-
  How it is reported that an object is there already: it is
  no failure of the statement that creates the object, and
  one of any other statement.
-/
inductive ReportsExisting :
    Option CreatedObject → Outcome → String → Prop
  | existing (object : CreatedObject) :
      ReportsExisting (some object) .empty
        (object.label ++ " '" ++ object.name ++
          "' already exists.")
  | failed
      {outcome : Outcome}
      (text : String)
      (hFails : outcome.isFailure = true) :
      ReportsExisting none outcome text

theorem isFailure_ofRejection (rejection : Rejection) :
    (Outcome.ofRejection rejection).isFailure = true := by
  cases rejection <;> rfl

/- A rejected statement is judged by what it creates. -/
theorem CreatedObject.IsRecognized.reportsExisting
    {sql : String}
    {created : Option CreatedObject}
    (hRecognized : IsRecognized sql created)
    {rejection : Rejection}
    (hExists : rejection.alreadyExists = true)
    (acknowledgement : String)
    (isLast : Bool) :
    let step :=
      Step.judge acknowledgement isLast sql (.error rejection)
    ReportsExisting created step.outcome step.text := by
  simp only [Step.judge, hRecognized.object]
  cases created with
  | none =>
      exact .failed _ (isFailure_ofRejection rejection)
  | some object =>
      simp only [Step.ofRejection, hExists, if_true]
      exact .existing object

/- Each rejection of a run is judged in this way. -/
theorem Act.IsRun.reportsExisting
    {acknowledgement : String}
    {texts : List String}
    {acts : List Act}
    {steps : List Step}
    {creations : List (Option CreatedObject)}
    (hRun : IsRun acknowledgement texts acts steps)
    (hTexts :
      List.Forall₂ CreatedObject.IsRecognized texts creations)
    {i : Nat}
    {rejection : Rejection}
    (hResult : (results acts)[i]? = some (.error rejection))
    (hExists : rejection.alreadyExists = true) :
    ∃ created step,
      creations[i]? = some created ∧
        steps[i]? = some step ∧
        ReportsExisting created step.outcome step.text := by
  induction hRun generalizing creations i with
  | finished => cases hResult
  | stopped hStep hFails =>
      rcases List.forall₂_cons_left_iff.mp hTexts with
        ⟨created, creations, hRecognized, -, rfl⟩
      cases i with
      | zero =>
          obtain rfl := Option.some.inj hResult
          refine ⟨created, _, rfl, rfl, ?_⟩
          rw [← hStep]
          exact hRecognized.reportsExisting hExists _ _
      | succ i => cases hResult
  | passed hStep hPasses hRest ih =>
      rcases List.forall₂_cons_left_iff.mp hTexts with
        ⟨created, creations, hRecognized, hOthers, rfl⟩
      cases i with
      | zero =>
          obtain rfl := Option.some.inj hResult
          refine ⟨created, _, rfl, rfl, ?_⟩
          rw [← hStep]
          exact hRecognized.reportsExisting hExists _ _
      | succ i => exact ih hOthers hResult

/-
  The statements of a request are recognized as what they
  create, and the confirmation names the object that the
  last one creates. So when the server says that an object
  is there already, that is reported under the name of the
  object if the statement creates it, and as a failure if it
  does not.
-/
theorem Request.creations_contract
    {d : Dialect}
    {request : Request}
    {texts : List String}
    (hOwn : request.operation ≠ .runQuery)
    (hCompile : request.compile d = .ok texts) :
    List.Forall₂ CreatedObject.IsRecognized texts
        request.creations ∧
      (∀ object,
        request.creations.getLast? = some (some object) →
          firstQuoted request.acknowledgement = object.name) ∧
      ∀ (σ : Type) (runner : Runner σ) (state : σ)
          (settings : Settings) (args : Arguments)
          (op : Operation),
        prepare op args settings d = .ok (request, texts) →
          let report :=
            (dispatch runner settings d false op.name args
              state).1
          let acts :=
            dispatchActs runner settings d false op.name args
              state
          ∃ shown,
            report.text = "\n\n".intercalate shown ∧
              shown.length = report.outcomes.length ∧
              ∀ (i : Nat) (rejection : Rejection),
                (Act.results acts)[i]? =
                    some (.error rejection) →
                  rejection.alreadyExists = true →
                    ∃ created outcome text,
                      request.creations[i]? = some created ∧
                        report.outcomes[i]? = some outcome ∧
                        shown[i]? = some text ∧
                        ReportsExisting created outcome text := by
  have hTexts := forall₂_isRecognized hOwn hCompile
  refine ⟨hTexts, ?_, ?_⟩
  · intro object hLast
    exact firstQuoted_acknowledgement hLast
      (isPlainName_of_mem_creations hOwn hCompile
        (List.mem_of_getLast? hLast))
  · intro σ runner state settings args op hPrepare report acts
    have hName : Operation.ofName? op.name = some op :=
      Operation.ofName?_name op
    have hRun := isRun_of_prepare runner hName hPrepare state
    have hReport :
        report =
          Report.ofSteps texts request.warnings
            (runner.runAll request.acknowledgement texts
              state).1 :=
      congrArg Prod.fst
        (dispatch_of_prepare runner hName hPrepare state)
    rw [hReport]
    refine ⟨_, rfl, by simp [Report.ofSteps], ?_⟩
    intro i rejection hResult hExists
    rcases hRun.reportsExisting hTexts hResult hExists with
      ⟨created, step, hCreated, hStep, hReports⟩
    refine ⟨created, step.outcome, step.text, hCreated, ?_, ?_,
      hReports⟩
    · rw [Report.ofSteps, List.getElem?_map, hStep]
      rfl
    · rw [List.getElem?_map, hStep]
      rfl

/- A job of a project is there already. -/
theorem Request.creations_contract_existingJob :
    let rejects : Runner Unit :=
      { announce := fun _ state => state
        execute := fun _ state =>
          (.error (.remote "It already exists" none), state) }
    let args : Arguments :=
      [("jobName", .text "refresh"),
        ("projectName", .text "news"),
        ("statements", .texts ["DROP MODEL m"])]
    let report :=
      (dispatch rejects {} {} false "job.create" args ()).1
    let job : CreatedObject :=
      { label := "Job", name := "news.refresh" }
    ∃ texts shown outcome text,
      List.Forall₂ CreatedObject.IsRecognized texts [some job] ∧
        report.text = "\n\n".intercalate shown ∧
        report.outcomes[0]? = some outcome ∧
        shown[0]? = some text ∧
        ReportsExisting (some job) outcome text := by
  intro rejects args report job
  have hCreations :
      (prepare .createJob args {} {}).map
          (fun prepared =>
            (prepared.1.creations, prepared.1.operation)) =
        .ok ([some job], .createJob) := by
    decide +kernel
  have hResult :
      (Act.results
        (dispatchActs rejects {} {} false "job.create" args
          ()))[0]? =
        some (.error (.remote "It already exists" none)) := by
    decide +kernel
  rcases map_eq_ok_iff.mp hCreations with
    ⟨⟨request, texts⟩, hPrepare, hRequest⟩
  rcases Prod.mk.inj hRequest with ⟨hCreated, hOperation⟩
  have hCompile : request.compile {} = .ok texts := by
    simp only [prepare, bind_eq_ok_iff, pure_eq_ok_iff,
      Prod.mk.injEq] at hPrepare
    rcases hPrepare with ⟨_, -, _, hTexts, rfl, rfl⟩
    exact hTexts
  have hOwn : request.operation ≠ .runQuery := by
    simp only at hOperation
    rw [hOperation]
    decide
  rcases Request.creations_contract hOwn hCompile with
    ⟨hTexts, -, hDispatch⟩
  rcases hDispatch Unit rejects () {} args .createJob
      hPrepare with
    ⟨shown, hShown, -, hReports⟩
  rcases hReports 0 _ hResult (by decide +kernel) with
    ⟨created, outcome, text, hJob, hOutcome, hText, hReported⟩
  simp only at hCreated
  rw [hCreated] at hTexts hJob
  obtain rfl := Option.some.inj hJob
  exact ⟨texts, shown, outcome, text, hTexts, hShown, hOutcome,
    hText, hReported⟩

end KbConsole
