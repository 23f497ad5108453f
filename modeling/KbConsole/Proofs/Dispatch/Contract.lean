import KbConsole.Proofs.Dispatch.Acts
import KbConsole.Proofs.Dispatch.Judgement
import KbConsole.Proofs.Sql.Compiled

/-
  The contract of a dispatch: what is run, in which order,
  and what its report says about it.

  Key definitions include:
    * `dispatchActs`
    * `Report.IsIdle`, `Report.IsRun`
    * `Request.isEffective`

  The main statement is `dispatch_contract`. It rests on
  `prepare_ne_nil`: an operation that can be prepared has a
  statement to run, and on `Report.isRun_ofSteps`: each
  outcome is what the answer to its statement makes it.
-/

namespace KbConsole

------------------------------------------------------------
-- Prepared Statements
------------------------------------------------------------

namespace Request

/-
  Whether a request does something: an evaluation may be
  told neither to generate nor to evaluate.
-/
def isEffective : Request → Bool
  | evaluate spec => spec.evaluates || spec.generation.isSome
  | _ => true

theorem statements_ne_nil
    {d : Sql.Dialect}
    {request : Request}
    {statements : List Sql.Statement}
    (hEffective : request.isEffective = true)
    (hStatements : request.statements d = .ok statements) :
    statements ≠ [] := by
  cases request with
  | ingest spec =>
      simp only [Request.statements,
        Sql.ingestionStatements] at hStatements
      split at hStatements
      · simp only [bind_eq_ok_iff, pure_eq_ok_iff]
          at hStatements
        rcases hStatements with ⟨_, _, _, _, rfl⟩
        exact List.cons_ne_nil _ _
      · simp only [bind_eq_ok_iff, pure_eq_ok_iff]
          at hStatements
        rcases hStatements with ⟨_, _, rfl⟩
        exact List.cons_ne_nil _ _
  | evaluate spec =>
      rcases Sql.cases_of_evaluationStatements hStatements with
        ⟨name, table, -, -,
          ⟨hEvaluates, rfl⟩ | ⟨-, save, -, rfl⟩⟩
      · have hGeneration : spec.generation.isSome = true := by
          simpa [isEffective, hEvaluates] using hEffective
        rcases Option.isSome_iff_exists.mp hGeneration with
          ⟨generation, hSome⟩
        rw [Sql.generationStatements, hSome]
        exact List.cons_ne_nil _ _
      · exact List.append_ne_nil_of_right_ne_nil _
          (List.cons_ne_nil _ _)
  | _ =>
      simp only [Request.statements,
        Sql.ingestionJobStatements, bind_eq_ok_iff,
        pure_eq_ok_iff] at hStatements
      grind

end Request

theorem isSome_of_generation?
    {args : Arguments}
    {generation : Option Generation}
    (hAsks : asksForGeneration args = true)
    (hGeneration : generation? args = .ok generation) :
    generation.isSome = true := by
  rw [generation?, if_pos hAsks] at hGeneration
  simp only [bind_eq_ok_iff, pure_eq_ok_iff] at hGeneration
  rcases hGeneration with ⟨count, _, rfl⟩
  rfl

/- What an evaluation is told to do. -/
theorem Evaluation.tasks_of_ofArguments
    {args : Arguments}
    {settings : Settings}
    {spec : Evaluation}
    (hSpec : ofArguments args settings = .ok spec) :
    generation? args = .ok spec.generation ∧
      spec.evaluates = !args.isUnset "evaluate" ∧
      spec.judge = judge? args settings ∧
      (spec.evaluates || asksForGeneration args) = true := by
  simp only [ofArguments, bind_eq_ok_iff] at hSpec
  rcases hSpec with ⟨version, _, hSpec⟩
  split at hSpec
  · cases hSpec
  · rename_i hAsked
    have hTask :
        (!args.isUnset "evaluate" ||
          asksForGeneration args) = true := by
      rw [Bool.and_eq_true, Bool.not_eq_true',
        Bool.not_eq_true'] at hAsked
      grind
    simp only [bind_eq_ok_iff] at hSpec
    rcases hSpec with
      ⟨_, _, _, _, _, _, generation, hGeneration, hSpec⟩
    split at hSpec
    · simp only [ok_bind, pure_eq_ok_iff] at hSpec
      rcases hSpec with rfl
      exact ⟨hGeneration, rfl, rfl, hTask⟩
    · simp only [bind_eq_ok_iff, pure_eq_ok_iff] at hSpec
      rcases hSpec with ⟨_, _, rfl⟩
      exact ⟨hGeneration, rfl, rfl, hTask⟩

/- Asking for nothing is a problem with the input. -/
theorem isEffective_evaluation
    {args : Arguments}
    {settings : Settings}
    {spec : Evaluation}
    (hSpec : Evaluation.ofArguments args settings = .ok spec) :
    (Request.evaluate spec).isEffective = true := by
  rcases Evaluation.tasks_of_ofArguments hSpec with
    ⟨hGeneration, -, -, hTask⟩
  cases hAsks : asksForGeneration args with
  | true =>
      rw [Request.isEffective,
        isSome_of_generation? hAsks hGeneration, Bool.or_true]
  | false =>
      rw [hAsks, Bool.or_false] at hTask
      rw [Request.isEffective, hTask, Bool.true_or]

theorem isEffective_of_ofArguments
    {op : Operation}
    {args : Arguments}
    {settings : Settings}
    {request : Request}
    (hRequest :
      Request.ofArguments op args settings = .ok request) :
    request.isEffective = true := by
  cases op with
  | evaluate =>
      simp only [Request.ofArguments, bind_eq_ok_iff,
        pure_eq_ok_iff] at hRequest
      rcases hRequest with ⟨spec, hSpec, rfl⟩
      exact isEffective_evaluation hSpec
  | _ =>
      simp only [Request.ofArguments, bind_eq_ok_iff,
        pure_eq_ok_iff] at hRequest
      grind [Request.isEffective]

/- What is prepared has been read and then compiled. -/
theorem prepare_eq_ok_iff
    {op : Operation}
    {args : Arguments}
    {settings : Settings}
    {d : Sql.Dialect}
    {request : Request}
    {texts : List String} :
    prepare op args settings d = .ok (request, texts) ↔
      Request.ofArguments op args settings = .ok request ∧
        ∃ statements,
          request.statements d = .ok statements ∧
            statements.map (Sql.Statement.text d) = texts := by
  simp only [prepare, Request.compile, bind_eq_ok_iff,
    pure_eq_ok_iff, Prod.mk.injEq]
  constructor
  · rintro
      ⟨_, hRequest, _, ⟨statements, hStatements, rfl⟩, rfl,
        rfl⟩
    exact ⟨hRequest, statements, hStatements, rfl⟩
  · rintro ⟨hRequest, statements, hStatements, rfl⟩
    exact
      ⟨_, hRequest, _, ⟨statements, hStatements, rfl⟩, rfl,
        rfl⟩

/- What fails has not been read, or not been compiled. -/
theorem prepare_eq_error_iff
    {op : Operation}
    {args : Arguments}
    {settings : Settings}
    {d : Sql.Dialect}
    {problem : Problem} :
    prepare op args settings d = .error problem ↔
      Request.ofArguments op args settings = .error problem ∨
        ∃ request,
          Request.ofArguments op args settings = .ok request ∧
            request.statements d = .error problem := by
  unfold prepare Request.compile
  cases hRequest : Request.ofArguments op args settings with
  | error other => simp [bind, Except.bind]
  | ok request =>
      cases hStatements : request.statements d with
      | error other =>
          simp [hStatements, bind, Except.bind]
      | ok statements =>
          simp [hStatements, bind, Except.bind, pure,
            Except.pure]

/- What can be prepared has a statement to run. -/
theorem prepare_ne_nil
    {op : Operation}
    {args : Arguments}
    {settings : Settings}
    {d : Sql.Dialect}
    {request : Request}
    {statements : List String}
    (hPrepare :
      prepare op args settings d = .ok (request, statements)) :
    statements ≠ [] := by
  rcases prepare_eq_ok_iff.mp hPrepare with
    ⟨hRequest, composed, hComposed, rfl⟩
  have hNonempty :=
    Request.statements_ne_nil
      (isEffective_of_ofArguments hRequest) hComposed
  intro hNil
  exact hNonempty (List.map_eq_nil_iff.mp hNil)

------------------------------------------------------------
-- Reports
------------------------------------------------------------

/- What is asked of the runner in the course of a dispatch. -/
def dispatchActs
    {σ : Type}
    (runner : Runner σ)
    (settings : Settings)
    (d : Sql.Dialect)
    (dryRun : Bool)
    (name : String)
    (args : Arguments)
    (state : σ) : List Act :=
  (dispatch runner.recorded settings d dryRun name args
    (state, [])).2.2

/- The report of an operation of which nothing was run. -/
structure Report.IsIdle
    (report : Report)
    (acts : List Act) : Prop where
  acts_eq : acts = []
  executed : report.executed = false
  outcomes : report.outcomes = []

/-
  The report of an operation whose statements were run: each
  once and in order, up to the first failure, with an
  outcome for each, by what its execution gave. The last of
  them is the outcome of all, so the operation fails exactly
  if an executed statement did.
-/
structure Report.IsRun
    (report : Report)
    (statements : List String)
    (acts : List Act) : Prop where
  executed : report.executed = true
  statements_eq : report.statements = statements
  begun : Act.executions acts ≠ []
  inOrder : Act.executions acts <+: statements
  announced : Act.announcements acts = Act.executions acts
  length_outcomes :
    report.outcomes.length = (Act.executions acts).length
  passed :
    ∀ outcome ∈ report.outcomes.dropLast,
      outcome.isFailure = false
  stopped :
    Act.executions acts ≠ statements →
      report.outcome.isFailure = true
  last : report.outcomes.getLast? = some report.outcome
  isFailure_iff :
    report.outcome.isFailure = true ↔
      ∃ outcome ∈ report.outcomes, outcome.isFailure = true
  judged :
    List.Forall₂
      (fun answer outcome =>
        IsJudged answer.1 answer.2 outcome)
      (Act.answers acts) report.outcomes
  isFailed_iff :
    report.outcome.isFailure = true ↔
      ∃ answer ∈ Act.answers acts,
        IsFailed answer.1 answer.2

/- Only the last of a list can fail, so it tells for all. -/
theorem isFailure_last_iff
    {outcomes : List Outcome}
    {last : Outcome}
    (hPassed :
      ∀ outcome ∈ outcomes.dropLast,
        outcome.isFailure = false)
    (hLast : outcomes.getLast? = some last) :
    last.isFailure = true ↔
      ∃ outcome ∈ outcomes, outcome.isFailure = true := by
  constructor
  · intro hFails
    exact ⟨last, List.mem_of_getLast? hLast, hFails⟩
  · rintro ⟨outcome, hMember, hFails⟩
    have hSplit : outcomes = outcomes.dropLast ++ [last] :=
      (List.dropLast_append_getLast? last hLast).symm
    rw [hSplit, List.mem_append, List.mem_singleton] at hMember
    rcases hMember with hMember | rfl
    · rw [hPassed outcome hMember] at hFails
      cases hFails
    · exact hFails

/- An outcome fails exactly if its statement did. -/
theorem exists_isFailed_iff
    {answers : List (String × Except Rejection ResultSet)}
    {outcomes : List Outcome}
    (hJudged :
      List.Forall₂
        (fun answer outcome =>
          IsJudged answer.1 answer.2 outcome)
        answers outcomes) :
    (∃ outcome ∈ outcomes, outcome.isFailure = true) ↔
      ∃ answer ∈ answers, IsFailed answer.1 answer.2 := by
  induction hJudged with
  | nil => simp
  | cons hFirst hRest ih =>
      rw [List.exists_mem_cons_iff, List.exists_mem_cons_iff,
        hFirst.isFailure_iff, ih]

theorem Report.isRun_ofSteps
    {acknowledgement : String}
    {statements warnings : List String}
    {acts : List Act}
    {steps : List Step}
    (hRun : Act.IsRun acknowledgement statements acts steps)
    (hStatements : statements ≠ []) :
    (Report.ofSteps statements warnings steps).IsRun
      statements acts := by
  have hBegun := hRun.executions_ne_nil hStatements
  have hNonempty : steps ≠ [] := by
    intro hNil
    have hLength := hRun.length_steps
    rw [hNil, List.length_nil] at hLength
    exact hBegun (List.length_eq_zero_iff.mp hLength.symm)
  have hPassed :
      ∀ outcome ∈ (steps.map Step.outcome).dropLast,
        outcome.isFailure = false := by
    intro outcome hMember
    rw [← List.map_dropLast] at hMember
    rcases List.mem_map.mp hMember with ⟨step, hStep, rfl⟩
    exact hRun.isFailure_of_mem_dropLast step hStep
  have hLast :
      (steps.map Step.outcome).getLast? =
        some (Report.ofSteps statements warnings
          steps).outcome := by
    rw [Report.ofSteps, List.getLast?_map,
      List.getLast?_eq_some_getLast hNonempty]
    rfl
  have hJudged :
      List.Forall₂
        (fun answer outcome =>
          IsJudged answer.1 answer.2 outcome)
        (Act.answers acts) (steps.map Step.outcome) := by
    rw [List.forall₂_map_right_iff]
    apply List.Forall₂.imp _ hRun.forall₂_judge
    rintro answer step ⟨isLast, rfl⟩
    exact Step.isJudged_judge _ _ _ _
  have hFailure := isFailure_last_iff hPassed hLast
  refine
    { executed := rfl
      statements_eq := rfl
      begun := hBegun
      inOrder := hRun.executions_prefix
      announced := hRun.announcements_eq
      length_outcomes := ?_
      passed := hPassed
      stopped := ?_
      last := hLast
      isFailure_iff := hFailure
      judged := hJudged
      isFailed_iff :=
        hFailure.trans (exists_isFailed_iff hJudged) }
  · rw [Report.ofSteps, List.length_map]
    exact hRun.length_steps
  · intro hLeft
    rcases hRun.isFailure_getLast hLeft with
      ⟨step, hStep, hFails⟩
    rw [List.getLast?_map, hStep] at hLast
    rw [← Option.some.inj hLast]
    exact hFails

------------------------------------------------------------
-- Dispatches
------------------------------------------------------------

/- A dispatch has no outcomes, or those of the steps it ran. -/
theorem dispatch_eq_ofSteps
    {σ : Type}
    (runner : Runner σ)
    (settings : Settings)
    (d : Sql.Dialect)
    (dryRun : Bool)
    (name : String)
    (args : Arguments)
    (state : σ) :
    (dispatch runner settings d dryRun name args
        state).1.outcomes = [] ∨
      ∃ acknowledgement statements warnings,
        dispatch runner settings d dryRun name args state =
          (Report.ofSteps statements warnings
              (runner.runAll acknowledgement statements
                state).1,
            (runner.runAll acknowledgement statements
              state).2) := by
  unfold dispatch
  split
  · exact Or.inl rfl
  · split
    · exact Or.inl rfl
    · rename_i request statements _
      cases dryRun with
      | true => exact Or.inl rfl
      | false =>
          exact Or.inr
            ⟨request.acknowledgement, statements,
              request.warnings, rfl⟩

section Prepared

variable
  {σ : Type}
  (runner : Runner σ)
  {settings : Settings}
  {d : Sql.Dialect}
  {name : String}
  {args : Arguments}
  {op : Operation}
  {request : Request}
  {statements : List String}
  (hName : Operation.ofName? name = some op)
  (hPrepare :
    prepare op args settings d = .ok (request, statements))

include hName hPrepare

/- A prepared operation runs its statements. -/
theorem dispatch_of_prepare (state : σ) :
    dispatch runner settings d false name args state =
      (Report.ofSteps statements request.warnings
          (runner.runAll request.acknowledgement statements
            state).1,
        (runner.runAll request.acknowledgement statements
          state).2) := by
  simp only [dispatch, hName, hPrepare]
  rfl

/- What is done in its course is a run of these statements. -/
theorem isRun_of_prepare (state : σ) :
    Act.IsRun request.acknowledgement statements
      (dispatchActs runner settings d false name args state)
      (runner.runAll request.acknowledgement statements
        state).1 := by
  rcases runner.isRun_runAll request.acknowledgement
    statements state [] with ⟨ran, hRun, hRecorded, -⟩
  rw [dispatchActs,
    dispatch_of_prepare runner.recorded hName hPrepare,
    hRecorded]
  exact hRun

end Prepared

/-
  Recording changes nothing. What is recorded are the acts
  of executing some statements, with what the runner gives
  for each of them.
-/
theorem dispatch_recorded
    {σ : Type}
    (runner : Runner σ)
    (settings : Settings)
    (d : Sql.Dialect)
    (dryRun : Bool)
    (name : String)
    (args : Arguments)
    (state : σ) :
    let run :=
      dispatch runner settings d dryRun name args state
    let acts :=
      dispatchActs runner settings d dryRun name args state
    dispatch runner.recorded settings d dryRun name args
        (state, []) =
        (run.1, run.2, acts) ∧
      runner.executeAll (Act.executions acts) state =
        (Act.results acts, run.2) := by
  unfold dispatchActs dispatch
  split
  · exact ⟨rfl, rfl⟩
  · split
    · exact ⟨rfl, rfl⟩
    · rename_i request statements _
      cases dryRun with
      | true => exact ⟨rfl, rfl⟩
      | false =>
          rcases runner.isRun_runAll request.acknowledgement
            statements state [] with
            ⟨acts, -, hRecorded, hExecuted⟩
          simp only [hRecorded, List.nil_append,
            Bool.false_eq_true, if_false, true_and]
          exact hExecuted

/-
  Nothing is run for an unknown operation, for a problem
  with the input or in a dry run. Otherwise the prepared
  statements are run. What is recorded of this is what the
  runner is asked and gives.
-/
theorem dispatch_contract
    {σ : Type}
    (runner : Runner σ)
    (settings : Settings)
    (d : Sql.Dialect)
    (dryRun : Bool)
    (name : String)
    (args : Arguments)
    (state : σ) :
    let run :=
      dispatch runner settings d dryRun name args state
    let report := run.1
    let acts :=
      dispatchActs runner settings d dryRun name args state
    ((Operation.ofName? name = none ∨
        (∃ op problem,
          Operation.ofName? name = some op ∧
            prepare op args settings d = .error problem) ∨
        dryRun = true) →
      report.IsIdle acts) ∧
    (∀ op request statements,
      Operation.ofName? name = some op →
        prepare op args settings d =
          .ok (request, statements) →
        dryRun = false →
          report.IsRun statements acts) ∧
    dispatch runner.recorded settings d dryRun name args
        (state, []) =
      (report, run.2, acts) ∧
    runner.executeAll (Act.executions acts) state =
      (Act.results acts, run.2) := by
  intro run report acts
  refine ⟨?_, ?_, ?_⟩
  · rintro (hName | ⟨op, problem, hName, hPrepare⟩ | rfl)
    · simp only [report, run, acts, dispatchActs, dispatch,
        hName]
      exact ⟨rfl, rfl, rfl⟩
    · simp only [report, run, acts, dispatchActs, dispatch,
        hName, hPrepare]
      exact ⟨rfl, rfl, rfl⟩
    · simp only [report, run, acts, dispatchActs, dispatch]
      split
      · exact ⟨rfl, rfl, rfl⟩
      · split
        · exact ⟨rfl, rfl, rfl⟩
        · exact ⟨rfl, rfl, rfl⟩
  · rintro op request statements hName hPrepare rfl
    have hRun := isRun_of_prepare runner hName hPrepare state
    have hReport :
        report =
          Report.ofSteps statements request.warnings
            (runner.runAll request.acknowledgement statements
              state).1 :=
      congrArg Prod.fst
        (dispatch_of_prepare runner hName hPrepare state)
    rw [hReport]
    exact Report.isRun_ofSteps hRun (prepare_ne_nil hPrepare)
  · exact dispatch_recorded runner settings d dryRun name args
      state

/-
  An evaluation whose test data cannot be generated is not
  begun. An ingestion whose datasource is there already goes
  on.
-/
theorem dispatch_contract_generation_fails :
    let rejects : Runner Unit :=
      { announce := fun _ state => state
        execute := fun _ state =>
          (.error (.other "no such engine"), state) }
    let evaluation : Arguments :=
      [("kbName", .text "kb"), ("testTable", .text "ds.t"),
        ("generateCount", .text "5")]
    let generate : String :=
      "EVALUATE KNOWLEDGE_BASE kb USING test_table = ds.t, " ++
        "generate_data = \x7b\"count\": 5\x7d, " ++
        "evaluate = false;"
    let evaluate : String :=
      "EVALUATE KNOWLEDGE_BASE kb USING test_table = ds.t, " ++
        "version = 'doc_id';"
    let knows : Runner Bool :=
      { announce := fun _ isFirst => isFirst
        execute := fun _ isFirst =>
          if isFirst then
            (.error (.remote "Database Already Exists" none),
              false)
          else
            (.ok {}, false) }
    let ingestion : Arguments :=
      [("kbName", .text "kb"),
        ("fromHackernews", .text "stories")]
    let create : String :=
      "CREATE DATABASE hackernews WITH ENGINE = 'hackernews';"
    let insert : String :=
      "INSERT INTO kb SELECT COALESCE(title, '') || ' ' || " ++
        "COALESCE(text, '') AS content, id, \x60by\x60, " ++
        "score, \x60time\x60, descendants, url " ++
        "FROM hackernews.stories LIMIT 100;"
    let failed :=
      (dispatch rejects {} {} false "kb.evaluate" evaluation
        ()).1
    let generation :=
      dispatchActs rejects {} {} false "kb.evaluate" evaluation
        ()
    let passed :=
      (dispatch knows {} {} false "kb.ingest" ingestion
        true).1
    let acts :=
      dispatchActs knows {} {} false "kb.ingest" ingestion true
    (failed.IsRun [generate, evaluate] generation ∧
      Act.executions generation = [generate] ∧
      failed.outcome.isFailure = true) ∧
    passed.IsRun [create, insert] acts ∧
      Act.executions acts = [create, insert] ∧
      passed.outcomes = [.empty, .empty] := by
  intro rejects evaluation generate evaluate knows ingestion
    create insert failed generation passed acts
  have hEvaluation :
      (prepare .evaluate evaluation {} {}).map Prod.snd =
        .ok [generate, evaluate] := by
    decide +kernel
  have hIngestion :
      (prepare .ingest ingestion {} {}).map Prod.snd =
        .ok [create, insert] := by
    decide +kernel
  have hGenerated :
      Act.executions generation = [generate] := by
    decide +kernel
  have hBoth :
      Act.executions acts = [create, insert] ∧
        passed.outcomes = [.empty, .empty] := by
    decide +kernel
  rcases map_eq_ok_iff.mp hEvaluation with
    ⟨⟨first, statements⟩, hPrepare, rfl⟩
  rcases map_eq_ok_iff.mp hIngestion with
    ⟨⟨second, texts⟩, hPrepared, rfl⟩
  have hFailed :
      failed.IsRun [generate, evaluate] generation :=
    (dispatch_contract rejects {} {} false "kb.evaluate"
      evaluation ()).2.1 .evaluate first _ (by decide)
        hPrepare rfl
  have hPassed : passed.IsRun [create, insert] acts :=
    (dispatch_contract knows {} {} false "kb.ingest" ingestion
      true).2.1 .ingest second _ (by decide) hPrepared rfl
  refine ⟨⟨hFailed, hGenerated, hFailed.stopped ?_⟩, hPassed,
    hBoth⟩
  rw [hGenerated]
  decide

end KbConsole
