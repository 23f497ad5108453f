import KbConsole.Proofs.Dispatch.Answered
import KbConsole.Proofs.Server.Rows

/-
  Statements that the server carried out and that are
  reported as failed all the same.

  A statement counts as done once its result is shown. A
  result whose first row has no cell cannot be laid out as a
  table, and what goes wrong there is taken for a failure of
  the server, which also stops the statements that follow.

  Key definitions include:
    * `Reply.Carries`

  The main statement is `dispatch_accepted_iff`. It rests on
  `ResultSet.isReportedAs_judge` for a single statement.
-/

namespace KbConsole

------------------------------------------------------------
-- Carried Results
------------------------------------------------------------

/- A table with a column of any other name can be shown. -/
theorem Response.isShown_of_column
    {body : Json}
    {result : ResultSet}
    (hResult : resultSet body = .ok result)
    {column : String}
    (hColumn : column ∈ result.columns)
    (hName : column ≠ Row.hiddenColumn) :
    result.IsShown := by
  unfold resultSet at hResult
  split at hResult
  · cases hResult
  · simp only [bind_eq_ok_iff, pure_eq_ok_iff] at hResult
    rcases hResult with ⟨columns, -, rfl⟩
    intro first hFirst
    rw [List.head?_map, Option.map_eq_some_iff] at hFirst
    rcases hFirst with ⟨item, -, rfl⟩
    apply Row.cells_fill_ne_nil
    right
    have hKey :
        column ∈
          Keyed.keys
            (pairCells columns (item.items?.getD [])) := by
      rw [keys_pairCells]
      exact hColumn
    rcases List.mem_map.mp hKey with ⟨cell, hMember, rfl⟩
    exact ⟨cell, hMember, hName⟩
  · cases hResult
    cases hColumn

/- An accepted and readable reply, with its result. -/
inductive Reply.Carries : Reply → ResultSet → Prop where
  | answer
      {status : Nat}
      {body : Json}
      {cookie : Option String}
      {result : ResultSet}
      (hStatus : isSuccess status = true)
      (hResult : Response.resultSet body = .ok result) :
      Carries (.answer status (.ok body) cookie) result

/- A reply has no other result. -/
theorem Reply.Carries.unique
    {reply : Reply}
    {result other : ResultSet}
    (hResult : reply.Carries result)
    (hOther : reply.Carries other) :
    result = other := by
  rcases hResult with ⟨_, hResult⟩
  rcases hOther with ⟨_, hOther⟩
  rw [hResult] at hOther
  exact Except.ok.inj hOther

namespace Session

/- What is given for a statement is what its reply carries. -/
theorem queryResult_of_carries
    (settings : Settings)
    {reply : Reply}
    {result : ResultSet}
    (hCarries : reply.Carries result) :
    queryResult settings reply = .ok result := by
  rcases hCarries with ⟨hStatus, hResult⟩
  simp only [queryResult, Reply.accept, hStatus, if_true,
    hResult]

/- Without credentials all exchanges are queries. -/
theorem IsSession.isAnswered
    {settings : Settings}
    {statements : List String}
    {exchanges : List Served}
    {results : List (Except Rejection ResultSet)}
    (hSession :
      IsSession settings statements exchanges results)
    (hNone : settings.credentials? = none) :
    IsAnswered settings none statements exchanges results := by
  cases hSession with
  | anonymous _ hAnswered => exact hAnswered
  | refused hCredentials _ _ =>
      rw [hNone] at hCredentials
      cases hCredentials
  | accepted hCredentials _ _ _ =>
      rw [hNone] at hCredentials
      cases hCredentials

end Session

------------------------------------------------------------
-- Runs
------------------------------------------------------------

section Runs

open Session

variable {σ : Type}

section Reports

variable
  {settings : Settings}
  {cookie : Option String}
  {acknowledgement : String}
  {statements warnings : List String}
  {acts : List Act}
  {steps : List Step}
  {exchanges : List Served}
  (hRun : Act.IsRun acknowledgement statements acts steps)
  (hAnswered :
    IsAnswered settings cookie (Act.executions acts)
      exchanges (Act.results acts))

include hRun hAnswered

/- A statement is reported by what its reply carries. -/
theorem exists_outcome_of_carries
    {i : Nat}
    {query : Served}
    {result : ResultSet}
    (hQuery : exchanges[i]? = some query)
    (hCarries : query.reply.Carries result) :
    ∃ sql outcome,
      statements[i]? = some sql ∧
        IsQuery settings cookie sql query.call ∧
        (Report.ofSteps statements warnings
          steps).outcomes[i]? = some outcome ∧
        result.IsReportedAs outcome := by
  have hLengths :
      exchanges.length = (Act.executions acts).length := by
    rw [hAnswered.calls.length_eq, List.length_map]
  have hLt : i < exchanges.length :=
    (List.getElem?_eq_some_iff.mp hQuery).1
  rw [hLengths] at hLt
  obtain ⟨sql, hSent⟩ :
      ∃ sql, (Act.executions acts)[i]? = some sql :=
    ⟨_, List.getElem?_eq_getElem hLt⟩
  have hSql : statements[i]? = some sql := by
    rcases hRun.executions_prefix with ⟨rest, hRest⟩
    rw [← hRest, List.getElem?_append_left hLt, hSent]
  obtain ⟨step, hStep⟩ : ∃ step, steps[i]? = some step := by
    rw [← hRun.length_steps] at hLt
    exact ⟨_, List.getElem?_eq_getElem hLt⟩
  rcases hAnswered.getElem? hSent with
    ⟨other, hOther, hCall, hResult⟩
  rw [hQuery, Option.some.injEq] at hOther
  subst hOther
  rw [queryResult_of_carries settings hCarries] at hResult
  rcases hRun.judge_eq hSql hResult hStep with
    ⟨isLast, rfl⟩
  refine ⟨sql, _, hSql, hCall, ?_,
    result.isReportedAs_judge acknowledgement isLast sql⟩
  rw [Report.ofSteps, List.getElem?_map, hStep]
  rfl

/- Only a result that cannot be shown stops a run. -/
theorem passes_iff_isShown
    (hStatements : statements ≠ [])
    (hCarried :
      ∀ query ∈ exchanges, ∃ result,
        query.reply.Carries result) :
    (List.Forall₂ (IsQuery settings cookie) statements
          (exchanges.map Served.call) ∧
        (Report.ofSteps statements warnings
          steps).outcome.isFailure = false) ↔
      ∀ query ∈ exchanges, ∀ result,
        query.reply.Carries result → result.IsShown := by
  have hReport :
      (Report.ofSteps statements warnings steps).IsRun
        statements acts :=
    Report.isRun_ofSteps hRun hStatements
  constructor
  · rintro ⟨-, hDone⟩ query hMember result hCarries
    rcases List.mem_iff_getElem?.mp hMember with ⟨i, hQuery⟩
    rcases exists_outcome_of_carries hRun hAnswered hQuery
        hCarries with
      ⟨-, outcome, -, -, hOutcome, hReported⟩
    rw [← hReported.isFailure_iff]
    by_contra hFails
    rw [Bool.not_eq_false] at hFails
    have hMember := List.mem_of_getElem? hOutcome
    rw [hReport.isFailure_iff.mpr ⟨outcome, hMember, hFails⟩]
      at hDone
    cases hDone
  · intro hShown
    have hDone :
        (Report.ofSteps statements warnings
          steps).outcome.isFailure = false := by
      by_contra hFails
      rw [Bool.not_eq_false, hReport.isFailure_iff] at hFails
      rcases hFails with ⟨outcome, hMember, hFails⟩
      rcases List.mem_iff_getElem?.mp hMember with
        ⟨i, hOutcome⟩
      obtain ⟨query, hQuery⟩ :
          ∃ query, exchanges[i]? = some query := by
        have hLt := (List.getElem?_eq_some_iff.mp hOutcome).1
        rw [hReport.length_outcomes,
          hAnswered.calls.length_eq, List.length_map] at hLt
        exact ⟨_, List.getElem?_eq_getElem hLt⟩
      have hMember := List.mem_of_getElem? hQuery
      rcases hCarried query hMember with ⟨result, hCarries⟩
      rcases exists_outcome_of_carries hRun hAnswered hQuery
          hCarries with
        ⟨-, other, -, -, hOther, hReported⟩
      rw [hOutcome, Option.some.injEq] at hOther
      rw [hOther, hReported.isFailure_iff.mpr
        (hShown query hMember result hCarries)] at hFails
      cases hFails
    refine ⟨?_, hDone⟩
    have hAll : Act.executions acts = statements := by
      by_contra hLeft
      rw [hReport.stopped hLeft] at hDone
      cases hDone
    rw [← hAll]
    exact hAnswered.calls

end Reports

/-
  Where the server carries out every statement that is sent,
  without a login, a statement is reported as failed exactly
  if its result cannot be shown. Unless there is such a
  result, all statements are sent and the operation does not
  fail. A result with a column of any but the hidden name
  can be shown.
-/
theorem dispatch_accepted_iff
    (server : Server σ)
    {settings : Settings}
    {d : Sql.Dialect}
    {name : String}
    {args : Arguments}
    {op : Operation}
    {request : Request}
    {statements : List String}
    (hNone : settings.credentials? = none)
    (hName : Operation.ofName? name = some op)
    (hPrepare :
      prepare op args settings d = .ok (request, statements))
    (state : σ) :
    let run :=
      dispatch (Session.runner server.recorded settings)
        settings d false name args (none, state, [])
    let report := run.1
    let exchanges := run.2.2.2
    (∀ query ∈ exchanges, ∃ result,
      query.reply.Carries result) →
      (∀ (i : Nat) query result,
        exchanges[i]? = some query →
        query.reply.Carries result →
          ∃ sql outcome,
            statements[i]? = some sql ∧
              IsQuery settings none sql query.call ∧
              report.outcomes[i]? = some outcome ∧
              result.IsReportedAs outcome) ∧
        ((List.Forall₂ (IsQuery settings none) statements
              (exchanges.map Served.call) ∧
            report.outcome.isFailure = false) ↔
          ∀ query ∈ exchanges, ∀ result,
            query.reply.Carries result → result.IsShown) ∧
        ∀ reply result,
          Reply.Carries reply result →
          (∃ column ∈ result.columns,
            column ≠ Row.hiddenColumn) →
          result.IsShown := by
  intro run report exchanges hCarried
  rcases Runner.isRun_runAll
      (Session.runner server.recorded settings)
      request.acknowledgement statements (none, state, []) []
    with ⟨acts, hActs, -, hExecuted⟩
  have hRun :=
    dispatch_of_prepare
      (Session.runner server.recorded settings) hName hPrepare
      (none, state, [])
  have hReport :
      report =
        Report.ofSteps statements request.warnings
          (Runner.runAll _ request.acknowledgement statements
            (none, state, [])).1 :=
    congrArg Prod.fst hRun
  have hExchanges :
      exchanges =
        (Runner.runAll _ request.acknowledgement statements
          (none, state, [])).2.2.2 :=
    congrArg (fun run => run.2.2.2) hRun
  have hSession :=
    isSession_executeAll server settings
      (Act.executions acts) state
  rw [← executeAll_runner, hExecuted] at hSession
  have hAnswered := hSession.isAnswered hNone
  rw [← hExchanges] at hAnswered
  rw [hReport]
  refine ⟨?_, ?_, ?_⟩
  · intro i query result hQuery hCarries
    exact exists_outcome_of_carries hActs hAnswered hQuery
      hCarries
  · exact passes_iff_isShown hActs hAnswered
      (prepare_ne_nil hPrepare) hCarried
  · rintro reply result ⟨_, hResult⟩
      ⟨column, hColumn, hShown⟩
    exact Response.isShown_of_column hResult hColumn hShown

/- A list of databases is shown. -/
theorem dispatch_accepted_iff_databases :
    let reply : Reply :=
      .answer 200
        (.ok (.object
          [("type", .text "table"),
            ("column_names", .array [.text "Database"]),
            ("data", .array [.array [.text "mindsdb"]])]))
        none
    let server : Server Unit := fun _ state => (reply, state)
    let run :=
      dispatch (Session.runner server.recorded {}) {} {} false
        "kb.list-databases" [] (none, (), [])
    List.Forall₂ (IsQuery {} none) ["SHOW DATABASES;"]
        (run.2.2.2.map Served.call) ∧
      run.1.outcome.isFailure = false := by
  intro reply server run
  let result : ResultSet :=
    { columns := ["Database"]
      rows :=
        [{ cells := [("Database", some (.text "mindsdb"))] }] }
  have hPrepare :
      prepare .listDatabases [] {} {} =
        .ok (.listDatabases, ["SHOW DATABASES;"]) := rfl
  have hExchanges :
      run.2.2.2 =
        [⟨queryCall {} none "SHOW DATABASES;", reply⟩] := rfl
  have hName :
      Operation.ofName? "kb.list-databases" =
        some .listDatabases := rfl
  have hReplies :
      ∀ query ∈ run.2.2.2, query.reply = reply := by
    rw [hExchanges]
    intro query hMember
    rw [List.mem_singleton.mp hMember]
  have hCarried :
      ∀ query ∈ run.2.2.2, ∃ result,
        query.reply.Carries result := by
    intro query hMember
    rw [hReplies query hMember]
    exact ⟨result, .answer rfl rfl⟩
  rcases dispatch_accepted_iff server rfl hName hPrepare ()
      hCarried with ⟨-, hIff, hShown⟩
  apply hIff.mpr
  intro query hMember other hCarries
  rw [hReplies query hMember] at hCarries
  apply hShown reply other hCarries
  have hOther : reply.Carries result := .answer rfl rfl
  rw [← hOther.unique hCarries]
  exact ⟨"Database", List.mem_singleton_self _, by decide⟩

/-
  A table without columns, but with a row, is an answer of
  the server like any other. It is taken for a failure.
-/
theorem dispatch_accepted_failed :
    let reply : Reply :=
      .answer 200
        (.ok (.object
          [("type", .text "table"), ("column_names", .array []),
            ("data", .array [.array []])]))
        none
    let server : Server Unit := fun _ state => (reply, state)
    let run :=
      dispatch (Session.runner server.recorded {}) {} {} false
        "kb.list-databases" [] (none, (), [])
    reply.Carries { rows := [{}] } ∧
      run.1.outcome =
        .failure .remoteFailure
          "remote error: Invalid count value: -2" := by
  intro reply server run
  constructor
  · exact .answer rfl rfl
  · decide +kernel

end Runs

end KbConsole
