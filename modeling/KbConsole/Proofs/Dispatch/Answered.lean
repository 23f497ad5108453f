import KbConsole.Proofs.Dispatch.Contract
import KbConsole.Proofs.Server.Protocol

/-
  Dispatches over a session with a server: which statements
  are reported as done although the server never answered
  them.

  A statement that creates an object is done, too, when it
  is rejected because the object is there already. Whether
  it is, is told from the message of the rejection alone,
  also when that is the message of a failed login or of a
  failed connection.

  Key definitions include:
    * `Session.runner`
    * `Session.IsAnsweredAt`, `Session.IsUnansweredAt`

  The main statement is `dispatch_done_unanswered_iff`.
-/

namespace KbConsole

------------------------------------------------------------
-- Rejected Statements
------------------------------------------------------------

/-
  A rejected statement is done exactly if it creates an
  object and the rejection is read as saying that the object
  is there.
-/
theorem isFailure_judge_error
    (acknowledgement : String)
    (isLast : Bool)
    (sql : String)
    (rejection : Rejection) :
    (Step.judge acknowledgement isLast sql
        (.error rejection)).outcome.isFailure = false ↔
      (CreatedObject.ofText? sql).isSome = true ∧
        rejection.alreadyExists = true := by
  rw [← Bool.not_eq_true,
    (Step.isJudged_judge _ _ _ _).isFailure_iff,
    CreatedObject.isSome_ofText?_iff,
    Rejection.alreadyExists_iff]
  constructor
  · intro hDone
    by_contra hOther
    exact hDone (.rejected hOther)
  · rintro hExisting (_ | hOther)
    exact hOther hExisting

namespace Session

variable {σ : Type}

------------------------------------------------------------
-- Answers
------------------------------------------------------------

/- The exchanges in which statements were sent. -/
def queries
    (settings : Settings)
    (exchanges : List Served) : List Served :=
  exchanges.filter fun exchange =>
    exchange.call.url == settings.serverUrl ++ "/api/sql/query"

/-
  The statement in the given place was sent in a query of
  its own, and the server answered it in some way.
-/
def IsAnsweredAt
    (settings : Settings)
    (exchanges : List Served)
    (i : Nat)
    (sql : String) : Prop :=
  ∃ cookie query status body setCookie,
    (queries settings exchanges)[i]? = some query ∧
      IsQuery settings cookie sql query.call ∧
      query.reply = .answer status body setCookie

/-
  Why the statement in the given place has no answer: the
  login of the session failed, or the server could not be
  reached.
-/
inductive IsUnansweredAt
    (settings : Settings)
    (exchanges : List Served)
    (i : Nat) : Rejection → Prop where
  | login
      {user password : String}
      {reply : Reply}
      {rejection : Rejection}
      (hCredentials :
        settings.credentials? = some (user, password))
      (hFirst :
        exchanges.head? =
          some ⟨loginCall settings user password, reply⟩)
      (hLogin :
        loginResult settings user reply = .error rejection) :
      IsUnansweredAt settings exchanges i rejection
  | query
      {query : Served}
      {reason : String}
      (hQuery :
        (queries settings exchanges)[i]? = some query)
      (hReply : query.reply = .unreachable reason) :
      IsUnansweredAt settings exchanges i
        (.remote
          ("Could not reach MindsDB at " ++
            (settings.serverUrl ++ "/api/sql/query") ++ ": " ++
            reason)
          none)

section Queries

variable
  {settings : Settings}
  {cookie : Option String}
  {statements : List String}
  {exchanges : List Served}
  {results : List (Except Rejection ResultSet)}

theorem IsAnswered.isQuery_of_mem
    (hAnswered :
      IsAnswered settings cookie statements exchanges results)
    {query : Served}
    (hMember : query ∈ exchanges) :
    ∃ sql, IsQuery settings cookie sql query.call := by
  have hCalls := hAnswered.calls
  rw [List.forall₂_map_right_iff] at hCalls
  clear hAnswered
  induction hCalls with
  | nil => cases hMember
  | @cons sql first rest others hFirst hRest ih =>
      rcases List.mem_cons.mp hMember with rfl | hMember
      · exact ⟨sql, hFirst⟩
      · exact ih hMember

/- Every exchange of an answered run is a query. -/
theorem IsAnswered.queries_eq
    (hAnswered :
      IsAnswered settings cookie statements exchanges
        results) :
    queries settings exchanges = exchanges := by
  apply List.filter_eq_self.mpr
  intro query hMember
  rcases hAnswered.isQuery_of_mem hMember with
    ⟨sql, hQuery⟩
  rw [hQuery.url_eq]
  exact beq_self_eq_true _

/- A login is no query. -/
theorem queries_login_cons
    (user password : String)
    (reply : Reply) :
    queries settings
        (⟨loginCall settings user password, reply⟩ ::
          exchanges) =
      queries settings exchanges := by
  apply List.filter_cons_of_neg
  rw [beq_iff_eq]
  exact fun hUrl =>
    login_url_ne_query settings.serverUrl hUrl

/- The statement in each place, its query and its result. -/
theorem IsAnswered.getElem?
    (hAnswered :
      IsAnswered settings cookie statements exchanges results)
    {i : Nat}
    {sql : String}
    (hSql : statements[i]? = some sql) :
    ∃ query,
      exchanges[i]? = some query ∧
        IsQuery settings cookie sql query.call ∧
        results[i]? =
          some (queryResult settings query.reply) := by
  rcases hAnswered with ⟨hCalls, -, rfl⟩
  rw [List.forall₂_map_right_iff] at hCalls
  induction hCalls generalizing i with
  | nil => cases hSql
  | @cons sql' query rest others hFirst hRest ih =>
      cases i with
      | zero =>
          cases hSql
          exact ⟨query, rfl, hFirst, rfl⟩
      | succ i => exact ih hSql

/- What is given for a query that cannot reach the server. -/
theorem IsAnswered.result_eq
    (hAnswered :
      IsAnswered settings cookie statements exchanges results)
    {i : Nat}
    {sql : String}
    {result : Except Rejection ResultSet}
    {query : Served}
    {reason : String}
    (hSql : statements[i]? = some sql)
    (hResult : results[i]? = some result)
    (hQuery : exchanges[i]? = some query)
    (hReply : query.reply = .unreachable reason) :
    result =
      .error (.remote
        ("Could not reach MindsDB at " ++
          (settings.serverUrl ++ "/api/sql/query") ++ ": " ++
          reason)
        none) := by
  rcases hAnswered.getElem? hSql with
    ⟨other, hOther, _, hGives⟩
  rw [hQuery, Option.some.injEq] at hOther
  rw [hResult, Option.some.injEq, ← hOther, hReply] at hGives
  exact hGives

/- A reply is either an answer or the lack of one. -/
theorem isAnsweredAt_or_isUnansweredAt
    (hSession :
      IsSession settings statements exchanges results)
    {i : Nat}
    {sql : String}
    {result : Except Rejection ResultSet}
    (hSql : statements[i]? = some sql)
    (hResult : results[i]? = some result) :
    IsAnsweredAt settings exchanges i sql ∨
      ∃ rejection,
        IsUnansweredAt settings exchanges i rejection ∧
          result = .error rejection := by
  have hQueries
      {cookie : Option String}
      {asked : List Served}
      (hAnswered :
        IsAnswered settings cookie statements asked results)
      (hAsked : queries settings exchanges = asked) :
      IsAnsweredAt settings exchanges i sql ∨
        ∃ rejection,
          IsUnansweredAt settings exchanges i rejection ∧
            result = .error rejection := by
    rcases hAnswered.getElem? hSql with
      ⟨query, hQuery, hCall, hGives⟩
    rw [hResult, Option.some.injEq] at hGives
    rw [← hAsked] at hQuery
    cases hReply : query.reply with
    | answer status body setCookie =>
        exact Or.inl
          ⟨_, query, status, body, setCookie, hQuery, hCall,
            hReply⟩
    | unreachable reason =>
        rw [hReply] at hGives
        exact Or.inr ⟨_, .query hQuery hReply, hGives⟩
  cases hSession with
  | anonymous _ hAnswered =>
      exact hQueries hAnswered hAnswered.queries_eq
  | @refused user password reply rejection hCredentials
      hStatements hLogin =>
      rw [List.getElem?_map, hSql] at hResult
      rcases Option.some.inj hResult with rfl
      exact Or.inr
        ⟨rejection, .login hCredentials rfl hLogin, rfl⟩
  | accepted _ _ _ hAnswered =>
      refine hQueries hAnswered ?_
      rw [queries_login_cons]
      exact hAnswered.queries_eq

theorem IsUnansweredAt.not_isAnsweredAt
    {i : Nat}
    {sql : String}
    {query : Served}
    {reason : String}
    (hQuery : (queries settings exchanges)[i]? = some query)
    (hReply : query.reply = .unreachable reason) :
    ¬ IsAnsweredAt settings exchanges i sql := by
  rintro ⟨_, other, status, body, setCookie, hOther, _, hAnswer⟩
  rw [hQuery, Option.some.injEq] at hOther
  rw [← hOther, hReply] at hAnswer
  cases hAnswer

/- After a login that failed, nothing is sent. -/
theorem queries_login
    (settings : Settings)
    (user password : String)
    (reply : Reply) :
    queries settings
        [⟨loginCall settings user password, reply⟩] = [] := by
  rw [queries_login_cons]
  rfl

/- There is one login, and it comes first. -/
theorem loginResult_eq
    {user password user' password' : String}
    {reply reply' : Reply}
    (hGiven :
      settings.credentials? = some (user, password))
    (hCredentials :
      settings.credentials? = some (user', password'))
    (hFirst :
      (⟨loginCall settings user password, reply⟩ ::
          exchanges).head? =
        some ⟨loginCall settings user' password', reply'⟩) :
    loginResult settings user reply =
      loginResult settings user' reply' := by
  rcases credentials_unique hGiven hCredentials with
    ⟨rfl, rfl⟩
  rw [List.head?_cons, Option.some.injEq] at hFirst
  have hReply : reply = reply' :=
    congrArg Served.reply hFirst
  rw [hReply]

/- A statement without an answer is rejected for that. -/
theorem IsUnansweredAt.result_eq
    (hSession :
      IsSession settings statements exchanges results)
    {i : Nat}
    {sql : String}
    {result : Except Rejection ResultSet}
    {rejection : Rejection}
    (hUnanswered :
      IsUnansweredAt settings exchanges i rejection)
    (hSql : statements[i]? = some sql)
    (hResult : results[i]? = some result) :
    result = .error rejection ∧
      ¬ IsAnsweredAt settings exchanges i sql := by
  cases hSession with
  | anonymous hNone hAnswered =>
      cases hUnanswered with
      | login hCredentials hFirst hLogin =>
          rcases hNone with hNone | rfl
          · rw [hNone] at hCredentials
            cases hCredentials
          · cases hSql
      | query hQuery hReply =>
          exact ⟨hAnswered.result_eq hSql hResult
            (hAnswered.queries_eq ▸ hQuery) hReply,
            not_isAnsweredAt hQuery hReply⟩
  | @refused user password reply rejection' hGiven _ hRefused =>
      have hNone := queries_login settings user password reply
      cases hUnanswered with
      | @login user' password' reply' _ hCredentials hFirst
          hLogin =>
          rw [← loginResult_eq hGiven hCredentials hFirst,
            hRefused] at hLogin
          have hSame : rejection' = rejection :=
            Except.error.inj hLogin
          rw [List.getElem?_map, hSql, hSame] at hResult
          refine ⟨(Option.some.inj hResult).symm, ?_⟩
          rintro ⟨_, query, _, _, _, hQuery, _⟩
          rw [hNone] at hQuery
          cases hQuery
      | query hQuery hReply =>
          rw [hNone] at hQuery
          cases hQuery
  | @accepted user password reply cookie asked _ hGiven _
      hAccepted hAnswered =>
      cases hUnanswered with
      | @login user' password' reply' _ hCredentials hFirst
          hLogin =>
          rw [← loginResult_eq hGiven hCredentials hFirst,
            hAccepted] at hLogin
          cases hLogin
      | query hQuery hReply =>
          have hAsked := hQuery
          rw [queries_login_cons, hAnswered.queries_eq]
            at hAsked
          exact ⟨hAnswered.result_eq hSql hResult hAsked hReply,
            not_isAnsweredAt hQuery hReply⟩

end Queries

------------------------------------------------------------
-- Sessions as Runners
------------------------------------------------------------

/- The runner that executes statements in a session. -/
def runner
    (server : Server σ)
    (settings : Settings) : Runner (Session × σ) where
  announce _ state := state
  execute sql state := execute server settings sql state

theorem executeAll_runner
    (server : Server σ)
    (settings : Settings)
    (statements : List String)
    (state : Session × σ) :
    (runner server settings).executeAll statements state =
      executeAll server settings statements state := by
  induction statements generalizing state with
  | nil => rfl
  | cons sql rest ih =>
      simp only [Runner.executeAll, executeAll, ih]
      rfl

end Session

------------------------------------------------------------
-- Done without an Answer
------------------------------------------------------------

section Done

open Session

variable {σ : Type}

/- What makes a step of a run done without an answer. -/
theorem done_unanswered_iff
    {settings : Settings}
    {acknowledgement : String}
    {statements : List String}
    {acts : List Act}
    {steps : List Step}
    {exchanges : List Served}
    (hRun : Act.IsRun acknowledgement statements acts steps)
    (hSession :
      IsSession settings (Act.executions acts) exchanges
        (Act.results acts))
    {i : Nat}
    {sql : String}
    {step : Step}
    (hSql : statements[i]? = some sql)
    (hStep : steps[i]? = some step) :
    (step.outcome.isFailure = false ∧
        ¬ IsAnsweredAt settings exchanges i sql) ↔
      ((CreatedObject.ofText? sql).isSome = true ∧
        ∃ rejection,
          IsUnansweredAt settings exchanges i rejection ∧
            rejection.alreadyExists = true) := by
  have hLt : i < steps.length :=
    (List.getElem?_eq_some_iff.mp hStep).1
  have hSent : (Act.executions acts)[i]? = some sql := by
    rcases hRun.executions_prefix with ⟨rest, hRest⟩
    rw [← hSql, ← hRest, List.getElem?_append_left]
    rw [← hRun.length_steps]
    exact hLt
  obtain ⟨result, hResult⟩ :
      ∃ result, (Act.results acts)[i]? = some result := by
    rw [← hRun.length_results] at hLt
    exact ⟨_, List.getElem?_eq_getElem hLt⟩
  rcases hRun.judge_eq hSql hResult hStep with
    ⟨isLast, rfl⟩
  constructor
  · rintro ⟨hDone, hNot⟩
    rcases isAnsweredAt_or_isUnansweredAt hSession hSent
        hResult with hAnswered | ⟨rejection, hWhy, rfl⟩
    · exact absurd hAnswered hNot
    · rw [isFailure_judge_error] at hDone
      exact ⟨hDone.1, rejection, hWhy, hDone.2⟩
  · rintro ⟨hCreates, rejection, hWhy, hExists⟩
    rcases hWhy.result_eq hSession hSent hResult with
      ⟨rfl, hNot⟩
    rw [isFailure_judge_error]
    exact ⟨⟨hCreates, hExists⟩, hNot⟩

/-
  A statement is reported as done without an answer of the
  server exactly if it creates an object and the reason why
  it has no answer is read as saying that the object is
  there already.
-/
theorem dispatch_done_unanswered_iff
    (server : Server σ)
    (settings : Settings)
    (d : Sql.Dialect)
    (dryRun : Bool)
    (name : String)
    (args : Arguments)
    (state : σ)
    {i : Nat}
    {sql : String}
    {outcome : Outcome} :
    let run :=
      dispatch (Session.runner server.recorded settings)
        settings d dryRun name args (none, state, [])
    let report := run.1
    let exchanges := run.2.2.2
    report.statements[i]? = some sql →
    report.outcomes[i]? = some outcome →
      ((outcome.isFailure = false ∧
          ¬ IsAnsweredAt settings exchanges i sql) ↔
        ((CreatedObject.ofText? sql).isSome = true ∧
          ∃ rejection,
            IsUnansweredAt settings exchanges i rejection ∧
              rejection.alreadyExists = true)) := by
  intro run report exchanges hSql hOutcome
  rcases dispatch_eq_ofSteps
      (Session.runner server.recorded settings) settings d
      dryRun name args (none, state, []) with
    hNone | ⟨acknowledgement, statements, warnings, hRun⟩
  · have hEmpty : report.outcomes = [] := hNone
    rw [hEmpty] at hOutcome
    cases hOutcome
  · rcases Runner.isRun_runAll
        (Session.runner server.recorded settings)
        acknowledgement statements (none, state, []) [] with
      ⟨acts, hActs, _, hExecuted⟩
    rw [executeAll_runner] at hExecuted
    have hSession :=
      isSession_executeAll server settings
        (Act.executions acts) state
    rw [hExecuted] at hSession
    have hReport :
        report =
          Report.ofSteps statements warnings
            (Runner.runAll _ acknowledgement statements
              (none, state, [])).1 :=
      congrArg Prod.fst hRun
    have hExchanges :
        exchanges =
          (Runner.runAll _ acknowledgement statements
            (none, state, [])).2.2.2 :=
      congrArg (fun run => run.2.2.2) hRun
    rw [hReport] at hSql hOutcome
    rw [hExchanges]
    rw [Report.ofSteps, List.getElem?_map,
      Option.map_eq_some_iff] at hOutcome
    rcases hOutcome with ⟨step, hStep, rfl⟩
    exact done_unanswered_iff hActs hSession hSql hStep

/- A login is refused, and the datasource reported as there. -/
theorem dispatch_done_unsent :
    let busy : Server Unit := fun _ state =>
      (.answer 409
        (.ok (.object
          [("error_message", .text "session already exists")]))
        none, state)
    let settings : Settings :=
      { user := some "admin", password := some "pw" }
    let run :=
      dispatch (Session.runner busy.recorded settings) settings
        {} false "setup.hackernews" [] (none, (), [])
    run.1.outcomes = [.empty] ∧
      run.1.text = "Datasource 'hackernews' already exists." ∧
      ∀ i sql, ¬ IsAnsweredAt settings run.2.2.2 i sql := by
  intro busy settings run
  have hRun :
      run.1.outcomes = [.empty] ∧
        run.1.text = "Datasource 'hackernews' already exists." ∧
        (queries settings run.2.2.2).isEmpty = true := by
    decide +kernel
  refine ⟨hRun.1, hRun.2.1, ?_⟩
  rintro i sql ⟨_, query, _, _, _, hQuery, _⟩
  rw [List.isEmpty_iff.mp hRun.2.2] at hQuery
  cases hQuery

/- The refused login is why the statement has no answer. -/
theorem dispatch_done_unanswered_login :
    let busy : Server Unit := fun _ state =>
      (.answer 409
        (.ok (.object
          [("error_message", .text "session already exists")]))
        none, state)
    let settings : Settings :=
      { user := some "admin", password := some "pw" }
    let run :=
      dispatch (Session.runner busy.recorded settings) settings
        {} false "setup.hackernews" [] (none, (), [])
    run.1.outcomes = [.empty] ∧
      ¬ IsAnsweredAt settings run.2.2.2 0
        ("CREATE DATABASE hackernews WITH ENGINE = " ++
          "'hackernews';") := by
  intro busy settings run
  have hRun :
      run.1.statements =
          ["CREATE DATABASE hackernews WITH ENGINE = " ++
            "'hackernews';"] ∧
        run.1.outcomes = [.empty] := by
    decide +kernel
  have hFirst :
      run.2.2.2.head? =
        some
          ⟨loginCall settings "admin" "pw",
            .answer 409
              (.ok (.object
                [("error_message",
                  .text "session already exists")]))
              none⟩ := by
    rfl
  have hSql :
      run.1.statements[0]? =
        some
          ("CREATE DATABASE hackernews WITH ENGINE = " ++
            "'hackernews';") := by
    rw [hRun.1]
    rfl
  have hOutcome :
      run.1.outcomes[0]? = some .empty := by
    rw [hRun.2]
    rfl
  have hIff :=
    dispatch_done_unanswered_iff busy settings {} false
      "setup.hackernews" [] () hSql hOutcome
  have hDone :=
    hIff.mpr
      ⟨by decide +kernel, _, .login rfl hFirst rfl,
        by decide +kernel⟩
  exact ⟨hRun.2, hDone.2⟩

end Done

end KbConsole
