import KbConsole.Proofs.Server.Login

/-
  The protocol of a session: what is sent to the server in
  the course of a session, and what becomes of its
  statements.

  Key definitions include:
    * `Served`, `Server.recorded`
    * `Session.executeAll`
    * `Session.IsQuery`
    * `Session.IsAnswered`
    * `Session.IsSession`

  The main statement is `Session.executeAll_protocol`. It
  reads `Session.isSession_executeAll`, which rests on two
  runs by induction: one with a cookie, and one after a
  login that failed.
-/

namespace KbConsole

------------------------------------------------------------
-- Exchanges
------------------------------------------------------------

/- A call and the reply to it. -/
structure Served where
  call : Call
  reply : Reply

/- A server that keeps a record of its exchanges. -/
def Server.recorded
    {σ : Type}
    (server : Server σ) : Server (σ × List Served) :=
  fun call state =>
    let (reply, next) := server call state.1
    (reply, next, state.2 ++ [{ call, reply }])

namespace Session

variable {σ : Type}

/- Statements executed one after another in a session. -/
def executeAll
    (server : Server σ)
    (settings : Settings) :
    List String → Session × σ →
      List (Except Rejection ResultSet) × (Session × σ)
  | [], state => ([], state)
  | sql :: rest, state =>
      let (result, state) := execute server settings sql state
      let (results, state) :=
        executeAll server settings rest state
      (result :: results, state)

------------------------------------------------------------
-- Queries
------------------------------------------------------------

/- What the body of a call says about a statement. -/
def queryJson (settings : Settings) (sql : String) : Json :=
  .object
    [("query", .text sql),
      ("context", .object [("db", .text settings.project)])]

theorem isExact_queryJson
    (settings : Settings)
    (sql : String) :
    (queryJson settings sql).IsExact := by
  have hQuery : (Json.text sql).IsExact := trivial
  have hContext :
      (Json.object [("db", .text settings.project)]).IsExact := by
    apply Json.isExact_object ["db"] rfl
    · decide
    · decide
    · simp [Json.IsExact]
  apply Json.isExact_object ["query", "context"] rfl
  · decide
  · decide
  · simp [hQuery, hContext]

/-
  A call that runs a statement: it posts, with the cookie of
  the session, the statement and the project as JSON.
-/
def IsQuery
    (settings : Settings)
    (cookie : Option String)
    (sql : String)
    (call : Call) : Prop :=
  call.Posts (settings.serverUrl ++ "/api/sql/query") cookie
    (queryJson settings sql)

theorem login_url_ne_query (serverUrl : String) :
    serverUrl ++ "/api/login" ≠
      serverUrl ++ "/api/sql/query" := by
  intro hUrl
  have hEnds : "/api/login" = "/api/sql/query" := by
    rw [← String.toList_inj]
    rw [← String.toList_inj, String.toList_append,
      String.toList_append] at hUrl
    exact List.append_cancel_left hUrl
  exact absurd hEnds (by decide)

/- A call that runs a statement is no login. -/
theorem IsQuery.url_ne_login
    {settings : Settings}
    {cookie : Option String}
    {sql : String}
    {call : Call}
    (hQuery : IsQuery settings cookie sql call) :
    call.url ≠ settings.serverUrl ++ "/api/login" := by
  rw [hQuery.url_eq]
  exact (login_url_ne_query settings.serverUrl).symm

theorem isQuery_queryCall
    (settings : Settings)
    (cookie : Option String)
    (sql : String) :
    IsQuery settings cookie sql
      (queryCall settings cookie sql) :=
  Call.posts_iff.mpr
    ⟨queryBody settings sql, rfl,
      Json.parse?_print (isExact_queryJson settings sql)⟩

/-
  Each statement is sent in one call of its own, and its
  result is what the reply to that call gives, whatever
  became of the others.
-/
structure IsAnswered
    (settings : Settings)
    (cookie : Option String)
    (statements : List String)
    (queries : List Served)
    (results : List (Except Rejection ResultSet)) : Prop where
  calls :
    List.Forall₂ (IsQuery settings cookie) statements
      (queries.map Served.call)
  noLogin :
    ∀ query ∈ queries,
      query.call.url ≠ settings.serverUrl ++ "/api/login"
  results_eq :
    results =
      queries.map fun query => queryResult settings query.reply

/-
  The exchanges of a session and the results of its
  statements: without a login, after one that failed, or
  after one that gave a cookie or none.
-/
inductive IsSession
    (settings : Settings)
    (statements : List String) :
    List Served → List (Except Rejection ResultSet) → Prop where
  | anonymous
      {queries : List Served}
      {results : List (Except Rejection ResultSet)}
      (hNone : settings.credentials? = none ∨ statements = [])
      (hAnswered :
        IsAnswered settings none statements queries results) :
      IsSession settings statements queries results
  | refused
      {user password : String}
      {reply : Reply}
      {rejection : Rejection}
      (hCredentials :
        settings.credentials? = some (user, password))
      (hStatements : statements ≠ [])
      (hLogin :
        loginResult settings user reply = .error rejection) :
      IsSession settings statements
        [⟨loginCall settings user password, reply⟩]
        (statements.map fun _ => .error rejection)
  | accepted
      {user password : String}
      {reply : Reply}
      {cookie : Option String}
      {queries : List Served}
      {results : List (Except Rejection ResultSet)}
      (hCredentials :
        settings.credentials? = some (user, password))
      (hStatements : statements ≠ [])
      (hLogin : loginResult settings user reply = .ok cookie)
      (hAnswered :
        IsAnswered settings cookie statements queries
          results) :
      IsSession settings statements
        (⟨loginCall settings user password, reply⟩ :: queries)
        results

------------------------------------------------------------
-- Runs
------------------------------------------------------------

section Runs

variable
  {server : Server σ}
  {settings : Settings}
  {session : Session}

theorem IsAnswered.nil
    {cookie : Option String} :
    IsAnswered settings cookie [] [] [] where
  calls := .nil
  noLogin _ hMember := by cases hMember
  results_eq := rfl

/- By induction on the statements: the session stays. -/
theorem executeAll_of_login_ok
    {cookie : Option String}
    (hLogin :
      ∀ state,
        login server.recorded settings session state =
          (.ok cookie, session, state))
    (statements : List String)
    (state : σ)
    (before : List Served) :
    ∃ queries after,
      (executeAll server.recorded settings statements
          (session, state, before)).2 =
        (session, after, before ++ queries) ∧
      IsAnswered settings cookie statements queries
        (executeAll server.recorded settings statements
          (session, state, before)).1 := by
  induction statements generalizing state before with
  | nil =>
      exact ⟨[], state, by simp [executeAll], .nil⟩
  | cons sql rest ih =>
      rcases hReply :
        server (queryCall settings cookie sql) state with
        ⟨reply, next⟩
      have hQuery :=
        isQuery_queryCall settings cookie sql
      have hExecute :
          execute server.recorded settings sql
              (session, state, before) =
            (queryResult settings reply, session, next,
              before ++
                [⟨queryCall settings cookie sql, reply⟩]) := by
        simp only [execute, hLogin, Server.recorded, hReply]
      rcases ih next
        (before ++ [⟨queryCall settings cookie sql, reply⟩])
        with ⟨queries, after, hState, hAnswered⟩
      refine
        ⟨⟨queryCall settings cookie sql, reply⟩ :: queries,
          after, ?_, ?_, ?_, ?_⟩
      · simp only [executeAll, hExecute, hState,
          List.append_assoc, List.cons_append,
          List.nil_append]
      · exact .cons hQuery hAnswered.calls
      · intro query hMember
        rcases List.mem_cons.mp hMember with rfl | hMember
        · exact hQuery.url_ne_login
        · exact hAnswered.noLogin query hMember
      · simp only [executeAll, hExecute, List.map_cons]
        rw [hAnswered.results_eq]

theorem executeAll_of_login_error
    {rejection : Rejection}
    (hLogin :
      ∀ state,
        login server settings session state =
          (.error rejection, session, state))
    (statements : List String)
    (state : σ) :
    executeAll server settings statements (session, state) =
      (statements.map fun _ => .error rejection, session,
        state) := by
  induction statements with
  | nil => rfl
  | cons sql rest ih =>
      have hExecute :
          execute server settings sql (session, state) =
            (.error rejection, session, state) := by
        simp only [execute, hLogin]
      simp only [executeAll, hExecute, ih, List.map_cons]

/-
  The first statement logs in and is then executed as if the
  session had been logged in before.
-/
theorem executeAll_of_login
    {user password : String}
    (hCredentials :
      settings.credentials? = some (user, password))
    {statements : List String}
    (hStatements : statements ≠ [])
    {state next : σ}
    {reply : Reply}
    (hReply :
      server (loginCall settings user password) state =
        (reply, next)) :
    executeAll server settings statements (none, state) =
      executeAll server settings statements
        (some (loginResult settings user reply), next) := by
  cases statements with
  | nil => exact absurd rfl hStatements
  | cons sql rest =>
      have hExecute :
          execute server settings sql (none, state) =
            execute server settings sql
              (some (loginResult settings user reply),
                next) := by
        simp only [execute, login, hCredentials, hReply]
      simp only [executeAll, hExecute]

/- A session whose login is due begins with it. -/
theorem isSession_of_credentials
    {user password : String}
    (hCredentials :
      settings.credentials? = some (user, password))
    {statements : List String}
    (hStatements : statements ≠ [])
    (state : σ) :
    IsSession settings statements
      (executeAll server.recorded settings statements
        (none, state, [])).2.2.2
      (executeAll server.recorded settings statements
        (none, state, [])).1 := by
  rcases hServer :
    server (loginCall settings user password) state with
    ⟨reply, next⟩
  have hReply :
      server.recorded (loginCall settings user password)
          (state, []) =
        (reply, next,
          [⟨loginCall settings user password, reply⟩]) := by
    simp only [Server.recorded, hServer, List.nil_append]
  rw [executeAll_of_login hCredentials hStatements hReply]
  have hLogin (state : σ × List Served) :
      login server.recorded settings
          (some (loginResult settings user reply)) state =
        (loginResult settings user reply,
          some (loginResult settings user reply), state) := by
    simp only [login, hCredentials]
  cases hResult : loginResult settings user reply with
  | error rejection =>
      rw [hResult] at hLogin
      rw [executeAll_of_login_error hLogin]
      exact .refused hCredentials hStatements hResult
  | ok cookie =>
      rw [hResult] at hLogin
      rcases executeAll_of_login_ok hLogin statements next
          [⟨loginCall settings user password, reply⟩] with
        ⟨queries, after, hState, hAnswered⟩
      rw [hState]
      exact .accepted hCredentials hStatements hResult
        hAnswered

theorem isSession_executeAll
    (server : Server σ)
    (settings : Settings)
    (statements : List String)
    (state : σ) :
    IsSession settings statements
      (executeAll server.recorded settings statements
        (none, state, [])).2.2.2
      (executeAll server.recorded settings statements
        (none, state, [])).1 := by
  cases hCredentials : settings.credentials? with
  | none =>
      have hLogin (state : σ × List Served) :
          login server.recorded settings none state =
            (.ok none, none, state) := by
        simp only [login, hCredentials]
      rcases executeAll_of_login_ok hLogin statements state []
        with ⟨queries, after, hState, hAnswered⟩
      rw [hState]
      exact .anonymous (Or.inl hCredentials) hAnswered
  | some credentials =>
      by_cases hStatements : statements = []
      · subst hStatements
        exact .anonymous (Or.inr rfl) .nil
      · exact isSession_of_credentials hCredentials
          hStatements state

end Runs

------------------------------------------------------------
-- The Protocol
------------------------------------------------------------

theorem credentials_unique
    {settings : Settings}
    {user password user' password' : String}
    (hGiven :
      settings.credentials? = some (user, password))
    (hCredentials :
      settings.credentials? = some (user', password')) :
    user = user' ∧ password = password' := by
  rw [hGiven] at hCredentials
  cases hCredentials
  exact ⟨rfl, rfl⟩

/-
  What a session sends and gives. Without a user and a
  password, or without statements, there is no login.
  Otherwise there is one, as the first call: if it fails,
  nothing else is sent, and all statements are rejected for
  that. If it does not, all calls that follow are queries
  with its cookie.
-/
theorem executeAll_protocol
    (server : Server σ)
    (settings : Settings)
    (statements : List String)
    (state : σ) :
    let run :=
      executeAll server.recorded settings statements
        (none, state, [])
    let results := run.1
    let exchanges := run.2.2.2
    ((∀ user password,
        ¬ settings.HasCredentials user password) ∨
        statements = [] →
      IsAnswered settings none statements exchanges results) ∧
    ∀ user password,
      settings.HasCredentials user password →
      statements ≠ [] →
        ∃ login queries,
          exchanges = login :: queries ∧
          login.call.Posts (settings.serverUrl ++ "/api/login")
            none (loginJson user password) ∧
          ((∃ rejection,
            IsRefusedLogin settings user login.reply
                rejection ∧
              queries = [] ∧
              results =
                statements.map fun _ => .error rejection) ∨
          ∃ cookie,
            IsAcceptedLogin login.reply cookie ∧
              IsAnswered settings cookie statements queries
                results) := by
  intro run results exchanges
  have hSession :
      IsSession settings statements exchanges results :=
    isSession_executeAll server settings statements state
  clear_value exchanges results
  constructor
  · intro hNone
    have hStatements
        {user password : String}
        (hGiven :
          settings.credentials? = some (user, password)) :
        statements = [] := by
      rw [Settings.credentials?_eq_some_iff] at hGiven
      exact hNone.resolve_left fun hAll => hAll _ _ hGiven
    cases hSession with
    | anonymous _ hAnswered => exact hAnswered
    | refused hGiven hSome _ =>
        exact absurd (hStatements hGiven) hSome
    | accepted hGiven hSome _ _ =>
        exact absurd (hStatements hGiven) hSome
  · intro user password hCredentials hStatements
    rw [← Settings.credentials?_eq_some_iff] at hCredentials
    cases hSession with
    | anonymous hNone _ =>
        rw [hCredentials] at hNone
        simp [hStatements] at hNone
    | @refused user' password' reply rejection hGiven _
        hLogin =>
        rcases credentials_unique hGiven hCredentials with
          ⟨rfl, rfl⟩
        refine
          ⟨_, [], rfl, posts_loginCall settings _ _,
            Or.inl ⟨rejection, ?_, rfl, rfl⟩⟩
        exact loginResult_eq_error_iff.mp hLogin
    | @accepted user' password' reply cookie queries results
        hGiven _ hLogin hAnswered =>
        rcases credentials_unique hGiven hCredentials with
          ⟨rfl, rfl⟩
        refine
          ⟨_, queries, rfl, posts_loginCall settings _ _,
            Or.inr ⟨cookie, ?_, hAnswered⟩⟩
        exact loginResult_eq_ok_iff.mp hLogin

/-
  A server that denies the login of a user, and one that
  accepts it and keeps to its cookie. The first statement is
  then rejected, the second one is not.
-/
theorem executeAll_protocol_logins :
    let settings : Settings :=
      { user := some "admin", password := some "pw" }
    let statements := ["SHOW JOBS;", "SHOW MODELS;"]
    let denies : Server Unit := fun _ state =>
      (.answer 403 (.error "<json error>") none, state)
    let accepts : Server Nat := fun _ n =>
      (match n with
        | 0 =>
            .answer 204 (.error "<json error>")
              (some "session=abc; Path=/; HttpOnly")
        | 1 =>
            .answer 500
              (.ok (.object
                [("error_message", .text "no jobs")]))
              none
        | _ =>
            .answer 200
              (.ok (.object
                [("type", .text "table"),
                  ("column_names", .array [.text "NAME"]),
                  ("data", .array [.array [.text "m"]])]))
              none,
        n + 1)
    let denied :=
      executeAll denies.recorded settings statements
        (none, (), [])
    let accepted :=
      executeAll accepts.recorded settings statements
        (none, 0, [])
    (denied.2.2.2.length = 1 ∧
      denied.1 =
        statements.map fun _ =>
          .error
            (.remote "Login failed for user 'admin'"
              (some (.number (.integer 403))))) ∧
    (∃ login queries,
      accepted.2.2.2 = login :: queries ∧
        IsAnswered settings (some "session=abc") statements
          queries accepted.1) ∧
    accepted.2.2.2.map (fun served =>
        (served.call.method, served.call.url,
          served.call.headers, served.call.body)) =
      [("POST", "http://127.0.0.1:47334/api/login",
          [("Content-Type", "application/json")],
          "\x7b\"username\":\"admin\"," ++
            "\"password\":\"pw\"\x7d"),
        ("POST", "http://127.0.0.1:47334/api/sql/query",
          [("Content-Type", "application/json"),
            ("Cookie", "session=abc")],
          "\x7b\"query\":\"SHOW JOBS;\"," ++
            "\"context\":\x7b\"db\":\"mindsdb\"\x7d\x7d"),
        ("POST", "http://127.0.0.1:47334/api/sql/query",
          [("Content-Type", "application/json"),
            ("Cookie", "session=abc")],
          "\x7b\"query\":\"SHOW MODELS;\"," ++
            "\"context\":\x7b\"db\":\"mindsdb\"\x7d\x7d")] ∧
    accepted.1 =
      [.error
          (.remote "no jobs" (some (.number (.integer 500)))),
        .ok
          { columns := ["NAME"]
            rows :=
              [{ cells := [("NAME", some (.text "m"))] }] }] := by
  intro settings statements denies accepts denied accepted
  have hCredentials :
      settings.HasCredentials "admin" "pw" :=
    ⟨rfl, by decide, rfl, by decide⟩
  refine ⟨?_, ?_, by decide +kernel, by decide +kernel⟩
  · rcases (executeAll_protocol denies settings statements
        ()).2 "admin" "pw" hCredentials
          (List.cons_ne_nil _ _) with
      ⟨login, queries, hExchanges, -, hEnds⟩
    have hReply :
        some login.reply =
          some (.answer 403 (.error "<json error>") none) :=
      congrArg (fun list => list.head?.map Served.reply)
        hExchanges.symm
    rw [Option.some.inj hReply] at hEnds
    rcases hEnds with
      ⟨rejection, hRefused, rfl, hResults⟩ |
        ⟨cookie, hAccepted, -⟩
    · rw [← loginResult_eq_error_iff] at hRefused
      rcases Except.error.inj hRefused with rfl
      exact ⟨congrArg List.length hExchanges, hResults⟩
    · rcases hAccepted with ⟨-, hMost, -⟩
      exact absurd hMost (by decide)
  · rcases (executeAll_protocol accepts settings statements
        0).2 "admin" "pw" hCredentials
          (List.cons_ne_nil _ _) with
      ⟨login, queries, hExchanges, -, hEnds⟩
    have hReply :
        some login.reply =
          some (.answer 204 (.error "<json error>")
            (some "session=abc; Path=/; HttpOnly")) :=
      congrArg (fun list => list.head?.map Served.reply)
        hExchanges.symm
    rw [Option.some.inj hReply] at hEnds
    rcases hEnds with
      ⟨rejection, hRefused, -⟩ | ⟨cookie, hAccepted, hAnswered⟩
    · rcases hRefused with _ | ⟨hStatus, -⟩
      exact absurd ⟨by decide, by decide⟩ hStatus
    · rcases hAccepted with ⟨-, -, hCookie⟩
      rw [← sessionCookie?_eq_iff] at hCookie
      rcases hCookie with rfl
      exact ⟨login, queries, hExchanges, hAnswered⟩

end Session

end KbConsole
