import KbConsole.Proofs.Dispatch.Answered

/-
  Statements that are rejected by something other than the
  server.

  What a server reports, and what keeps a call from reaching
  it, is a remote rejection. The bodies of refused answers
  may be of any kind; but an accepted answer has to be read,
  and where that fails the rejection is another one.

  Key definitions include:
    * `Rejection.IsRemote`
    * `Reply.IsIllegible`

  The main statement is `Session.executeAll_isRemote_iff`. It
  rests on `Session.failsWith_queryResult_iff` for a single
  reply.
-/

namespace KbConsole

------------------------------------------------------------
-- Remote Rejections
------------------------------------------------------------

/- Whether the server, or the way to it, reported an error. -/
def Rejection.IsRemote (rejection : Rejection) : Prop :=
  ∃ message code, rejection = .remote message code

theorem Rejection.isRemote_remote
    (message : String)
    (code : Option ErrorCode) :
    (remote message code).IsRemote :=
  ⟨message, code, rfl⟩

/- Whether a call is accepted or not, nothing else is said. -/
theorem Reply.failsWith_accept
    (url : String)
    (fallback : Nat → String)
    (reply : Reply) :
    FailsWith Rejection.IsRemote
      (reply.accept url fallback) := by
  cases reply with
  | unreachable reason =>
      exact .error (Rejection.isRemote_remote _ _)
  | answer status body cookie =>
      simp only [Reply.accept]
      split
      · exact .ok _
      · exact .error (Rejection.isRemote_remote _ _)

------------------------------------------------------------
-- Bodies
------------------------------------------------------------

namespace Response

/- Labels can only fail for want of one. -/
theorem columnLabels_eq_error_iff
    {names : List Json}
    {rejection : Rejection} :
    columnLabels names = .error rejection ↔
      rejection = .unlabelledColumn ∧
        ∃ name ∈ names, name.label? = none := by
  induction names with
  | nil => simp [columnLabels]
  | cons name names ih =>
      rw [List.exists_mem_cons_iff, columnLabels]
      cases hLabel : name.label? with
      | none =>
          simp only [true_or, and_true, Except.error.injEq]
          exact eq_comm
      | some label =>
          simp only [reduceCtorEq, false_or]
          rw [← ih]
          cases columnLabels names with
          | error other => rfl
          | ok labels => simp [bind, Except.bind, pure, Except.pure]

/- A table with a column that has no label. -/
structure HasUnlabelledColumn (body : Json) : Prop where
  isTable : body.member? "type" = some (.text "table")
  unlabelled :
    ∃ names,
      body.member? "column_names" = some (.array names) ∧
        ∃ name ∈ names, name.label? = none

/- A body reports an error, or is a table that fails. -/
theorem isRemote_or_hasUnlabelledColumn
    {body : Json}
    {rejection : Rejection}
    (hRejected : resultSet body = .error rejection) :
    rejection.IsRemote ∨
      rejection = .unlabelledColumn ∧
        HasUnlabelledColumn body := by
  unfold resultSet at hRejected
  split at hRejected
  · rcases Except.error.inj hRejected with rfl
    exact Or.inl (Rejection.isRemote_remote _ _)
  · rename_i names hType hNames
    right
    cases hLabels : columnLabels names with
    | ok columns =>
        rw [hLabels] at hRejected
        cases hRejected
    | error other =>
        rw [hLabels] at hRejected
        rcases Except.error.inj hRejected with rfl
        rcases columnLabels_eq_error_iff.mp hLabels with
          ⟨rfl, hLabel⟩
        exact ⟨rfl, hType, names, hNames, hLabel⟩
  · cases hRejected

theorem HasUnlabelledColumn.resultSet_eq
    {body : Json}
    (hBody : HasUnlabelledColumn body) :
    resultSet body = .error .unlabelledColumn := by
  rcases hBody.unlabelled with ⟨names, hNames, hLabel⟩
  have hLabels :
      columnLabels names = .error .unlabelledColumn :=
    columnLabels_eq_error_iff.mpr ⟨rfl, hLabel⟩
  unfold resultSet
  rw [hBody.isTable, hNames]
  simp only [hLabels]
  rfl

end Response

------------------------------------------------------------
-- Replies
------------------------------------------------------------

/- Whether the server accepted a call. -/
def Reply.isAccepted : Reply → Bool
  | unreachable _ => false
  | answer status _ _ => isSuccess status

/-
  An accepted answer that cannot be read, with the rejection
  that comes of it: its body is not JSON, or a table in it
  has a column without a label.
-/
inductive Reply.IsIllegible : Reply → Rejection → Prop where
  | body
      {status : Nat}
      {reason : String}
      {cookie : Option String}
      (hStatus : isSuccess status = true) :
      IsIllegible (.answer status (.error reason) cookie)
        (.other reason)
  | table
      {status : Nat}
      {body : Json}
      {cookie : Option String}
      (hStatus : isSuccess status = true)
      (hBody : Response.HasUnlabelledColumn body) :
      IsIllegible (.answer status (.ok body) cookie)
        .unlabelledColumn

theorem Reply.IsIllegible.isAccepted
    {reply : Reply}
    {rejection : Rejection}
    (hReply : reply.IsIllegible rejection) :
    reply.isAccepted = true := by
  cases hReply with
  | body hStatus => exact hStatus
  | table hStatus _ => exact hStatus

theorem Reply.IsIllegible.not_isRemote
    {reply : Reply}
    {rejection : Rejection}
    (hReply : reply.IsIllegible rejection) :
    ¬ rejection.IsRemote := by
  rintro ⟨message, code, rfl⟩
  cases hReply

namespace Session

variable
  {settings : Settings}
  {reply : Reply}
  {rejection : Rejection}

theorem queryResult_of_isIllegible
    (hReply : reply.IsIllegible rejection) :
    queryResult settings reply = .error rejection := by
  cases hReply with
  | body hStatus =>
      simp only [queryResult, Reply.accept, hStatus, if_true]
  | table hStatus hBody =>
      simp only [queryResult, Reply.accept, hStatus, if_true]
      exact hBody.resultSet_eq

/- A statement is rejected for one of two reasons. -/
theorem isRemote_or_isIllegible
    (hRejected :
      queryResult settings reply = .error rejection) :
    rejection.IsRemote ∨ reply.IsIllegible rejection := by
  cases reply with
  | unreachable reason =>
      rcases Except.error.inj hRejected with rfl
      exact Or.inl (Rejection.isRemote_remote _ _)
  | answer status body cookie =>
      cases hStatus : isSuccess status with
      | false =>
          simp only [queryResult, Reply.accept, hStatus,
            Bool.false_eq_true, if_false] at hRejected
          rcases Except.error.inj hRejected with rfl
          exact Or.inl (Rejection.isRemote_remote _ _)
      | true =>
          simp only [queryResult, Reply.accept, hStatus,
            if_true] at hRejected
          cases body with
          | error reason =>
              rcases Except.error.inj hRejected with rfl
              exact Or.inr (.body hStatus)
          | ok json =>
              rcases Response.isRemote_or_hasUnlabelledColumn
                  hRejected with hRemote | ⟨rfl, hBody⟩
              · exact Or.inl hRemote
              · exact Or.inr (.table hStatus hBody)

/- Only illegible answers give other rejections. -/
theorem failsWith_queryResult_iff :
    FailsWith Rejection.IsRemote
        (queryResult settings reply) ↔
      ∀ rejection, ¬ reply.IsIllegible rejection := by
  constructor
  · intro hRemote rejection hReply
    apply hReply.not_isRemote
    apply hRemote.of_eq_error
    exact queryResult_of_isIllegible hReply
  · intro hLegible
    constructor
    intro rejection hRejected
    apply (isRemote_or_isIllegible hRejected).resolve_right
    exact hLegible rejection

/- Whatever the server says to a login, it says itself. -/
theorem failsWith_loginResult
    (settings : Settings)
    (user : String)
    (reply : Reply) :
    FailsWith Rejection.IsRemote
      (loginResult settings user reply) :=
  (Reply.failsWith_accept _ _ reply).map

------------------------------------------------------------
-- Sessions
------------------------------------------------------------

section Sessions

variable
  {cookie : Option String}
  {statements : List String}
  {exchanges : List Served}
  {results : List (Except Rejection ResultSet)}

/- Every statement is either given a result or rejected. -/
theorem IsSession.length_results
    (hSession :
      IsSession settings statements exchanges results) :
    results.length = statements.length := by
  cases hSession with
  | anonymous _ hAnswered =>
      rw [hAnswered.results_eq, List.length_map,
        hAnswered.calls.length_eq, List.length_map]
  | refused _ _ _ => rw [List.length_map]
  | accepted _ _ _ hAnswered =>
      rw [hAnswered.results_eq, List.length_map,
        hAnswered.calls.length_eq, List.length_map]

/- The result in each place is that of its query, if any. -/
theorem IsSession.result_cases
    (hSession :
      IsSession settings statements exchanges results)
    {i : Nat}
    {result : Except Rejection ResultSet}
    (hResult : results[i]? = some result) :
    (queries settings exchanges = [] ∧
        FailsWith Rejection.IsRemote result) ∨
      ∃ query,
        (queries settings exchanges)[i]? = some query ∧
          result = queryResult settings query.reply := by
  have hAsked
      {cookie : Option String}
      {asked : List Served}
      (hAnswered :
        IsAnswered settings cookie statements asked results)
      (hQueries : queries settings exchanges = asked) :
      ∃ query,
        (queries settings exchanges)[i]? = some query ∧
          result = queryResult settings query.reply := by
    rw [hAnswered.results_eq, List.getElem?_map,
      Option.map_eq_some_iff] at hResult
    rcases hResult with ⟨query, hQuery, rfl⟩
    rw [hQueries]
    exact ⟨query, hQuery, rfl⟩
  cases hSession with
  | anonymous _ hAnswered =>
      exact Or.inr (hAsked hAnswered hAnswered.queries_eq)
  | @refused user password reply rejection _ _ hLogin =>
      left
      refine ⟨queries_login settings user password reply, ?_⟩
      rw [List.getElem?_map, Option.map_eq_some_iff] at hResult
      rcases hResult with ⟨sql, -, rfl⟩
      apply FailsWith.error
      exact (failsWith_loginResult settings user
        reply).of_eq_error rejection hLogin
  | accepted _ _ _ hAnswered =>
      right
      apply hAsked hAnswered
      rw [queries_login_cons]
      exact hAnswered.queries_eq

end Sessions

/-
  In the course of a session every statement is given a
  table or rejected. It is rejected by something other than
  the server exactly if its query got an accepted answer
  that cannot be read, and then for that reason.
-/
theorem executeAll_isRemote_iff
    {σ : Type}
    (server : Server σ)
    (settings : Settings)
    (statements : List String)
    (state : σ) :
    let run :=
      executeAll server.recorded settings statements
        (none, state, [])
    let results := run.1
    let asked := queries settings run.2.2.2
    results.length = statements.length ∧
      ∀ (i : Nat) result, results[i]? = some result →
        (FailsWith Rejection.IsRemote result ↔
          ∀ query rejection, asked[i]? = some query →
            ¬ query.reply.IsIllegible rejection) ∧
        ∀ query rejection, asked[i]? = some query →
          query.reply.IsIllegible rejection →
            result = .error rejection := by
  intro run results asked
  have hSession :=
    isSession_executeAll server settings statements state
  refine ⟨hSession.length_results, ?_⟩
  intro i result hResult
  rcases hSession.result_cases hResult with
    ⟨hNone, hRemote⟩ | ⟨query, hQuery, rfl⟩
  · have hAsked (query : Served) : asked[i]? ≠ some query := by
      rw [show asked = [] from hNone]
      simp
    refine ⟨⟨?_, fun _ => hRemote⟩, ?_⟩
    · intro _ query rejection hQuery
      exact absurd hQuery (hAsked query)
    · intro query rejection hQuery
      exact absurd hQuery (hAsked query)
  · have hSame
        {other : Served}
        (hOther : asked[i]? = some other) :
        other = query := by
      rw [show asked[i]? = some query from hQuery] at hOther
      exact (Option.some.inj hOther).symm
    constructor
    · rw [failsWith_queryResult_iff]
      constructor
      · intro hLegible other rejection hOther
        rw [hSame hOther]
        exact hLegible rejection
      · intro hLegible rejection
        exact hLegible query rejection hQuery
    · intro other rejection hOther hReply
      rw [hSame hOther] at hReply
      exact queryResult_of_isIllegible hReply

/-
  A refusal that cannot be read is followed by a table whose
  second column is named by an object with a member of its
  own for its label.
-/
theorem executeAll_isRemote_iff_named :
    let named : Json :=
      .object
        [("type", .text "table"),
          ("column_names",
            .array
              [.text "id",
                .object [("toString", .text "name")]])]
    let server : Server Nat := fun _ n =>
      (if n = 0 then .answer 502 (.error "<json error>") none
        else .answer 200 (.ok named) none,
        n + 1)
    let run :=
      executeAll server.recorded {}
        ["SHOW JOBS;", "SHOW MODELS;"] (none, 0, [])
    (∃ rejection,
      run.1[0]? = some (.error rejection) ∧
        rejection.IsRemote) ∧
      run.1[1]? = some (.error .unlabelledColumn) := by
  intro named server run
  have hIff :=
    (executeAll_isRemote_iff server {}
      ["SHOW JOBS;", "SHOW MODELS;"] 0).2
  obtain ⟨rejection, hFirst⟩ :
      ∃ rejection, run.1[0]? = some (.error rejection) :=
    ⟨_, rfl⟩
  obtain ⟨result, hSecond⟩ : ∃ result, run.1[1]? = some result :=
    ⟨_, rfl⟩
  constructor
  · refine ⟨rejection, hFirst, ?_⟩
    apply ((hIff 0 _ hFirst).1.mpr ?_).of_eq_error _ rfl
    intro query other hQuery hReply
    rcases Option.some.inj hQuery with rfl
    exact absurd hReply.isAccepted (by decide)
  · have hNamed : Response.HasUnlabelledColumn named :=
      ⟨rfl, _, rfl, _,
        List.mem_cons_of_mem _ (List.mem_singleton_self _),
        rfl⟩
    rw [hSecond,
      (hIff 1 _ hSecond).2 _ _ rfl (.table rfl hNamed)]

/-
  A page in place of JSON, as another server shows it, is
  accepted for its status. The rejection is none of a
  server, and its text is taken for an error in the SQL.
-/
theorem executeAll_unreadable :
    let page : Server Unit := fun _ state =>
      (.answer 200
        (.error "Unexpected token '<' is not valid JSON") none,
        state)
    let run :=
      executeAll page.recorded {} ["SHOW DATABASES;"]
        (none, (), [])
    run.1 =
        [.error (.other
          "Unexpected token '<' is not valid JSON")] ∧
      (∀ result ∈ run.1,
        ¬ FailsWith Rejection.IsRemote result) ∧
      Category.ofMessage
          "Unexpected token '<' is not valid JSON" =
        .sqlSyntax := by
  intro page run
  have hResults :
      run.1 =
        [.error (.other
          "Unexpected token '<' is not valid JSON")] := rfl
  refine ⟨hResults, ?_, by decide +kernel⟩
  intro result hResult hRemote
  rw [hResults, List.mem_singleton] at hResult
  rcases hRemote.of_eq_error _ hResult with ⟨_, _, hOther⟩
  cases hOther

end Session

end KbConsole
