import KbConsole.Proofs.Arguments
import KbConsole.Proofs.Json.RoundTrip
import KbConsole.Server.Wire

/-
  Logging in: what is sent for it, and what the reply makes
  of the session.

  Key definitions include:
    * `Call.Posts`
    * `Settings.HasCredentials`
    * `IsBeforeSemicolon`, `IsCookieOf`
    * `IsErrorMessage`
    * `Session.IsAcceptedLogin`, `Session.IsRefusedLogin`

  The main statements are `Session.loginResult_eq_ok_iff`
  and `Session.loginResult_eq_error_iff`.
-/

namespace KbConsole

------------------------------------------------------------
-- Calls
------------------------------------------------------------

/-
  A call that posts a JSON value, as a server sees it: where
  it goes, with which headers, and what its body says.
-/
structure Call.Posts
    (call : Call)
    (url : String)
    (cookie : Option String)
    (value : Json) : Prop where
  method_eq : call.method = "POST"
  url_eq : call.url = url
  isJson : ("Content-Type", "application/json") ∈ call.headers
  cookie_iff :
    ∀ text, ("Cookie", text) ∈ call.headers ↔
      cookie = some text
  parse_body : Json.parse? call.body = some value

theorem Call.cookie_mem_headers_post_iff
    {url body text : String}
    {cookie : Option String} :
    ("Cookie", text) ∈ (Call.post url cookie body).headers ↔
      cookie = some text := by
  simp [Call.headers]

theorem Call.posts_iff
    {call : Call}
    {url : String}
    {cookie : Option String}
    {value : Json} :
    call.Posts url cookie value ↔
      ∃ body,
        call = .post url cookie body ∧
          Json.parse? body = some value := by
  constructor
  · intro hPosts
    cases call with
    | get url =>
        have hMethod : "GET" = "POST" := hPosts.method_eq
        exact absurd hMethod (by decide)
    | post other given body =>
        have hCookie : given = cookie := by
          apply Option.ext
          intro text
          rw [← hPosts.cookie_iff, cookie_mem_headers_post_iff]
        rw [← hPosts.url_eq, ← hCookie]
        exact ⟨body, rfl, hPosts.parse_body⟩
  · rintro ⟨body, rfl, hBody⟩
    exact
      { method_eq := rfl
        url_eq := rfl
        isJson := List.mem_cons_self
        cookie_iff := fun _ => cookie_mem_headers_post_iff
        parse_body := hBody }

------------------------------------------------------------
-- Credentials
------------------------------------------------------------

/- A user and a password that are given, and not empty. -/
structure Settings.HasCredentials
    (settings : Settings)
    (user password : String) : Prop where
  user_eq : settings.user = some user
  user_ne : user ≠ ""
  password_eq : settings.password = some password
  password_ne : password ≠ ""

theorem Settings.credentials?_eq_some_iff
    {settings : Settings}
    {user password : String} :
    settings.credentials? = some (user, password) ↔
      settings.HasCredentials user password := by
  have hCredentials :
      settings.credentials? = some (user, password) ↔
        given? settings.user = some user ∧
          given? settings.password = some password := by
    unfold credentials?
    cases given? settings.user with
    | none => simp
    | some _ =>
        cases given? settings.password with
        | none => simp
        | some _ => simp
  rw [hCredentials, given?_eq_some_iff, given?_eq_some_iff]
  constructor
  · rintro ⟨⟨hUser, hSome⟩, hPassword, hSet⟩
    exact ⟨hUser, hSome, hPassword, hSet⟩
  · rintro ⟨hUser, hSome, hPassword, hSet⟩
    exact ⟨⟨hUser, hSome⟩, hPassword, hSet⟩

/- What the body of a login says. -/
def loginJson (user password : String) : Json :=
  .object
    [("username", .text user), ("password", .text password)]

theorem Session.posts_loginCall
    (settings : Settings)
    (user password : String) :
    (loginCall settings user password).Posts
      (settings.serverUrl ++ "/api/login") none
      (loginJson user password) := by
  have hExact : (loginJson user password).IsExact := by
    apply Json.isExact_object ["username", "password"] rfl
    · decide
    · decide
    · simp [Json.IsExact]
  exact
    Call.posts_iff.mpr ⟨_, rfl, Json.parse?_print hExact⟩

------------------------------------------------------------
-- Cookies
------------------------------------------------------------

/- The part of a text before its first semicolon, if any. -/
structure IsBeforeSemicolon
    (part text : String) : Prop where
  plain : ';' ∉ part.toList
  joined : text = part ∨ ∃ rest, text = part ++ ";" ++ rest

/-
  The cookie that is sent back: what is given before the
  first semicolon, unless that is empty.
-/
inductive IsCookieOf :
    Option String → Option String → Prop where
  | missing : IsCookieOf none none
  | empty
      {text : String}
      (hPart : IsBeforeSemicolon "" text) :
      IsCookieOf (some text) none
  | kept
      {part text : String}
      (hPart : IsBeforeSemicolon part text)
      (hNonempty : part ≠ "") :
      IsCookieOf (some text) (some part)

theorem exists_isBeforeSemicolon (text : String) :
    ∃ part, IsBeforeSemicolon part text := by
  by_cases hSome : ';' ∈ text.toList
  · rcases List.eq_append_cons_of_mem hSome with
      ⟨front, rest, hText, hFront⟩
    refine ⟨String.ofList front, ?_, ?_⟩
    · rw [String.toList_ofList]
      exact hFront
    · refine Or.inr ⟨String.ofList rest, ?_⟩
      rw [← String.toList_inj, hText]
      simp
  · exact ⟨text, hSome, Or.inl rfl⟩

theorem sessionCookie?_some
    {part text : String}
    (hPart : IsBeforeSemicolon part text) :
    sessionCookie? (some text) = given? (some part) := by
  have hChars : ∀ c ∈ part.toList, (c != ';') = true := by
    intro c hMember
    rw [bne_iff_ne]
    rintro rfl
    exact hPart.plain hMember
  -- Behind the part the text ends, or a semicolon stands.
  obtain ⟨rest, hText, hRest⟩ :
      ∃ rest,
        text.toList = part.toList ++ rest ∧
          rest.takeWhile (· != ';') = [] := by
    rcases hPart.joined with rfl | ⟨rest, rfl⟩
    · exact ⟨[], (List.append_nil _).symm, rfl⟩
    · refine ⟨';' :: rest.toList, ?_, rfl⟩
      rw [String.toList_append, String.toList_append,
        List.append_assoc]
      rfl
  rw [sessionCookie?, Option.map_some, hText,
    List.takeWhile_append_of_pos hChars, hRest,
    List.append_nil, String.ofList_toList]

theorem sessionCookie?_eq_iff
    {given cookie : Option String} :
    sessionCookie? given = cookie ↔
      IsCookieOf given cookie := by
  constructor
  · rintro rfl
    cases given with
    | none => exact .missing
    | some text =>
        rcases exists_isBeforeSemicolon text with
          ⟨part, hPart⟩
        rw [sessionCookie?_some hPart]
        by_cases hNonempty : part = ""
        · subst hNonempty
          exact .empty hPart
        · rw [given?_of_ne hNonempty]
          exact .kept hPart hNonempty
  · intro hCookie
    cases hCookie with
    | missing => rfl
    | empty hPart =>
        rw [sessionCookie?_some hPart]
        rfl
    | kept hPart hNonempty =>
        rw [sessionCookie?_some hPart]
        exact given?_of_ne hNonempty

------------------------------------------------------------
-- Replies
------------------------------------------------------------

/-
  The message of a refusal: the one in its body, or another
  where the body has none.
-/
inductive IsErrorMessage
    (body : Body)
    (fallback : String) : String → Prop where
  | own
      {json : Json}
      {message : String}
      (hBody : body = .ok json)
      (hMessage :
        json.member? "error_message" = some (.text message))
      (hNonempty : message ≠ "") :
      IsErrorMessage body fallback message
  | fallback
      (hNone :
        ∀ json message, body = .ok json →
          json.member? "error_message" = some (.text message) →
          message = "") :
      IsErrorMessage body fallback fallback

theorem Response.errorMessage?_eq_some_iff
    {json : Json}
    {message : String} :
    errorMessage? json = some message ↔
      json.member? "error_message" = some (.text message) ∧
        message ≠ "" := by
  rw [errorMessage?, Option.filter_eq_some_iff, bne_iff_ne,
    Option.bind_eq_some_iff]
  apply and_congr_left'
  constructor
  · rintro ⟨value, hValue, hText⟩
    rw [hValue]
    cases value <;> cases hText
    rfl
  · intro hMember
    exact ⟨_, hMember, rfl⟩

theorem exists_isErrorMessage
    (body : Body)
    (fallback : String) :
    ∃ message, IsErrorMessage body fallback message := by
  cases body with
  | error reason => exact ⟨fallback, .fallback nofun⟩
  | ok json =>
      cases hOwn : Response.errorMessage? json with
      | some message =>
          rcases Response.errorMessage?_eq_some_iff.mp hOwn with
            ⟨hMessage, hNonempty⟩
          exact ⟨message, .own rfl hMessage hNonempty⟩
      | none =>
          refine ⟨fallback, .fallback ?_⟩
          rintro _ message ⟨⟩ hMessage
          by_contra hNonempty
          rw [Response.errorMessage?_eq_some_iff.mpr
            ⟨hMessage, hNonempty⟩] at hOwn
          cases hOwn

theorem refusal_of_isErrorMessage
    {body : Body}
    {fallback message : String}
    (hMessage : IsErrorMessage body fallback message)
    (status : Nat) :
    refusal fallback status body =
      .remote message (some (.number (.integer status))) := by
  cases hMessage with
  | own hBody hMember hNonempty =>
      rw [hBody, refusal,
        Response.errorMessage?_eq_some_iff.mpr
          ⟨hMember, hNonempty⟩]
      rfl
  | fallback hNone =>
      cases body with
      | error reason => rfl
      | ok json =>
          cases hOwn : Response.errorMessage? json with
          | none =>
              rw [refusal, hOwn]
              rfl
          | some message =>
              rcases
                Response.errorMessage?_eq_some_iff.mp hOwn with
                ⟨hMember, hNonempty⟩
              exact absurd (hNone json message rfl hMember)
                hNonempty

namespace Session

/- A login that succeeded, with the cookie it gave. -/
inductive IsAcceptedLogin : Reply → Option String → Prop where
  | answer
      {status : Nat}
      {body : Body}
      {given cookie : Option String}
      (hLeast : 200 ≤ status)
      (hMost : status ≤ 299)
      (hCookie : IsCookieOf given cookie) :
      IsAcceptedLogin (.answer status body given) cookie

/- A login that failed, with the rejection it leads to. -/
inductive IsRefusedLogin
    (settings : Settings)
    (user : String) : Reply → Rejection → Prop where
  | unreachable (reason : String) :
      IsRefusedLogin settings user (.unreachable reason)
        (.remote
          ("Could not reach MindsDB at " ++
            (settings.serverUrl ++ "/api/login") ++ ": " ++
            reason)
          none)
  | denied
      {status : Nat}
      {body : Body}
      {given : Option String}
      {message : String}
      (hStatus : ¬ (200 ≤ status ∧ status ≤ 299))
      (hMessage :
        IsErrorMessage body
          ("Login failed for user '" ++ user ++ "'") message) :
      IsRefusedLogin settings user (.answer status body given)
        (.remote message (some (.number (.integer status))))

theorem isSuccess_iff {status : Nat} :
    isSuccess status = true ↔ 200 ≤ status ∧ status ≤ 299 := by
  rw [isSuccess, Bool.and_eq_true, decide_eq_true_iff,
    decide_eq_true_iff]

variable
  {settings : Settings}
  {user : String}
  {reply : Reply}

theorem loginResult_eq_ok_iff {cookie : Option String} :
    loginResult settings user reply = .ok cookie ↔
      IsAcceptedLogin reply cookie := by
  constructor
  · intro hLogin
    cases reply with
    | unreachable reason => cases hLogin
    | answer status body given =>
        cases hStatus : isSuccess status with
        | false =>
            simp only [loginResult, Reply.accept, hStatus]
              at hLogin
            cases hLogin
        | true =>
            simp only [loginResult, Reply.accept, hStatus,
              if_true] at hLogin
            rcases isSuccess_iff.mp hStatus with ⟨hLeast, hMost⟩
            exact
              .answer hLeast hMost
                (sessionCookie?_eq_iff.mp
                  (Except.ok.inj hLogin))
  · rintro ⟨hLeast, hMost, hCookie⟩
    have hStatus := isSuccess_iff.mpr ⟨hLeast, hMost⟩
    simp only [loginResult, Reply.accept, hStatus, if_true]
    exact congrArg Except.ok (sessionCookie?_eq_iff.mpr hCookie)

theorem loginResult_eq_error_iff {rejection : Rejection} :
    loginResult settings user reply = .error rejection ↔
      IsRefusedLogin settings user reply rejection := by
  constructor
  · intro hLogin
    cases reply with
    | unreachable reason =>
        rcases Except.error.inj hLogin with rfl
        exact .unreachable reason
    | answer status body given =>
        cases hStatus : isSuccess status with
        | true =>
            simp only [loginResult, Reply.accept, hStatus,
              if_true] at hLogin
            cases hLogin
        | false =>
            rcases exists_isErrorMessage body
                ("Login failed for user '" ++ user ++ "'") with
              ⟨message, hMessage⟩
            simp only [loginResult, Reply.accept, hStatus,
              Bool.false_eq_true, if_false,
              refusal_of_isErrorMessage hMessage] at hLogin
            rcases Except.error.inj hLogin with rfl
            refine .denied ?_ hMessage
            rw [← isSuccess_iff, hStatus]
            exact Bool.false_ne_true
  · rintro (reason | ⟨hStatus, hMessage⟩)
    · rfl
    · rw [← isSuccess_iff] at hStatus
      simp only [loginResult, Reply.accept, hStatus,
        refusal_of_isErrorMessage hMessage]
      rfl

end Session

end KbConsole
