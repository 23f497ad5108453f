import KbConsole.Json.Parser
import KbConsole.Server.Response
import KbConsole.Settings

/-
  Sessions with the server over HTTP.

  A session logs in at most once, before its first
  statement, when there are credentials. What the login gave
  is kept: a cookie for all later calls, or the rejection of
  every statement.

  The server is any function from calls to replies that
  carries a state of its own.

  Key definitions include:
    * `Call`, `Reply`, `Server`
    * `Session.login`
    * `Session.execute`
-/

namespace KbConsole

------------------------------------------------------------
-- Calls and Replies
------------------------------------------------------------

/- A call over HTTP: a plain one, or one that posts JSON. -/
inductive Call where
  | get (url : String)
  | post (url : String) (cookie : Option String) (body : String)
deriving DecidableEq, Repr, Inhabited

/- The headers of a call. -/
def Call.headers : Call → List (String × String)
  | get _ => []
  | post _ cookie _ =>
      ("Content-Type", "application/json") ::
        cookie.toList.map fun cookie => ("Cookie", cookie)

/- The body of a reply: JSON, or a reason it cannot be read. -/
abbrev Body :=
  Except String Json

/- The body that the text of a reply makes. -/
def Body.ofText (text : String) : Body :=
  match Json.parse? text with
  | none => .error "<json error>"
  | some value => .ok value

/- What a call gives: no connection, or an answer. -/
inductive Reply where
  | unreachable (reason : String)
  | answer
      (status : Nat)
      (body : Body)
      (cookie : Option String)
deriving Repr, Inhabited

/- A success with nothing to show. -/
def Reply.plain : Reply :=
  .answer 200 (.ok (.object [("type", .text "ok")])) none

/- Whether a status means success. -/
def isSuccess (status : Nat) : Bool :=
  200 ≤ status && status ≤ 299

/- A server with a state of its own. -/
abbrev Server (σ : Type) :=
  Call → σ → Reply × σ

------------------------------------------------------------
-- Posting
------------------------------------------------------------

/- An accepted answer, with its body and cookie. -/
structure Accepted where
  body : Body
  cookie : Option String
deriving Repr, Inhabited

/- The rejection by an answer whose status is no success. -/
def refusal
    (fallback : String)
    (status : Nat)
    (body : Body) : Rejection :=
  let message :=
    match body with
    | .ok json => (Response.errorMessage? json).getD fallback
    | .error _ => fallback
  .remote message (some (.number (.integer status)))

/-
  What a posted call gives. The fallback is the message when
  the server refuses without saying why.
-/
def Reply.accept
    (url : String)
    (fallback : Nat → String) :
    Reply → Except Rejection Accepted
  | unreachable reason =>
      .error (.remote
        ("Could not reach MindsDB at " ++ url ++ ": " ++ reason)
        none)
  | answer status body cookie =>
      if isSuccess status then
        .ok { body, cookie }
      else
        .error (refusal (fallback status) status body)

------------------------------------------------------------
-- Logging In
------------------------------------------------------------

/- What the login of a session gave, once it was tried. -/
abbrev Session :=
  Option (Except Rejection (Option String))

/- The user and password, if both are given. -/
def Settings.credentials?
    (settings : Settings) : Option (String × String) :=
  match given? settings.user, given? settings.password with
  | some user, some password => some (user, password)
  | _, _ => none

/- The part of a cookie that is sent back. -/
def sessionCookie? (cookie : Option String) : Option String :=
  given? (cookie.map fun text =>
    String.ofList (text.toList.takeWhile (· != ';')))

/- The body of a login. -/
def loginBody (user password : String) : String :=
  (Json.object
    [("username", .text user),
      ("password", .text password)]).print

namespace Session

variable {σ : Type}

/- The call that logs in. -/
def loginCall
    (settings : Settings)
    (user password : String) : Call :=
  .post (settings.serverUrl ++ "/api/login") none
    (loginBody user password)

/- What the server gives for a login: a cookie, or not. -/
def loginResult
    (settings : Settings)
    (user : String)
    (reply : Reply) : Except Rejection (Option String) :=
  (reply.accept (settings.serverUrl ++ "/api/login") fun _ =>
    "Login failed for user '" ++ user ++ "'").map
      (sessionCookie? ·.cookie)

/-
  The cookie for the next call. The first statement of a
  session with credentials logs in; later ones take what
  that login gave.
-/
def login
    (server : Server σ)
    (settings : Settings)
    (session : Session)
    (state : σ) :
    Except Rejection (Option String) × Session × σ :=
  match settings.credentials?, session with
  | none, _ => (.ok none, session, state)
  | some _, some result => (result, session, state)
  | some (user, password), none =>
      let (reply, state) :=
        server (loginCall settings user password) state
      let result := loginResult settings user reply
      (result, some result, state)

------------------------------------------------------------
-- Statements
------------------------------------------------------------

/- The body of a call that runs a statement. -/
def queryBody (settings : Settings) (sql : String) : String :=
  (Json.object
    [("query", .text sql),
      ("context",
        .object [("db", .text settings.project)])]).print

/- The call that runs a statement. -/
def queryCall
    (settings : Settings)
    (cookie : Option String)
    (sql : String) : Call :=
  .post (settings.serverUrl ++ "/api/sql/query") cookie
    (queryBody settings sql)

/- What the server gives for a statement. -/
def queryResult
    (settings : Settings)
    (reply : Reply) : Except Rejection ResultSet :=
  match reply.accept (settings.serverUrl ++ "/api/sql/query")
      fun status =>
        "MindsDB responded with HTTP " ++ toString status with
  | .error rejection => .error rejection
  | .ok { body := .error reason, .. } => .error (.other reason)
  | .ok { body := .ok json, .. } => Response.resultSet json

/- Run a statement, logging in first where that is due. -/
def execute
    (server : Server σ)
    (settings : Settings)
    (sql : String)
    (state : Session × σ) :
    Except Rejection ResultSet × (Session × σ) :=
  match login server settings state.1 state.2 with
  | (.error rejection, session, state) =>
      (.error rejection, session, state)
  | (.ok cookie, session, state) =>
      let (reply, state) :=
        server (queryCall settings cookie sql) state
      (queryResult settings reply, session, state)

end Session

end KbConsole
