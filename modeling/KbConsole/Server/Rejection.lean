import KbConsole.Problem
import KbConsole.Text.Blank

/-
  Why a statement was not answered, and the stable
  categories into which the server's messages fall.

  Categories are tried in a fixed order. A message belongs
  to the first one of which it contains a pattern, in any
  case of letters.

  Key definitions include:
    * `Rejection`
    * `Rejection.message`
    * `Category.ofMessage`
    * `Rejection.alreadyExists`
-/

namespace KbConsole

------------------------------------------------------------
-- Rejections
------------------------------------------------------------

/- The code that a server gives to an error. -/
inductive ErrorCode where
  | text (value : String)
  | number (value : Number)
deriving DecidableEq, Repr, Inhabited

/- The text of an error code. -/
def ErrorCode.label : ErrorCode → String
  | text value => value
  | number value => value.text

/- Why a statement was not answered by a table. -/
inductive Rejection where
  /- The input was refused before anything was sent. -/
  | input
      (kind : ErrorKind)
      (message : String)
      (field : Option String)
  /- The server, or the way to it, reported an error. -/
  | remote (message : String) (code : Option ErrorCode)
  /- A column is named by an object that has no label. -/
  | unlabelledColumn
  /- The first row of the answer has no columns. -/
  | noColumns
  /- There are no rows to be shown. -/
  | noRows
  /- Anything else that went wrong. -/
  | other (message : String)
deriving DecidableEq, Repr, Inhabited

/- The message of a rejection. -/
def Rejection.message : Rejection → String
  | input _ message _ => message
  | remote message _ => message
  | unlabelledColumn =>
      "Cannot convert object to primitive value"
  | noColumns => "Invalid count value: -2"
  | noRows => "Cannot convert undefined or null to object"
  | other message => message

------------------------------------------------------------
-- Patterns
------------------------------------------------------------

/-
  What a message may contain: a phrase, or a phrase with
  one of several others after it on the same line.
-/
inductive Pattern where
  | phrase (text : String)
  | followed (text : String) (later : List String)
deriving DecidableEq, Repr

/- The characters that end a line. -/
def isLineEnd (c : Char) : Bool :=
  c == '\n' || c == '\r' || c == '\u2028' || c == '\u2029'

/- What follows the first occurrence of `part`. -/
def afterFirst? (part : List Char) :
    List Char → Option (List Char)
  | [] => Text.after? part []
  | c :: cs =>
      (Text.after? part (c :: cs)).or (afterFirst? part cs)

namespace Pattern

/- Whether a line has one of `later` after `first`. -/
def followedIn
    (first : String)
    (later : List String)
    (line : List Char) : Bool :=
  match afterFirst? first.toList line with
  | none => false
  | some rest => later.any (Text.occursIn ·.toList rest)

/- Whether a text in lower case contains a pattern. -/
def occursIn (cs : List Char) : Pattern → Bool
  | phrase text => Text.occursIn text.toList cs
  | followed first later =>
      (Text.splitBy isLineEnd cs).any (followedIn first later)

end Pattern

------------------------------------------------------------
-- Categories
------------------------------------------------------------

/- The categories of messages, in the order they are tried. -/
inductive Category where
  | alreadyExists
  | connection
  | authentication
  | tableNotFound
  | sqlSyntax
  | creation
  | other
deriving DecidableEq, Repr, Inhabited

namespace Category

/- The name of a category. -/
def label : Category → String
  | alreadyExists => "object already exists"
  | connection => "connection error"
  | authentication => "authentication error"
  | tableNotFound => "table not found"
  | sqlSyntax => "SQL syntax error"
  | creation => "model/agent creation failure"
  | other => "remote error"

/- The ways to say that something is missing. -/
def missing : List String :=
  ["not found", "doesn't exist", "does not exist"]

/- The patterns of a category, in lower case. -/
def patterns : Category → List Pattern
  | alreadyExists =>
      [.phrase "already exists", .phrase "already created"]
  | connection =>
      [.phrase "econnrefused", .phrase "enotfound",
        .phrase "etimedout", .phrase "fetch failed",
        .phrase "could not reach", .phrase "connection",
        .phrase "network", .phrase "socket"]
  | authentication =>
      [.phrase "unauthorised", .phrase "unauthorized",
        .phrase "forbidden", .phrase "login",
        .phrase "password", .phrase "credentials"]
  | tableNotFound =>
      [.phrase "can't select from", .followed "table " missing,
        .phrase "unknown table", .phrase "no such table",
        .followed "database " missing]
  | sqlSyntax =>
      [.phrase "syntax", .phrase "parse", .phrase "parsing",
        .phrase "unexpected token"]
  | creation =>
      [.phrase "model", .phrase "agent", .phrase "engine",
        .phrase "apikey", .phrase "api key",
        .phrase "api_key", .phrase "api-key",
        .phrase "predictor"]
  | other => []

/- The categories that have patterns, in order. -/
def tried : List Category :=
  [alreadyExists, connection, authentication, tableNotFound,
    sqlSyntax, creation]

/- Whether a message contains a pattern of the category. -/
def fits (message : String) (c : Category) : Bool :=
  c.patterns.any
    (Pattern.occursIn (Text.lower message).toList)

/- The category of a message. -/
def ofMessage (message : String) : Category :=
  (tried.find? (fits message)).getD other

end Category

namespace Rejection

/-
  Whether a rejection only says that what was to be created
  is already there. Refused input never says so.
-/
def alreadyExists : Rejection → Bool
  | input _ _ _ => false
  | rejection =>
      Category.ofMessage rejection.message == .alreadyExists

end Rejection

end KbConsole
