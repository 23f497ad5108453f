import KbConsole.Server.Session
import KbConsole.Text.Half
import KbConsole.Text.Letter

/-
  Calls and replies as they are written on a connection.

  A call is one request of the protocol's version 1.0, and
  its reply is all that comes back until the connection is
  closed.

  Key definitions include:
    * `Endpoint`, `Endpoint.ofUrl?`
    * `Call.text`
    * `Reply.ofText`
-/

namespace KbConsole

------------------------------------------------------------
-- Endpoints
------------------------------------------------------------

/- Where a call goes. -/
structure Endpoint where
  host : String
  port : Nat
  target : String
deriving DecidableEq, Repr, Inhabited

namespace Endpoint

/- The port that is meant when none is given. -/
def usualPort : Nat :=
  80

/- Whether a character ends the host and port. -/
def endsAuthority (c : Char) : Bool :=
  c == '/' || c == '?' || c == '#'

/- The host and the port after it, if there is one. -/
def hostPort? (cs : List Char) : Option (String × Nat) :=
  let (host, rest) :=
    if cs.head? = some '[' then
      ((cs.drop 1).takeWhile (· != ']'),
        (cs.dropWhile (· != ']')).drop 1)
    else
      (cs.takeWhile (· != ':'), cs.dropWhile (· != ':'))
  match rest with
  | [] => some (String.ofList host, usualPort)
  | [_] => some (String.ofList host, usualPort)
  | _ :: port =>
      if Text.isNumeral port then
        some (String.ofList host, Text.numeral port)
      else
        none

/- The target of a request, given what follows the port. -/
def targetOf (cs : List Char) : String :=
  let cs := cs.takeWhile (· != '#')
  String.ofList (if cs.head? = some '/' then cs else '/' :: cs)

/- The endpoint of an address without credentials. -/
def ofUrl? (url : String) : Option Endpoint := do
  let cs := url.toList
  let name := cs.takeWhile (· != ':')
  let rest := ((cs.dropWhile (· != ':')).drop 1).dropWhile
    (· == '/')
  if name.map Char.toLower ≠ "http".toList then
    none
  else
    let authority := rest.takeWhile (! endsAuthority ·)
    if authority.contains '@' then
      none
    else
      let (host, port) ← hostPort? authority
      return {
        host
        port
        target := targetOf (rest.dropWhile (! endsAuthority ·)) }

/- The host as a header names it. -/
def hostText (e : Endpoint) : String :=
  (if e.host.toList.contains ':' then
    "[" ++ e.host ++ "]"
  else
    e.host) ++ ":" ++ toString e.port

end Endpoint

------------------------------------------------------------
-- Requests
------------------------------------------------------------

/- The address that a call goes to. -/
def Call.url : Call → String
  | get url => url
  | post url _ _ => url

/- The method of a call. -/
def Call.method : Call → String
  | get _ => "GET"
  | post _ _ _ => "POST"

/- What a call sends. -/
def Call.body : Call → String
  | get _ => ""
  | post _ _ body => body

/- The text of a header. -/
def headerText (header : String × String) : String :=
  header.1 ++ ": " ++ header.2 ++ "\r\n"

/- The lines of a request before its body. -/
def Call.head
    (endpoint : Endpoint)
    (length : Nat)
    (call : Call) : String :=
  call.method ++ " " ++ endpoint.target ++ " HTTP/1.0\r\n" ++
    String.join
      (([("Host", endpoint.hostText),
          ("Content-Length", toString length)] ++
        call.headers).map headerText) ++
    "\r\n"

/- A call as it is written on a connection. -/
def Call.text (endpoint : Endpoint) (call : Call) : String :=
  let body := Text.shown call.body
  Text.shown (call.head endpoint body.utf8ByteSize) ++ body

------------------------------------------------------------
-- Responses
------------------------------------------------------------

namespace Reply

/- The lines before the first empty line, and what follows. -/
def cutHead : List Char → List Char → List Char × List Char
  | head, [] => (head.reverse, [])
  | head, '\r' :: '\n' :: '\r' :: '\n' :: rest =>
      (head.reverse, rest)
  | head, c :: rest => cutHead (c :: head) rest

/- The status in the first line of a response. -/
def status? (line : String) : Option Nat :=
  match Text.splitOn ' ' line with
  | _ :: status :: _ =>
      if Text.isNumeral status.toList then
        some (Text.numeral status.toList)
      else
        none
  | _ => none

/- The value of a header line with the given name. -/
def headerValue? (name line : String) : Option String :=
  let cs := line.toList
  if Text.sameLetters (String.ofList (cs.takeWhile (· != ':')))
      name then
    some (Text.trim (String.ofList
      ((cs.dropWhile (· != ':')).drop 1)))
  else
    none

/- The reply that the text of a response makes. -/
def ofText (text : String) : Reply :=
  let (head, body) := cutHead [] text.toList
  let lines := Text.splitOn '\n' (String.ofList head)
  match status? (lines.headD "") with
  | none => .unreachable "malformed response"
  | some status =>
      .answer status (Body.ofText (String.ofList body))
        (lines.findSome? (headerValue? "set-cookie"))

end Reply

end KbConsole
