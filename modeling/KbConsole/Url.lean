import KbConsole.Url.Host

/-
  Web addresses of a server.

  An address is judged part by part: the protocol, the
  credentials, the port and the host. Only `http` and
  `https` are accepted, the host needs no top-level domain,
  and the double slash may be missing.

  Key definitions include:
    * `Url.afterProtocol?`
    * `Url.isAuthority`
    * `Url.isValid`
    * `Url.normalize`
-/

namespace KbConsole

namespace Url

/- The longest address, in units. -/
def longest : Nat :=
  2084

------------------------------------------------------------
-- The Protocol
------------------------------------------------------------

/- A character of a protocol name after the first. -/
def isProtocolChar (c : Char) : Bool :=
  c.isAlphanum || c == '+' || c == '-' || c == '.'

/-
  The protocol name and what follows its colon: the name
  starts with a letter and ends at the first colon.
-/
def cutProtocol?
    (cs : List Char) : Option (List Char × List Char) :=
  let name := cs.takeWhile (· != ':')
  match name, cs.dropWhile (· != ':') with
  | first :: others, _ :: rest =>
      if first.isAlpha && others.all isProtocolChar then
        some (name, rest)
      else
        none
  | _, _ => none

/- Whether a percent sign with two hexadecimal digits occurs. -/
def hasPercentCode : List Char → Bool
  | [] => false
  | '%' :: a :: b :: cs =>
      ((Text.hexValue? a).isSome && (Text.hexValue? b).isSome)
        || hasPercentCode (a :: b :: cs)
  | _ :: cs => hasPercentCode cs

/- A character of a user name that needs no coding. -/
def isUserChar (c : Char) : Bool :=
  c.isAlphanum || c == '-' || c == '_' || c == '.' ||
    c == '%' || c == ':'

/-
  Whether the text after a colon shows that what stands
  before the colon is a user name or a host rather than a
  protocol.
-/
def hidesProtocol (rest : List Char) : Bool :=
  let before := rest.takeWhile (· != '/')
  if before.contains '@' then
    let user := before.takeWhile (· != '@')
    user.all isUserChar && !hasPercentCode user
  else
    (rest.head?.map Char.isDigit).getD false

/- Whether a protocol name is one of the two accepted. -/
def isWebProtocol (name : List Char) : Bool :=
  let name := name.map Char.toLower
  name == "http".toList || name == "https".toList

/-
  What follows the protocol of an address. After a double
  slash any name is a protocol; without one, the name must
  not be a user name or a host.
-/
def afterProtocol? (cs : List Char) : Option (List Char) := do
  let (name, rest) ← cutProtocol? cs
  match Text.after? ['/', '/'] rest with
  | some rest =>
      if isWebProtocol name then some rest else none
  | none =>
      if !hidesProtocol rest && isWebProtocol name then
        some rest
      else
        none

------------------------------------------------------------
-- Credentials, Port and Host
------------------------------------------------------------

/-
  The host and port of an authority, with the credentials
  removed. Credentials have at most one colon and are not
  empty.
-/
def afterCredentials?
    (cs : List Char) : Option (List Char) :=
  match cs.dropWhile (· != '@') with
  | [] => some cs
  | _ :: rest =>
      let credentials := cs.takeWhile (· != '@')
      if credentials.isEmpty || credentials == [':'] ||
          1 < credentials.count ':' then
        none
      else
        some rest

/- A port number. -/
def isPort (cs : List Char) : Bool :=
  Text.isNumeral cs && 1 ≤ Text.numeral cs &&
    Text.numeral cs ≤ 65535

/-
  The address in brackets at the start of a host, and the
  port after it; nothing else may follow.
-/
def cutBrackets? :
    List Char → Option (List Char × List Char)
  | '[' :: cs =>
      let address := cs.takeWhile (· != ']')
      match address, cs.dropWhile (· != ']') with
      | _ :: _, [_] => some (address, [])
      | _ :: _, _ :: ':' :: port =>
          if Text.isNumeral port then
            some (address, port)
          else
            none
      | _, _ => none
  | _ => none

/- Whether a port is absent, empty or a port number. -/
def isPortPart (port : List Char) : Bool :=
  port.isEmpty || isPort port

/- A host with or without a port. -/
def isHostPort (cs : List Char) : Bool :=
  match cutBrackets? cs with
  | some (address, port) => isPortPart port && isIpv6 address
  | none =>
      let host := cs.takeWhile (· != ':')
      let port := (cs.dropWhile (· != ':')).drop 1
      isPortPart port && (isIpv4 host || isDomain host)

/- Credentials, host and port. -/
def isAuthority (cs : List Char) : Bool :=
  match afterCredentials? cs with
  | none => false
  | some rest => isHostPort rest

------------------------------------------------------------
-- Addresses
------------------------------------------------------------

/- Whether a character may not occur in an address. -/
def isForbidden (c : Char) : Bool :=
  Text.isBlank c || c == '<' || c == '>'

/- An address without its fragment and query. -/
def withoutTail (cs : List Char) : List Char :=
  (cs.takeWhile (· != '#')).takeWhile (· != '?')

/- Whether a text is an acceptable server address. -/
def isValid (s : String) : Bool :=
  let cs := s.toList
  if cs.isEmpty || cs.any isForbidden ||
      (Text.after? "mailto:".toList cs).isSome ||
      longest < Text.charsWidth cs then
    false
  else
    match afterProtocol? (withoutTail cs) with
    | none => false
    | some rest =>
        !rest.isEmpty && isAuthority (rest.takeWhile (· != '/'))

/-
  An address without blanks around it and without slashes
  at its end.
-/
def normalize (s : String) : String :=
  String.ofList
    (Text.dropEnd (· == '/') (Text.trimChars s.toList))

end Url

end KbConsole
