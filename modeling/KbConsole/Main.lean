import KbConsole.Run.Dialogue
import KbConsole.Run.Start
import KbConsole.Server.Wire
import Std.Async.DNS
import Std.Async.TCP

/-
  The program at work on a terminal and on the network.

  A run is a function of the replies and answers known so
  far. It is computed as far as they reach; then the next
  reply is fetched or the next question put, and the run is
  computed again with one more. Nothing is printed or stored
  before it is certain.

  Key definitions include:
    * `Terminal.fetch`
    * `Terminal.ask`
    * `Terminal.proceed`
-/

namespace KbConsole

namespace Terminal

open Std.Async

------------------------------------------------------------
-- The Network
------------------------------------------------------------

/- Read a connection to its end. -/
partial def receive
    (client : TCP.Socket.Client)
    (found : ByteArray) : Async ByteArray := do
  match ← client.recv? 65536 with
  | none => return found
  | some bytes => receive client (found ++ bytes)

/- The address of a host and port. -/
def socketAddress (address : Std.Net.IPAddr) (port : Nat) :
    Std.Net.SocketAddress :=
  match address with
  | .v4 addr => .v4 { addr, port := port.toUInt16 }
  | .v6 addr => .v6 { addr, port := port.toUInt16 }

/- Send a request, and read the response. -/
def converse (endpoint : Endpoint) (request : String) :
    Async String := do
  let found ←
    DNS.getAddrInfo endpoint.host (toString endpoint.port)
  match found[0]? with
  | none => throw (IO.userError "unknown host")
  | some address =>
      let client ← TCP.Socket.Client.mk
      client.connect (socketAddress address endpoint.port)
      client.send request.toUTF8
      let bytes ← receive client ByteArray.empty
      return Text.received ((String.fromUTF8? bytes).getD "")

/- Make a call. -/
def fetch (call : Call) : IO Reply := do
  match Endpoint.ofUrl? call.url with
  | none => return .unreachable "fetch failed"
  | some endpoint =>
      try
        let text ← (converse endpoint (call.text endpoint)).block
        return Reply.ofText text
      catch _ =>
        return .unreachable "fetch failed"

------------------------------------------------------------
-- The Environment and the Stored File
------------------------------------------------------------

/- The variables that the console reads. -/
def knownVariables : List String :=
  ["KBFORGE_CONFIG_DIR", "KBFORGE_NO_EMOJI", "MINDSDB_URL",
    "MINDSDB_USER", "MINDSDB_PASSWORD", "MINDSDB_PROJECT",
    "GOOGLE_GEMINI_API_KEY", "GOOGLE_MODEL",
    "OLLAMA_BASE_URL", "OLLAMA_EMBEDDING_MODEL",
    "OLLAMA_RERANKING_MODEL"]

/- The environment of the program. -/
def environment : IO Environment :=
  knownVariables.filterMapM fun name => do
    return (← IO.getEnv name).map fun value =>
      (name, Text.received value)

/- The stored file, if there is one. -/
def stored? (path : String) : IO (Option StoredFile) := do
  try
    let text := Text.received (← IO.FS.readFile path)
    return some { text, mode := StoredFile.newMode }
  catch _ =>
    return none

/- Write the stored file; only its owner may read a new one. -/
def store (directory path text : String) (isNew : Bool) :
    IO Unit := do
  IO.FS.createDirAll directory
  IO.FS.writeFile path (Text.shown text)
  if isNew then
    IO.setAccessRights path
      { user := { read := true, write := true } }

------------------------------------------------------------
-- Running
------------------------------------------------------------

/- What was already printed, and the file as it is stored. -/
structure Shown where
  lines : Nat := 0
  file : Option StoredFile := none

/- Where the program works. -/
structure Place where
  directory : String
  path : String
  coloured : Bool

/- Print and store what became certain. -/
def settle (place : Place) (shown : Shown) (last : RunState) :
    IO Shown := do
  let output ← IO.getStdout
  output.putStr (Text.shown
    (Line.allText place.coloured (last.lines.drop shown.lines)))
  output.flush
  match last.config.file with
  | some file =>
      if shown.file.map StoredFile.text != some file.text then
        store place.directory place.path file.text
          shown.file.isNone
  | none => pure ()
  return {
    lines := last.lines.length
    file := last.config.file }

/- Put a question, and read what is typed. -/
def ask (e : Exchange) : IO (Option Answer) := do
  let output ← IO.getStdout
  match e.rejected.getLast? with
  | some (_, reason) => output.putStrLn (Text.shown (">> " ++ reason))
  | none => pure ()
  output.putStr (Text.shown e.question.text)
  output.flush
  let typed := Text.received (← (← IO.getStdin).getLine)
  if typed.isEmpty then
    return none
  else
    return some (e.question.answerOf
      (String.ofList (Text.dropEnd (fun c => c == '\n' || c == '\r')
        typed.toList)))

/- The question that waits for an answer, if there is one. -/
def waiting? (last : RunState) : Option Exchange :=
  last.exchanges.getLast?.filter (·.answer.isNone)

/- Complete a run that needs nothing more. -/
def complete (place : Place) (shown : Shown) (last : RunState) :
    IO UInt32 := do
  let _ ← settle place shown last
  for line in last.complaints do
    IO.eprintln (Text.shown line)
  return last.status.toUInt32

/- Compute a run, with the user and the server as needed. -/
partial def proceed
    (place : Place)
    (argv : List String)
    (shown : Shown)
    (first : RunState) : IO UInt32 := do
  let last := Run.finish argv first
  match last.calls[first.replies.length]? with
  | some call =>
      let reply ← fetch call
      proceed place argv shown
        { first with replies := first.replies ++ [reply] }
  | none =>
      match waiting? last with
      | none => complete place shown last
      | some e =>
          let shown ← settle place shown last
          match ← ask e with
          | none => complete place shown last
          | some answer =>
              proceed place argv shown
                { first with answers := first.answers ++ [answer] }

end Terminal

end KbConsole

/- Run the program. -/
def main (argv : List String) : IO UInt32 := do
  let environment ← KbConsole.Terminal.environment
  let home := (← IO.getEnv "HOME").getD ""
  let path := environment.storedPath home
  let file ← KbConsole.Terminal.stored? path
  let place : KbConsole.Terminal.Place :=
    { directory := environment.directory home
      path
      coloured := ← (← IO.getStdout).isTty }
  KbConsole.Terminal.proceed place
    (argv.map KbConsole.Text.received) { file }
    { config := { environment, file } }
