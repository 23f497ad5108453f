import KbConsole.Json.Parser
import KbConsole.Json.Printer
import KbConsole.Path
import KbConsole.Settings

/-
  Where settings come from: variables of the environment,
  the stored file, and defaults, in this order.

  The stored file is a JSON object with a server address and
  a project. What cannot be read counts as absent, and so
  does an empty text.

  Key definitions include:
    * `Environment`
    * `StoredFile`, `Stored`
    * `Config`
    * `Config.serverUrl`, `Config.project`
    * `Config.setServerUrl`, `Config.setProject`
    * `Config.settings`
-/

namespace KbConsole

------------------------------------------------------------
-- The Environment
------------------------------------------------------------

/- The variables of the environment. -/
abbrev Environment :=
  Keyed String

namespace Environment

/- The value of a variable that is set and not empty. -/
def value?
    (environment : Environment)
    (name : String) : Option String :=
  given? (Keyed.get? name environment)

/- The directory of the stored file. -/
def directory (environment : Environment) (home : String) :
    String :=
  (environment.value? "KBFORGE_CONFIG_DIR").getD
    (Path.join [home, ".config", "kbforge"])

/- The path of the stored file. -/
def storedPath (environment : Environment) (home : String) :
    String :=
  Path.join [environment.directory home, "config.json"]

end Environment

------------------------------------------------------------
-- The Stored File
------------------------------------------------------------

/- The text of the stored file, and its permissions. -/
structure StoredFile where
  text : String
  mode : Nat
deriving DecidableEq, Repr, Inhabited

namespace StoredFile

/- A new file can be read and written by its owner only. -/
def newMode : Nat :=
  0o600

/- Write a text; a file that was there keeps its mode. -/
def write (text : String) (before : Option StoredFile) :
    StoredFile :=
  { text, mode := (before.map StoredFile.mode).getD newMode }

end StoredFile

/- The stored entries, in the order of the file. -/
abbrev Stored :=
  Keyed String

namespace Stored

/- The key of the stored server address. -/
def serverUrlKey : String :=
  "serverUrl"

/- The key of the stored project. -/
def projectKey : String :=
  "project"

/- The entry of a JSON value under a key, if it is a text. -/
def known? (value : Json) (key : String) :
    Option (String × String) :=
  ((value.member? key).bind Json.text?).map (key, ·)

/- The entries of a JSON value that are known. -/
def ofJson (value : Json) : Stored :=
  [serverUrlKey, projectKey].filterMap (known? value)

/- The entries of the stored file. -/
def ofFile : Option StoredFile → Stored
  | none => []
  | some file =>
      match Json.parse? file.text with
      | none => []
      | some value => ofJson value

/- The document with the given entries. -/
def toJson (stored : Stored) : Json :=
  .object (stored.map fun entry => (entry.1, .text entry.2))

end Stored

------------------------------------------------------------
-- Configurations
------------------------------------------------------------

/- The environment and the stored file of a run. -/
structure Config where
  environment : Environment := []
  file : Option StoredFile := none
deriving DecidableEq, Repr, Inhabited

/- Where a setting was found. -/
inductive Source where
  | environment
  | stored
  | default
deriving DecidableEq, Repr, Inhabited

namespace Config

/- What the stored file says. -/
def stored (config : Config) : Stored :=
  Stored.ofFile config.file

/- The value of a stored entry that is not empty. -/
def stored? (config : Config) (key : String) : Option String :=
  given? (Keyed.get? key config.stored)

/- The address of the server. -/
def serverUrl (config : Config) : String :=
  match config.environment.value? "MINDSDB_URL",
      config.stored? Stored.serverUrlKey with
  | some url, _ => url
  | none, some url => url
  | none, none => ({} : Settings).serverUrl

/- Where the address of the server was found. -/
def serverUrlSource (config : Config) : Source :=
  match config.environment.value? "MINDSDB_URL",
      config.stored? Stored.serverUrlKey with
  | some _, _ => .environment
  | none, some _ => .stored
  | none, none => .default

/- The project that is meant when none is named. -/
def project (config : Config) : String :=
  match config.environment.value? "MINDSDB_PROJECT",
      config.stored? Stored.projectKey with
  | some project, _ => project
  | none, some project => project
  | none, none => ({} : Settings).project

/- The value of a variable, or a default. -/
def valueOr (config : Config) (name fallback : String) :
    String :=
  (config.environment.value? name).getD fallback

/- The settings of a run. -/
def settings (config : Config) : Settings :=
  let defaults : Settings := {}
  { serverUrl := config.serverUrl
    user := config.environment.value? "MINDSDB_USER"
    password := config.environment.value? "MINDSDB_PASSWORD"
    project := config.project
    googleApiKey :=
      config.environment.value? "GOOGLE_GEMINI_API_KEY"
    googleModel :=
      config.valueOr "GOOGLE_MODEL" defaults.googleModel
    ollamaBaseUrl :=
      config.valueOr "OLLAMA_BASE_URL" defaults.ollamaBaseUrl
    embeddingModel :=
      config.valueOr "OLLAMA_EMBEDDING_MODEL"
        defaults.embeddingModel
    rerankingModel :=
      config.valueOr "OLLAMA_RERANKING_MODEL"
        defaults.rerankingModel }

------------------------------------------------------------
-- Changes
------------------------------------------------------------

/- Store a document and nothing else. -/
def write (config : Config) (document : Json) : Config :=
  { config with
    file :=
      some (StoredFile.write document.printIndented config.file) }

/- Store the given entries and nothing else. -/
def save (config : Config) (stored : Stored) : Config :=
  config.write stored.toJson

/- Store one entry beside the others. -/
def set (config : Config) (key value : String) : Config :=
  config.save (Keyed.put config.stored key value)

/- Store the address of the server. -/
def setServerUrl (config : Config) (url : String) : Config :=
  config.set Stored.serverUrlKey url

/- Store the project. -/
def setProject (config : Config) (project : String) : Config :=
  config.set Stored.projectKey project

/- Store nothing any more. -/
def clear (config : Config) : Config :=
  config.save []

end Config

end KbConsole
