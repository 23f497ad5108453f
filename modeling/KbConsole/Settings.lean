/-
  The settings that one run of the console works with.

  Key definitions include:
    * `Settings`
    * `given?`
-/

namespace KbConsole

/- A text that is there and not empty. -/
def given? (text : Option String) : Option String :=
  text.filter (· != "")

/-
  Where the server is, who is asking, and which models and
  project are meant when none is named.
-/
structure Settings where
  serverUrl : String := "http://127.0.0.1:47334"
  user : Option String := none
  password : Option String := none
  project : String := "mindsdb"
  googleApiKey : Option String := none
  googleModel : String := "gemini-2.0-flash"
  ollamaBaseUrl : String := "http://127.0.0.1:11434"
  embeddingModel : String := "nomic-embed-text"
  rerankingModel : String := "llama3"
deriving DecidableEq, Repr, Inhabited

end KbConsole
