import KbConsole.Run.State
import KbConsole.Terminal.Label

/-
  Showing and changing the configuration within a run.

  A server address is tried out before it is stored, but is
  stored whether or not the server answers.

  Key definitions include:
    * `Run.showConfig`
    * `Run.probe`
    * `Run.setServerUrl`, `Run.setProject`
    * `Run.resetConfig`
-/

namespace KbConsole

namespace Run

------------------------------------------------------------
-- Showing
------------------------------------------------------------

/- The lines with the settings. -/
def settingsLines (s : Settings) : List Line :=
  [Line.entry "MindsDB URL" s.serverUrl,
    Line.entry "Project" s.project,
    Line.entry "User" (s.user.getD "(none)"),
    Line.entry "Password" (Secret.mask s.password),
    Line.entry "Google model" s.googleModel,
    Line.entry "Google API key" (Secret.mask s.googleApiKey),
    Line.entry "Ollama URL" s.ollamaBaseUrl,
    Line.entry "Embedding model" s.embeddingModel,
    Line.entry "Reranking model" s.rerankingModel]

/- Where the address of the server comes from. -/
def sourceText : Source → String
  | .environment => "(URL from MINDSDB_URL)"
  | .stored => "(URL from saved configuration)"
  | .default => "(Using default URL - not configured)"

/- Show the configuration. -/
def showConfig : Run Unit := do
  let config ← config
  sayAll (Line.header "CLI Configuration" ++ [Line.blank] ++
    settingsLines config.settings ++
    [Line.blank, Line.faint (sourceText config.serverUrlSource)])

/- Show the address of the server and the project. -/
def showTargets : Run Unit := do
  let config ← config
  sayAll
    [Line.entry "MindsDB URL" config.serverUrl,
      Line.entry "Project" config.project]

------------------------------------------------------------
-- The Server Address
------------------------------------------------------------

/- What is printed about the reply of a server on trial. -/
def probeLines : Reply → List Line
  | .unreachable _ =>
      [Line.warning
          "Could not connect to server. Saving URL anyway.",
        Line.faint
          ("(You can configure the URL now and start " ++
            "MindsDB later)")]
  | .answer status _ _ =>
      if isSuccess status then
        [Line.success "Connection successful!"]
      else
        [Line.warning
          ("Server responded with HTTP " ++ toString status ++
            ". Saving URL anyway.")]

/- Try out the address of a server. -/
def probe (url : String) : Run Unit := do
  say (Line.info ("Testing connection to " ++ url ++ "..."))
  let reply ← call (.get (url ++ "/api/status"))
  sayAll (probeLines reply)

/- Store an address that was accepted, and confirm that. -/
def storeServerUrl (url : String) : Run Unit := do
  probe url
  reconfigure (·.setServerUrl url)
  sayAll
    [Line.blank,
      Line.success ("MindsDB URL set to: " ++ url)]
  if (← config).serverUrlSource = .environment then
    say (Line.warning
      "MINDSDB_URL is set and still takes precedence.")

/- The address that was given, or else the user's answer. -/
def wantedUrl : Option String → Run String
  | some url => return url
  | none => do
      askText "url"
        "Enter MindsDB URL (e.g., http://127.0.0.1:47334):"
        (some (← config).serverUrl) Check.url

/- Set the address of the server. -/
def setServerUrl (given : Option String) : Run Unit := do
  let url := Url.normalize (← wantedUrl (given? given))
  match Check.url url with
  | none => storeServerUrl url
  | some reason => do
      say (Line.error reason)
      leave 1

------------------------------------------------------------
-- The Project and the Defaults
------------------------------------------------------------

/- Set the project. -/
def setProject (project : String) : Run Unit :=
  match Check.name project with
  | none => do
      reconfigure (·.setProject (Text.trim project))
      say (Line.success
        ("Default project set to: " ++ (← config).project))
  | some reason => do
      say (Line.error reason)
      leave 1

/- Return to the defaults, once that is confirmed. -/
def resetConfig (message : String) : Run Unit := do
  if ← askDecision message false then
    reconfigure Config.clear
    sayAll
      [Line.success "Configuration reset to defaults.",
        Line.blank]
    showTargets
  else
    say (Line.info "Cancelled.")

end Run

end KbConsole
