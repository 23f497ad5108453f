import KbConsole.Run.Configure
import KbConsole.Run.Perform

/-
  The menus of the console.

  A menu is shown again after every choice but the last one.
  Each round takes at least one answer, so that the answers
  left bound the number of rounds.

  Key definitions include:
    * `Run.settingsMenu`
    * `Run.mainMenu`
-/

namespace KbConsole

namespace Run

------------------------------------------------------------
-- Items
------------------------------------------------------------

/- An item of a menu, with its icon. -/
def item
    (config : Config)
    (icon : Icon)
    (label value : String) : MenuItem :=
  .choice (icon.text config.environment ++ " " ++ label) value

/- The action that an answer names; no other value names one. -/
def chosenAction : Answer → String
  | .text value => value
  | _ => ""

/- The number of rounds that the answers left allow for. -/
def rounds : Run Nat := do
  return (← get).answers.length + 1

------------------------------------------------------------
-- Settings
------------------------------------------------------------

/- The items of the settings menu. -/
def settingsItems (config : Config) : List MenuItem :=
  [item config ⟨"🔗", ">"⟩ "Configure MindsDB URL" "config-url",
    item config ⟨"📁", ">"⟩ "Set default project" "project",
    item config ⟨"📋", ">"⟩ "View current configuration" "show",
    item config ⟨"🔄", ">"⟩ "Reset to defaults" "reset",
    .separator,
    item config ⟨"←", "<"⟩ "Back" "back"]

/- Ask for a server address, and store it if confirmed. -/
def replaceServerUrl (current : String) : Run Unit := do
  say Line.blank
  let url ← askText "url" "Enter MindsDB URL:" (some current)
    Check.url
  let url := Url.normalize url
  probe url
  if ← askDecision "Save this URL?" true then
    reconfigure (·.setServerUrl url)
    say (Line.success ("MindsDB URL saved: " ++ url))
  else
    say (Line.info "Cancelled.")

/-
  Configure the address of the server, unless it is fixed by
  the environment.
-/
def configureServerUrl : Run Unit := do
  let config ← config
  sayAll
    [Line.blank,
      Line.entry "Current MindsDB URL" config.serverUrl]
  match config.serverUrlSource with
  | .environment =>
      sayAll
        [Line.faint
            ("(from environment variable - cannot be " ++
              "changed here)"),
          Line.info
            ("To change, update the MINDSDB_URL environment " ++
              "variable.")]
  | .stored => do
      say (Line.faint "(from saved configuration)")
      replaceServerUrl config.serverUrl
  | .default => do
      say (Line.faint "(using default - not configured)")
      replaceServerUrl config.serverUrl

/- Configure the project. -/
def configureProject : Run Unit := do
  let answer ← askText "project" "Default project:"
    (some (← config).project) Check.name
  let project := Text.trim answer
  reconfigure (·.setProject project)
  say (Line.success ("Default project saved: " ++ project))

/- What a choice of the settings menu does. -/
def settingsAction (action : String) : Run Unit :=
  match action with
  | "config-url" => configureServerUrl
  | "project" => configureProject
  | "show" => showConfig
  | "reset" => resetConfig "Reset all configuration to defaults?"
  | _ => return ()

/- Ask for a choice of the settings menu. -/
def chooseSetting : Run Answer := do
  let config ← config
  sayAll
    [Line.blank,
      Line.faint
        ("MindsDB URL: " ++ config.serverUrl ++ "  Project: " ++
          config.project)]
  choose "Settings:" (settingsItems config)

/- Wait for the user. -/
def pause : Run Unit := do
  let _ ← askAny
    { form := .input
      name := "continue"
      message := "Press Enter to continue..." }
  return ()

/- The rounds of the settings menu. -/
def settingsRounds : Nat → Run Unit
  | 0 => throw (.unanswered .closed)
  | n + 1 => do
      let action := chosenAction (← chooseSetting)
      if action = "back" then
        return ()
      else
        settingsAction action
        pause
        settingsRounds n

/- The settings menu. -/
def settingsMenu : Run Unit := do
  settingsRounds (← rounds)

------------------------------------------------------------
-- The Main Menu
------------------------------------------------------------

/- The items of the main menu. -/
def mainItems (config : Config) : List MenuItem :=
  [item config ⟨"🗄️", ">"⟩ "List databases" "databases",
    item config ⟨"🤖", ">"⟩ "List models" "models",
    item config ⟨"⏱️", ">"⟩ "List jobs" "jobs",
    item config ⟨"🔍", ">"⟩ "Query a knowledge base" "query",
    item config ⟨"💬", ">"⟩ "Ask an agent" "agent",
    item config ⟨"⚙️", ">"⟩ "Settings (MindsDB URL, project...)"
      "settings",
    .separator,
    item config ⟨"❌", "x"⟩ "Exit" "exit"]

/- Carry out an operation that was chosen from the menu. -/
def performChosen
    (operation : Operation)
    (args : Arguments) : Run Unit := do
  let _ ← perform operation args {}
  return ()

/- Ask for a search in a knowledge base, and run it. -/
def queryKnowledgeBase : Run Unit := do
  let name ← askText "kbName" "Knowledge base:" none Check.name
  let text ← askText "queryText" "Search for:" none
    (Check.required "Search text")
  let limit ← askText "limit" "Maximum results:" (some "5")
    Check.count
  performChosen .query
    [("kbName", .text name), ("queryText", .text text),
      ("limit", .text limit)]

/- Ask for a question to an agent, and put it. -/
def askAgent : Run Unit := do
  let name ← askText "agentName" "Agent:" none Check.name
  let question ← askText "question" "Question:" none
    (Check.required "Question")
  performChosen .queryAgent
    [("agentName", .text name), ("question", .text question)]

/- What a choice of the main menu does. -/
def mainAction (action : String) : Run Unit :=
  match action with
  | "databases" => performChosen .listDatabases []
  | "models" => performChosen .listModels []
  | "jobs" => performChosen .listJobs []
  | "query" => queryKnowledgeBase
  | "agent" => askAgent
  | "settings" => settingsMenu
  | _ => return ()

/- The rounds of the main menu. -/
def mainRounds : Nat → Run Unit
  | 0 => throw (.unanswered .closed)
  | n + 1 => do
      let action := chosenAction
        (← choose "What would you like to do?"
          (mainItems (← config)))
      if action = "exit" then
        say (Line.info "Goodbye!")
      else
        mainAction action
        mainRounds n

/- The main menu. -/
def mainMenu : Run Unit := do
  sayAll
    [Line.blank, Line.strong "kbforge",
      Line.faint "Interactive mode - Use arrow keys to navigate",
      Line.blank]
  mainRounds (← rounds)

end Run

end KbConsole
