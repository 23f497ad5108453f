import KbConsole.Proofs.Arguments
import KbConsole.Proofs.Run.Stored
import KbConsole.Server.Wire

/-
  What becomes of a stored address: the calls of a session
  append their paths to it.

  The paths are those of the calls as long as the address
  has neither a fragment nor a query. The check of addresses
  allows both, and then all that is appended belongs to
  them.

  Key definitions include:
    * `Settings.ReachesPaths`

  The main statement is
  `Run.setServerUrl_reachesPaths_iff`.
-/

namespace KbConsole

------------------------------------------------------------
-- Calls of a Session
------------------------------------------------------------

/- All calls of a session go to their own paths. -/
structure Settings.ReachesPaths (settings : Settings) :
    Prop where
  login :
    ∀ user password,
      Url.EndsInPath
        (Session.loginCall settings user password).url
        "/api/login"
  query :
    ∀ cookie sql,
      Url.EndsInPath
        (Session.queryCall settings cookie sql).url
        "/api/sql/query"

/- It is the fragment or the query that takes the paths. -/
theorem Settings.reachesPaths_iff (settings : Settings) :
    settings.ReachesPaths ↔
      ¬ Url.HasTail settings.serverUrl.toList := by
  constructor
  · intro hReaches
    apply Url.not_hasTail_of_paths
    · exact hReaches.login "" ""
    · exact hReaches.query none ""
    · decide
  · intro hTail
    constructor
    · intro user password
      exact Url.endsInPath_append hTail (by decide)
    · intro cookie sql
      exact Url.endsInPath_append hTail (by decide)

/- What is stored counts where the environment is silent. -/
theorem Config.settings_serverUrl
    {config : Config}
    {url : String}
    (hSilent :
      config.environment.value? "MINDSDB_URL" = none)
    (hStored :
      (StoredFile.preferences config.file).serverUrl =
        some url)
    (hText : url ≠ "") :
    config.settings.serverUrl = url := by
  have hEntry :
      Keyed.get? Stored.serverUrlKey config.stored =
        some url := hStored
  change config.serverUrl = url
  rw [Config.serverUrl, hSilent, Config.stored?, hEntry,
    given?_of_ne hText]

------------------------------------------------------------
-- Setting the Address
------------------------------------------------------------

namespace Run

/-
  An address that is given is set if its normal form is
  accepted. Once an address is set, the calls of all later
  runs in environments without an address of their own go to
  their paths exactly if what is stored has neither a
  fragment nor a query.
-/
theorem setServerUrl_reachesPaths_iff
    (given : Option String)
    (s : RunState) :
    let after := runFrom (setServerUrl given) s
    (∀ text, given? given = some text →
      Check.url (Url.normalize text) = none →
        after.1 = .ok ()) ∧
      (after.1 = .ok () →
        ∃ url,
          Check.url url = none ∧
            (∀ text, given? given = some text →
              url = Url.normalize text) ∧
            ∀ later : Config,
              later.environment.value? "MINDSDB_URL" = none →
              later.file = after.2.config.file →
                later.settings.serverUrl = url ∧
                  (later.settings.ReachesPaths ↔
                    ¬ Url.HasTail url.toList)) := by
  intro after
  constructor
  · intro text hGiven hAccepted
    exact setServerUrl_of_accepted hGiven hAccepted s
  · intro hDone
    rcases setServerUrl_cases given s with
      hHalted | ⟨text, hAccepted, hGiven, -, hConfig, -⟩
    · rcases hHalted.halted with ⟨halt, hEnded⟩
      rw [hEnded] at hDone
      cases hDone
    · refine ⟨Url.normalize text, hAccepted, ?_, ?_⟩
      · intro url hUrl
        rw [hGiven url hUrl]
      · intro later hSilent hFile
        have hStored :
            (StoredFile.preferences later.file).serverUrl =
              some (Url.normalize text) := by
          have hChange :=
            Change.preferences_perform s.config
              (.serverUrl (Url.normalize text))
          rw [hFile, hConfig]
          exact congrArg Preferences.serverUrl hChange
        have hText : Url.normalize text ≠ "" := by
          intro hNothing
          rw [hNothing] at hAccepted
          revert hAccepted
          decide
        have hServer :=
          Config.settings_serverUrl hSilent hStored hText
        refine ⟨hServer, ?_⟩
        rw [Settings.reachesPaths_iff, hServer]

/- An address that loses its last slash is a base. -/
theorem setServerUrl_reachesPaths_iff_bare :
    let after :=
      runFrom (setServerUrl (some "https://example.com/")) {}
    after.1 = .ok () ∧
      ({ file := after.2.config.file } :
        Config).settings.ReachesPaths := by
  have hAccepted :
      Check.url (Url.normalize "https://example.com/") =
        none := by
    decide +kernel
  have hTail :
      ¬ Url.HasTail
        (Url.normalize "https://example.com/").toList := by
    decide +kernel
  have hGiven :
      given? (some "https://example.com/") =
        some "https://example.com/" := rfl
  rcases setServerUrl_reachesPaths_iff
      (some "https://example.com/") {} with ⟨hSet, hLater⟩
  have hDone := hSet _ hGiven hAccepted
  rcases hLater hDone with ⟨url, -, hSame, hReaches⟩
  refine ⟨hDone, ?_⟩
  -- the file is not to be computed
  generalize hFile :
    (runFrom (setServerUrl (some "https://example.com/"))
      {}).2.config.file = file
  apply (hReaches { file } rfl hFile.symm).2.mpr
  rw [hSame _ hGiven]
  exact hTail

/-
  An address with a query, as a browser shows it, is
  accepted and stored as it is. From then on no call goes to
  its path.
-/
theorem not_reachesPaths_of_query :
    let visit : Visit :=
      { argv :=
          ["config", "set-url",
            "http://127.0.0.1:47334/?tab=1"] }
    let later : Config := { file := visit.leave none }
    (finish visit.argv (visit.begin none)).status = 0 ∧
      later.settings.serverUrl =
        "http://127.0.0.1:47334/?tab=1" ∧
      ¬ Url.EndsInPath
        (Session.loginCall later.settings "admin" "pw").url
        "/api/login" ∧
      ¬ Url.EndsInPath
        (Session.queryCall later.settings none
          "SHOW DATABASES;").url
        "/api/sql/query" := by
  intro visit later
  have hUrl :
      later.settings.serverUrl =
        "http://127.0.0.1:47334/?tab=1" := by
    decide +kernel
  refine ⟨?_, hUrl, ?_, ?_⟩
  · decide +kernel
  · change ¬ Url.EndsInPath
      (later.settings.serverUrl ++ "/api/login") _
    rw [hUrl]
    decide +kernel
  · change ¬ Url.EndsInPath
      (later.settings.serverUrl ++ "/api/sql/query") _
    rw [hUrl]
    decide +kernel

end Run

end KbConsole
