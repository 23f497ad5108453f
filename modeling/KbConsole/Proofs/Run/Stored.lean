import KbConsole.Proofs.Config
import KbConsole.Proofs.Run.Rules
import KbConsole.Proofs.Url
import KbConsole.Run.Start

/-
  What runs store: only server addresses that are accepted
  and safe names.

  Key definitions include:
    * `Preferences.IsValid`, `Change.IsValid`
    * `Run.IsHalted`
    * `Run.IsInvariant`
    * `Run.verdict?`
    * `Visit`, `Visit.leave`

  The main statement is `Visit.stored_isValid`, for any
  number of runs. It rests on `Run.IsInvariant.start`: what
  calls and valid changes keep, a whole run keeps.
-/

namespace KbConsole

------------------------------------------------------------
-- Valid Preferences
------------------------------------------------------------

/- An accepted address that does not end with a slash. -/
structure Url.IsStorable (url : String) : Prop where
  accepted : Check.url url = none
  bare : url.toList.getLast? ≠ some '/'

/- What may be stored of each field. -/
structure Preferences.IsValid (p : Preferences) : Prop where
  serverUrl :
    ∀ url, p.serverUrl = some url → Url.IsStorable url
  project :
    ∀ name, p.project = some name →
      Identifier.isSafe name = true

/- A change that stores only what may be stored. -/
def Change.IsValid : Change → Prop
  | serverUrl url => Url.IsStorable url
  | project name => Identifier.isSafe name = true
  | clear => True

/- An accepted address may be stored in its normal form. -/
theorem Url.isStorable_normalize
    {url : String}
    (hAccepted : Check.url (normalize url) = none) :
    IsStorable (normalize url) :=
  ⟨hAccepted, getLast?_normalize url⟩

theorem Check.name_eq_none_iff {s : String} :
    name s = none ↔
      Text.isVoid s = false ∧
        Identifier.isSafe (Text.trim s) = true := by
  unfold name
  split
  · simp_all
  · split
    · simp_all
    · simp_all

namespace Preferences

theorem isValid_empty : IsValid {} := by
  constructor
  · intro url hUrl
    cases hUrl
  · intro name hName
    cases hName

/- A valid change of one field leaves the other one valid. -/
theorem IsValid.apply
    {p : Preferences}
    (hValid : p.IsValid)
    {change : Change}
    (hChange : change.IsValid) :
    (change.apply p).IsValid := by
  cases change with
  | serverUrl url =>
      refine ⟨?_, hValid.project⟩
      intro other hOther
      rcases Option.some.inj hOther with rfl
      exact hChange
  | project name =>
      refine ⟨hValid.serverUrl, ?_⟩
      intro other hOther
      rcases Option.some.inj hOther with rfl
      exact hChange
  | clear => exact isValid_empty

end Preferences

/- The record that the stored file is read as. -/
def StoredFile.preferences
    (file : Option StoredFile) : Preferences :=
  Preferences.ofStored (Stored.ofFile file)

/- A change of the file is the same change of its record. -/
theorem Change.preferences_perform
    (config : Config)
    (change : Change) :
    StoredFile.preferences (change.perform config).file =
      change.apply (StoredFile.preferences config.file) := by
  have hBefore := Config.holds_initially config
  have hAfter := (Config.holds_perform hBefore change).stored
  have hStored :
      StoredFile.preferences (change.perform config).file =
        Preferences.ofStored
          (change.perform config).stored := rfl
  rw [hStored, hAfter, Preferences.ofStored_entries]
  rfl

namespace Run

------------------------------------------------------------
-- Setting the Address and the Project
------------------------------------------------------------

/- An accepted address is tried out and stored. -/
theorem storeServerUrl_eq
    (url : String)
    (s : RunState) :
    (runFrom (storeServerUrl url) s).1 = .ok () ∧
      (runFrom (storeServerUrl url) s).2.config =
        s.config.setServerUrl url ∧
      (runFrom (storeServerUrl url) s).2.calls =
        s.calls ++ [.get (url ++ "/api/status")] := by
  simp only [storeServerUrl, probe, runFrom_bind, runFrom_say,
    runFrom_sayAll, runFrom_call, runFrom_reconfigure,
    runFrom_config]
  split
  · exact ⟨rfl, rfl, rfl⟩
  · exact ⟨rfl, rfl, rfl⟩

/- An address that is given and accepted is stored. -/
theorem setServerUrl_of_accepted
    {given : Option String}
    {text : String}
    (hGiven : given? given = some text)
    (hAccepted : Check.url (Url.normalize text) = none)
    (s : RunState) :
    (runFrom (setServerUrl given) s).1 = .ok () := by
  simp only [setServerUrl, hGiven, wantedUrl, runFrom_bind,
    runFrom_pure, hAccepted]
  exact (storeServerUrl_eq (Url.normalize text) s).1

/- A part of a run that ended early and was passive. -/
structure IsHalted
    (s : RunState)
    (ended : Except Halt Unit × RunState) : Prop where
  halted : ∃ halt, ended.1 = .error halt
  config : ended.2.config = s.config
  calls : ended.2.calls = s.calls

/-
  An address is either refused, and then nothing is called
  and stored, or stored in its normal form.
-/
theorem setServerUrl_cases
    (given : Option String)
    (s : RunState) :
    IsHalted s (runFrom (setServerUrl given) s) ∨
      ∃ text,
        Check.url (Url.normalize text) = none ∧
          (∀ url, given? given = some url → text = url) ∧
          (runFrom (setServerUrl given) s).1 = .ok () ∧
          (runFrom (setServerUrl given) s).2.config =
            s.config.setServerUrl (Url.normalize text) ∧
          (runFrom (setServerUrl given) s).2.calls =
            s.calls ++
              [.get (Url.normalize text ++ "/api/status")] := by
  have hWanted :=
    (isPassive_wantedUrl (given? given)).state_eq s
  rw [setServerUrl, runFrom_bind]
  cases hAnswer : runFrom (wantedUrl (given? given)) s with
  | mk result next =>
      rw [hAnswer] at hWanted
      cases result with
      | error halt =>
          exact Or.inl ⟨⟨halt, rfl⟩, hWanted.1, hWanted.2⟩
      | ok text =>
          simp only
          split
          · rename_i hAccepted
            have hStored :=
              storeServerUrl_eq (Url.normalize text) next
            rw [hWanted.1, hWanted.2] at hStored
            refine Or.inr ⟨text, hAccepted, ?_, hStored⟩
            intro url hGiven
            rw [hGiven] at hAnswer
            cases hAnswer
            rfl
          · left
            refine ⟨⟨.exit 1, ?_⟩, hWanted.1, hWanted.2⟩
            simp only [runFrom_bind, runFrom_say, runFrom_leave]

/- A project is either refused or stored without margins. -/
theorem setProject_cases
    (project : String)
    (s : RunState) :
    IsHalted s (runFrom (setProject project) s) ∧
        Check.name project ≠ none ∨
      Check.name project = none ∧
        (runFrom (setProject project) s).1 = .ok () ∧
        (runFrom (setProject project) s).2.config =
          s.config.setProject (Text.trim project) ∧
        (runFrom (setProject project) s).2.calls = s.calls := by
  rw [setProject]
  split
  · rename_i hAccepted
    exact Or.inr ⟨hAccepted, rfl, rfl, rfl⟩
  · rename_i reason hRefused
    refine Or.inl ⟨⟨⟨.exit 1, rfl⟩, rfl, rfl⟩, ?_⟩
    rw [hRefused]
    exact Option.some_ne_none reason

------------------------------------------------------------
-- Resetting and Obeying
------------------------------------------------------------

/- A reset only clears the configuration. -/
theorem keeps_resetConfig
    {P : Config → List Call → Prop}
    (hClear :
      ∀ config calls, P config calls → P config.clear calls)
    (message : String) :
    Keeps P (resetConfig message) := by
  apply (isPassive_askDecision _ _).before
  intro decision _
  apply Keeps.ite
  · apply (keeps_reconfigure hClear).bind
    intro _ _
    apply (isPassive_sayAll _).before
    intro _ _
    exact isPassive_showTargets.keeps P
  · exact (isPassive_say _).keeps P

/- Only a command does more than to talk with the user. -/
theorem isPassive_obey
    {reading : CommandLine.Reading}
    (hTalk : ∀ i, reading ≠ .run i) :
    IsPassive (obey reading) := by
  cases reading with
  | version text =>
      exact (isPassive_say _).bind fun _ => isPassive_leave 0
  | help page =>
      exact (isPassive_sayAll _).bind fun _ => isPassive_leave 0
  | usage page =>
      exact (isPassive_complain _).bind fun _ => isPassive_leave 1
  | fault fault =>
      exact (isPassive_complain _).bind fun _ => isPassive_leave 1
  | run invocation => exact absurd rfl (hTalk invocation)

------------------------------------------------------------
-- Whole Runs
------------------------------------------------------------

/- What every call and every valid change keeps. -/
structure IsInvariant
    (P : Config → List Call → Prop) : Prop where
  call :
    ∀ config calls c,
      P config calls → P config (calls ++ [c])
  change :
    ∀ config calls change,
      Change.IsValid change → P config calls →
        P (change.perform config) calls

/- What a property says of the state of a runner. -/
def HoldsIn
    (P : Config → List Call → Prop)
    (state : Session × RunState) : Prop :=
  P state.2.config state.2.calls

/- A statement is announced without a call. -/
theorem HoldsIn.announce
    {P : Config → List Call → Prop}
    {state : Session × RunState}
    (hState : HoldsIn P state)
    (settings : Settings)
    (echo : Bool)
    (sql : String) :
    HoldsIn P ((runner settings echo).announce sql state) := by
  change HoldsIn P (if _ then _ else _)
  split
  · exact hState
  · exact hState

namespace IsInvariant

variable
  {P : Config → List Call → Prop}
  (hP : IsInvariant P)

include hP

theorem probe (url : String) : Keeps P (Run.probe url) := by
  apply (isPassive_say _).before
  intro _ _
  apply (keeps_call hP.call _).bind
  intro reply _
  exact (isPassive_sayAll _).keeps P

theorem setServerUrl (given : Option String) :
    Keeps P (Run.setServerUrl given) := by
  constructor
  intro s hState
  rcases setServerUrl_cases given s with
    hHalted | ⟨text, hAccepted, -, -, hConfig, hCalls⟩
  · rw [hHalted.config, hHalted.calls]
    exact hState
  · rw [hConfig, hCalls]
    exact hP.change _ _ (.serverUrl _)
      (Url.isStorable_normalize hAccepted)
      (hP.call _ _ _ hState)

theorem setProject (project : String) :
    Keeps P (Run.setProject project) := by
  constructor
  intro s hState
  rcases setProject_cases project s with
    ⟨hHalted, -⟩ | ⟨hAccepted, -, hConfig, hCalls⟩
  · rw [hHalted.config, hHalted.calls]
    exact hState
  · rw [hConfig, hCalls]
    exact hP.change _ _ (.project _)
      (Check.name_eq_none_iff.mp hAccepted).2 hState

theorem resetConfig (message : String) :
    Keeps P (Run.resetConfig message) :=
  keeps_resetConfig
    (fun config calls => hP.change config calls .clear trivial)
    message

theorem executeStatement
    (settings : Settings)
    (echo : Bool)
    (sql : String)
    {state : Session × RunState}
    (hState : HoldsIn P state) :
    HoldsIn P ((runner settings echo).execute sql state).2 := by
  have hServer :
      ∀ c state, P state.config state.calls →
        P (RunState.server c state).2.config
          (RunState.server c state).2.calls :=
    fun c state => hP.call _ _ c
  exact holds_execute hServer settings sql hState

theorem runAll
    (settings : Settings)
    (echo : Bool)
    (acknowledgement : String)
    (statements : List String)
    {state : Session × RunState}
    (hState : HoldsIn P state) :
    HoldsIn P
      ((runner settings echo).runAll acknowledgement statements
        state).2 :=
  holds_runAll
    (fun sql _ hBefore => hBefore.announce settings echo sql)
    (fun sql _ => hP.executeStatement settings echo sql)
    acknowledgement statements hState

theorem perform
    (operation : Operation)
    (args : Arguments)
    (switches : CommandLine.Switches) :
    Keeps P (Run.perform operation args switches) := by
  constructor
  intro s hState
  simp only [Run.perform, runFrom_bind, runFrom_get]
  have hInitially : HoldsIn P (none, s) := hState
  exact holds_dispatch
    (fun sql _ hBefore =>
      hBefore.announce s.config.settings _ sql)
    (fun sql _ => hP.executeStatement s.config.settings _ sql)
    s.config.settings {} switches.dryRun operation.name args
    hInitially

theorem execute
    (operation : Operation)
    (args : Arguments)
    (switches : CommandLine.Switches) :
    Keeps P (Run.execute operation args switches) := by
  apply (hP.perform operation args switches).bind
  intro report _
  apply Keeps.ite
  · exact keeps_modify fun _ hState => hState
  · exact (isPassive_pure ()).keeps P

theorem remove
    (operation : Operation)
    (noun key : String)
    (args : Arguments)
    (switches : CommandLine.Switches) :
    Keeps P (Run.remove operation noun key args switches) := by
  have hAsks :
      IsPassive
        (confirmed noun (givenText args key) args
          switches) := by
    unfold confirmed
    split
    · exact isPassive_pure true
    · exact isPassive_askDecision _ _
  apply hAsks.before
  intro decision _
  apply Keeps.ite
  · exact hP.execute operation args switches
  · exact (isPassive_say _).keeps P

theorem replaceServerUrl (current : String) :
    Keeps P (Run.replaceServerUrl current) := by
  apply (isPassive_say _).before
  intro _ _
  apply (isPassive_askText _ _ _ _).before
  intro text hText
  have hAccepted := accepted_of_gives_askText hText
  apply (hP.probe _).bind
  intro _ _
  apply (isPassive_askDecision _ _).before
  intro decision _
  apply Keeps.ite
  · have hStore :
        Keeps P
          (Run.reconfigure
            (·.setServerUrl (Url.normalize text))) := by
      apply keeps_reconfigure
      intro config calls
      exact hP.change config calls (.serverUrl _)
        (Url.isStorable_normalize
          (Check.url_normalize hAccepted))
    apply hStore.bind
    intro _ _
    exact (isPassive_say _).keeps P
  · exact (isPassive_say _).keeps P

theorem configureServerUrl :
    Keeps P Run.configureServerUrl := by
  apply isPassive_config.before
  intro config _
  apply (isPassive_sayAll _).before
  intro _ _
  split
  · exact (isPassive_sayAll _).keeps P
  · apply (isPassive_say _).before
    intro _ _
    exact hP.replaceServerUrl _
  · apply (isPassive_say _).before
    intro _ _
    exact hP.replaceServerUrl _

theorem configureProject : Keeps P Run.configureProject := by
  apply isPassive_config.before
  intro config _
  apply (isPassive_askText _ _ _ _).before
  intro answer hAnswer
  have hAccepted := accepted_of_gives_askText hAnswer
  have hStore :
      Keeps P
        (Run.reconfigure
          (·.setProject (Text.trim answer))) := by
    apply keeps_reconfigure
    intro config calls
    exact hP.change config calls (.project _)
      (Check.name_eq_none_iff.mp hAccepted).2
  apply hStore.bind
  intro _ _
  exact (isPassive_say _).keeps P

theorem settingsAction (action : String) :
    Keeps P (Run.settingsAction action) := by
  unfold Run.settingsAction
  split
  · exact hP.configureServerUrl
  · exact hP.configureProject
  · exact isPassive_showConfig.keeps P
  · exact hP.resetConfig _
  · exact (isPassive_pure ()).keeps P

theorem settingsRounds (n : Nat) :
    Keeps P (Run.settingsRounds n) := by
  induction n with
  | zero => exact (isPassive_throw _).keeps P
  | succ n ih =>
      apply isPassive_chooseSetting.before
      intro answer _
      apply Keeps.ite
      · exact (isPassive_pure ()).keeps P
      · apply (hP.settingsAction _).bind
        intro _ _
        apply isPassive_pause.before
        intro _ _
        exact ih

theorem settingsMenu : Keeps P Run.settingsMenu := by
  apply isPassive_rounds.before
  intro n _
  exact hP.settingsRounds n

theorem performChosen
    (operation : Operation)
    (args : Arguments) :
    Keeps P (Run.performChosen operation args) := by
  apply (hP.perform operation args {}).bind
  intro report _
  exact (isPassive_pure ()).keeps P

theorem queryKnowledgeBase :
    Keeps P Run.queryKnowledgeBase := by
  apply (isPassive_askText _ _ _ _).before
  intro name _
  apply (isPassive_askText _ _ _ _).before
  intro text _
  apply (isPassive_askText _ _ _ _).before
  intro limit _
  exact hP.performChosen _ _

theorem askAgent : Keeps P Run.askAgent := by
  apply (isPassive_askText _ _ _ _).before
  intro name _
  apply (isPassive_askText _ _ _ _).before
  intro question _
  exact hP.performChosen _ _

theorem mainAction (action : String) :
    Keeps P (Run.mainAction action) := by
  unfold Run.mainAction
  split
  · exact hP.performChosen _ _
  · exact hP.performChosen _ _
  · exact hP.performChosen _ _
  · exact hP.queryKnowledgeBase
  · exact hP.askAgent
  · exact hP.settingsMenu
  · exact (isPassive_pure ()).keeps P

theorem mainRounds (n : Nat) :
    Keeps P (Run.mainRounds n) := by
  induction n with
  | zero => exact (isPassive_throw _).keeps P
  | succ n ih =>
      apply isPassive_config.before
      intro config _
      apply (isPassive_askAny _).before
      intro answer _
      apply Keeps.ite
      · exact (isPassive_say _).keeps P
      · apply (hP.mainAction _).bind
        intro _ _
        exact ih

theorem mainMenu : Keeps P Run.mainMenu := by
  apply (isPassive_sayAll _).before
  intro _ _
  apply isPassive_rounds.before
  intro n _
  exact hP.mainRounds n

theorem invoke (i : CommandLine.Invocation) :
    Keeps P (Run.invoke i) := by
  unfold Run.invoke
  split
  · exact hP.execute _ _ _
  · exact hP.remove _ _ _ _ _
  · exact isPassive_showConfig.keeps P
  · exact hP.setServerUrl _
  · exact hP.setProject _
  · exact hP.resetConfig _

theorem obey (reading : CommandLine.Reading) :
    Keeps P (Run.obey reading) := by
  cases reading with
  | run invocation => exact hP.invoke invocation
  | _ =>
      apply (isPassive_obey _).keeps P
      intro i hRun
      cases hRun

/- What calls and valid changes keep, a whole run keeps. -/
theorem start (argv : List String) :
    Keeps P (Run.start argv) := by
  unfold Run.start
  split
  · exact hP.mainMenu
  · split
    · exact hP.mainMenu
    · exact hP.obey _

end IsInvariant

/- A file that is read as a valid record remains one. -/
theorem isInvariant_stored :
    IsInvariant fun config _ =>
      (StoredFile.preferences config.file).IsValid := by
  constructor
  · intro config calls c hValid
    exact hValid
  · intro config calls change hChange hValid
    rw [Change.preferences_perform]
    exact hValid.apply hChange

------------------------------------------------------------
-- Setters
------------------------------------------------------------

/- Whether a command sets the address or the project. -/
def IsSetter (i : CommandLine.Invocation) : Prop :=
  i.action = .setServerUrl ∨ i.action = .setProject

/-
  What the check says about what a setter is given: the
  reason for which it is refused, or none. An address that
  is left out is asked for, and there is no verdict yet.
-/
def verdict?
    (i : CommandLine.Invocation) : Option (Option String) :=
  match i.action with
  | .setServerUrl =>
      (given? (some (givenText i.arguments "url"))).map
        fun url => Check.url (Url.normalize url)
  | .setProject =>
      some (Check.name (givenText i.arguments "project"))
  | _ => none

/- A setter that does not store a valid value does nothing. -/
theorem runFrom_of_isSetter
    {i : CommandLine.Invocation}
    (hSetter : IsSetter i)
    (s : RunState) :
    IsHalted s (runFrom (invoke i) s) ∨
      ∃ change,
        Change.IsValid change ∧
          change ≠ .clear ∧
          (runFrom (invoke i) s).1 = .ok () ∧
          (runFrom (invoke i) s).2.config =
            change.perform s.config := by
  unfold invoke
  rcases hSetter with hAction | hAction
  · rw [hAction]
    rcases setServerUrl_cases
        (some (givenText i.arguments "url")) s with
      hHalted | ⟨text, hAccepted, -, hDone, hConfig, -⟩
    · exact Or.inl hHalted
    · refine Or.inr
        ⟨.serverUrl (Url.normalize text), ?_, ?_, hDone,
          hConfig⟩
      · exact Url.isStorable_normalize hAccepted
      · exact Change.noConfusion
  · rw [hAction]
    rcases setProject_cases
        (givenText i.arguments "project") s with
      ⟨hHalted, -⟩ | ⟨hAccepted, hDone, hConfig, -⟩
    · exact Or.inl hHalted
    · refine Or.inr ⟨.project _, ?_, ?_, hDone, hConfig⟩
      · exact (Check.name_eq_none_iff.mp hAccepted).2
      · exact Change.noConfusion

/- A refusal is printed with its reason, and is an error. -/
theorem runFrom_of_refused
    {i : CommandLine.Invocation}
    {reason : String}
    (hVerdict : verdict? i = some (some reason))
    (s : RunState) :
    (runFrom (invoke i) s).1 = .error (.exit 1) ∧
      (runFrom (invoke i) s).2.lines =
        s.lines ++ [Line.error reason] := by
  unfold verdict? at hVerdict
  unfold invoke
  split at hVerdict
  · rename_i hAction
    rcases Option.map_eq_some_iff.mp hVerdict with
      ⟨url, hGiven, hReason⟩
    rw [hAction]
    simp only [setServerUrl, hGiven, wantedUrl, runFrom_bind,
      runFrom_pure, hReason, runFrom_say, runFrom_leave]
    exact ⟨trivial, rfl⟩
  · rename_i hAction
    have hReason := Option.some.inj hVerdict
    rw [hAction]
    simp only [setProject, hReason, runFrom_bind, runFrom_say,
      runFrom_leave]
    exact ⟨trivial, rfl⟩
  · cases hVerdict

theorem runFrom_of_accepted
    {i : CommandLine.Invocation}
    (hVerdict : verdict? i = some none)
    (s : RunState) :
    (runFrom (invoke i) s).1 = .ok () := by
  unfold verdict? at hVerdict
  unfold invoke
  split at hVerdict
  · rename_i hAction
    rcases Option.map_eq_some_iff.mp hVerdict with
      ⟨url, hGiven, hAccepted⟩
    rw [hAction]
    exact setServerUrl_of_accepted hGiven hAccepted s
  · rename_i hAction
    have hAccepted := Option.some.inj hVerdict
    rw [hAction]
    rcases setProject_cases
        (givenText i.arguments "project") s with
      ⟨-, hRefused⟩ | ⟨-, hDone, -⟩
    · exact absurd hAccepted hRefused
    · exact hDone
  · cases hVerdict

end Run

------------------------------------------------------------
-- Visits
------------------------------------------------------------

/- A run of the program, with all that it is told. -/
structure Visit where
  environment : Environment := []
  argv : List String := []
  answers : List Answer := []
  replies : List Reply := []

namespace Visit

/- The state in which a visit begins. -/
def begin (file : Option StoredFile) (v : Visit) : RunState where
  config := { environment := v.environment, file }
  answers := v.answers
  replies := v.replies

/- The stored file that a visit leaves behind. -/
def leave
    (file : Option StoredFile)
    (v : Visit) : Option StoredFile :=
  (Run.finish v.argv (v.begin file)).config.file

/- The end of a run changes its status only. -/
theorem leave_eq (file : Option StoredFile) (v : Visit) :
    v.leave file =
      (Run.runFrom (Run.start v.argv)
        (v.begin file)).2.config.file := by
  unfold leave Run.finish Run.close
  change _ = ((Run.start v.argv).run (v.begin file)).2.config.file
  split <;> simp only [*]

/- Visits leave valid files behind if they find one. -/
theorem isValid_foldl_leave
    (visits : List Visit)
    {file : Option StoredFile}
    (hValid : (StoredFile.preferences file).IsValid) :
    (StoredFile.preferences
      (visits.foldl leave file)).IsValid := by
  induction visits generalizing file with
  | nil => exact hValid
  | cons v visits ih =>
      apply ih
      rw [leave_eq]
      exact (Run.isInvariant_stored.start v.argv).after
        (v.begin file) hValid

/-
  Whatever visits follow one another, the stored address is
  accepted and bare, and the stored project is a safe name.
  A setter stores what is accepted, and refuses what is not:
  then it calls and stores nothing. An accepted address is
  also accepted in the normal form in which it is stored.
-/
theorem stored_isValid (visits : List Visit) :
    (StoredFile.preferences
        (visits.foldl leave none)).IsValid ∧
      (∀ i s, Run.IsSetter i →
        Run.IsHalted s (Run.runFrom (Run.invoke i) s) ∨
          ∃ change,
            Change.IsValid change ∧
              change ≠ .clear ∧
              (Run.runFrom (Run.invoke i) s).1 = .ok () ∧
              (Run.runFrom (Run.invoke i) s).2.config =
                change.perform s.config) ∧
      (∀ i s,
        (Run.verdict? i = some none →
          (Run.runFrom (Run.invoke i) s).1 = .ok ()) ∧
        ∀ reason, Run.verdict? i = some (some reason) →
          (Run.runFrom (Run.invoke i) s).1 =
              .error (.exit 1) ∧
            (Run.runFrom (Run.invoke i) s).2.lines =
              s.lines ++ [Line.error reason]) ∧
      ∀ url, Check.url url = none →
        Check.url (Url.normalize url) = none := by
  refine ⟨?_, ?_, ?_, ?_⟩
  · exact isValid_foldl_leave visits Preferences.isValid_empty
  · intro i s hSetter
    exact Run.runFrom_of_isSetter hSetter s
  · intro i s
    constructor
    · intro hAccepted
      exact Run.runFrom_of_accepted hAccepted s
    · intro reason hRefused
      exact Run.runFrom_of_refused hRefused s
  · intro url hAccepted
    exact Check.url_normalize hAccepted

/-
  An address set on the command line is replaced in the
  menu; an address of another protocol is refused.
-/
theorem stored_isValid_replaced :
    let visits : List Visit :=
      [{ argv :=
           ["config", "set-url", "http://localhost:47334//"] },
        { answers :=
            [.text "settings", .text "config-url",
              .text "https://example.com/", .bool true] }]
    let other : CommandLine.Invocation :=
      { action := .setServerUrl
        switches := {}
        arguments := [("url", .text "ftp://example.com")] }
    StoredFile.preferences (visits.foldl leave none) =
        { serverUrl := some "https://example.com" } ∧
      (StoredFile.preferences
        (visits.foldl leave none)).IsValid ∧
      CommandLine.console.read
          ["config", "set-url", "ftp://example.com"] =
        .run other ∧
      Run.IsHalted {} (Run.runFrom (Run.invoke other) {}) ∧
      Check.url (Url.normalize "https://example.com/") =
        none := by
  intro visits other
  rcases stored_isValid visits with
    ⟨hValid, hSetter, hVerdict, hNormal⟩
  have hOther :
      Run.verdict? other =
        some (some
          "Please enter a valid URL (http:// or https://)") := by
    decide +kernel
  refine ⟨?_, hValid, ?_, ?_, ?_⟩
  · decide +kernel
  · decide +kernel
  · rcases hSetter other {} (Or.inl rfl) with
      hHalted | ⟨-, -, -, hDone, -⟩
    · exact hHalted
    · rw [((hVerdict other {}).2 _ hOther).1] at hDone
      cases hDone
  · exact hNormal _ (by decide +kernel)

end Visit

end KbConsole
