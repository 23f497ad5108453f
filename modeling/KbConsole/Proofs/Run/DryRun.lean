import KbConsole.Proofs.Dispatch.Contract
import KbConsole.Proofs.Run.Consent
import KbConsole.Server.Wire

/-
  Dry runs, which show statements and send none.

  The flag for a dry run belongs to the program, and every
  command honours it, wherever it stands. The main menu does
  not read the command line: there the flag is lost.

  Key definitions include:
    * `CommandLine.IsDryRun`
    * `Call.IsOfSession`
    * `Run.SendsNothing`

  The main statement is `Visit.sendsNothing_iff`. It rests
  on `Run.keeps_obey_of_dryRun`, for everything that a
  command line may be read as.
-/

namespace KbConsole

open CommandLine

------------------------------------------------------------
-- The Flag
------------------------------------------------------------

namespace CommandLine

/- The program finds its flag for a dry run. -/
def IsDryRun (argv : List String) : Prop :=
  ∃ s,
    scan console.options false argv = .ok s ∧
      s.has "dry-run" = true

namespace Scan

variable {s : Scan}
variable {long : String}

theorem has_give_of_has
    (hHas : s.has long = true)
    (o : OptionSpec)
    (value : Option String) :
    (s.give o value).has long = true := by
  rw [has, give, List.any_cons]
  exact Bool.or_eq_true_iff.mpr (Or.inr hHas)

theorem has_giveAll_of_has
    (hHas : s.has long = true)
    (flags : List OptionSpec) :
    (s.giveAll flags).has long = true := by
  induction flags with
  | nil => exact hHas
  | cons o flags ih => exact has_give_of_has ih o none

theorem has_leave
    (loose : Bool)
    (arg : String) :
    (s.leave loose arg).has long = s.has long := by
  cases loose <;> rfl

end Scan

section Flags

variable {options : List OptionSpec}
variable (hFlags : ∀ o ∈ options, o.takesValue = false)

include hFlags

theorem attached?_eq_none (cs : List Char) :
    Token.attached? options cs = none := by
  unfold Token.attached?
  split
  · split
    · cases hLetter : Token.ofLetter? options _ with
      | none => rfl
      | some o =>
          have hMember := List.mem_of_find?_eq_some hLetter
          rw [Option.bind_some, hFlags o hMember,
            if_neg (by decide)]
    · rfl
  · rfl

theorem assigned?_eq_none (cs : List Char) :
    Token.assigned? options cs = none := by
  unfold Token.assigned?
  simp only
  split
  · cases hName : Token.find? options _ with
    | none => rfl
    | some o =>
        have hMember := List.mem_of_find?_eq_some hName
        rw [Option.bind_some, hFlags o hMember,
          if_neg (by decide)]
  · rfl

/- Where no option takes a value, no argument waits for one. -/
theorem ofText_of_flags (arg : String) :
    Token.ofText options arg = .stop ∨
      (∃ o, Token.ofText options arg = .given o) ∨
        Token.ofText options arg = .unknown ∨
          Token.ofText options arg = .operand := by
  unfold Token.ofText
  simp only [attached?_eq_none hFlags,
    assigned?_eq_none hFlags]
  split
  · exact Or.inl rfl
  · split
    · exact Or.inr (Or.inr (Or.inr rfl))
    · cases hName : Token.find? options arg with
      | none => exact Or.inr (Or.inr (Or.inl rfl))
      | some o =>
          have hMember := List.mem_of_find?_eq_some hName
          refine Or.inr (Or.inl ⟨o, ?_⟩)
          simp only [hFlags o hMember, Bool.false_eq_true,
            if_false]

/- Such options are looked for without a fault. -/
theorem exists_isScan
    (loose : Bool)
    (args : List String) :
    ∃ s, IsScan options loose args s := by
  induction args generalizing loose with
  | nil => exact ⟨{}, .nil loose⟩
  | cons first rest ih =>
      rcases hPeel : peel options first with ⟨flags, arg⟩
      rcases ofText_of_flags hFlags arg with
        hStop | ⟨o, hGiven⟩ | hUnknown | hOperand
      · exact ⟨_, .stop rest hPeel hStop⟩
      · rcases ih loose with ⟨s, hRest⟩
        exact ⟨_, .given hPeel hGiven hRest⟩
      · rcases ih true with ⟨s, hRest⟩
        exact ⟨_, .unknown hPeel hUnknown hRest⟩
      · rcases ih loose with ⟨s, hRest⟩
        exact ⟨_, .operand hPeel hOperand hRest⟩

/- A flag is found wherever the options have not ended. -/
theorem exists_isScan_has
    {text : String}
    {flag : OptionSpec}
    (hText : peel options text = ([], text))
    (hFlag : Token.ofText options text = .given flag)
    {before : List String}
    (hOpen : ∀ arg ∈ before, ¬ IsDashed arg)
    (after : List String)
    (loose : Bool) :
    ∃ s,
      IsScan options loose (before ++ text :: after) s ∧
        s.has flag.long = true := by
  induction before generalizing loose with
  | nil =>
      rcases exists_isScan hFlags loose after with ⟨s, hRest⟩
      refine ⟨_, .given hText hFlag hRest, ?_⟩
      rw [Scan.has, Scan.giveAll, List.foldr_nil, Scan.give,
        List.any_cons, beq_self_eq_true, Bool.true_or]
  | cons first before ih =>
      rw [List.forall_mem_cons] at hOpen
      rcases hPeel : peel options first with ⟨flags, arg⟩
      rcases ofText_of_flags hFlags arg with
        hStop | ⟨o, hGiven⟩ | hUnknown | hOperand
      · exact absurd hStop (ofText_ne_stop hPeel hOpen.1)
      · rcases ih hOpen.2 loose with ⟨s, hRest, hHas⟩
        exact ⟨_, .given hPeel hGiven hRest,
          Scan.has_giveAll_of_has
            (Scan.has_give_of_has hHas o none) flags⟩
      · rcases ih hOpen.2 true with ⟨s, hRest, hHas⟩
        refine ⟨_, .unknown hPeel hUnknown hRest, ?_⟩
        apply Scan.has_giveAll_of_has
        rw [Scan.has_leave]
        exact hHas
      · rcases ih hOpen.2 loose with ⟨s, hRest, hHas⟩
        refine ⟨_, .operand hPeel hOperand hRest, ?_⟩
        apply Scan.has_giveAll_of_has
        rw [Scan.has_leave]
        exact hHas

end Flags

theorem not_isDashed
    {arg : String}
    (hLast : arg.toList.getLast? ≠ some '-') :
    ¬ IsDashed arg := by
  rintro ⟨middle, hChars⟩
  apply hLast
  rw [hChars, ← List.cons_append, List.getLast?_concat]

/- The flag counts wherever it stands among the options. -/
theorem isDryRun_of_mem
    (before : List String)
    (hOpen : ∀ arg ∈ before, ¬ IsDashed arg)
    (after : List String) :
    IsDryRun (before ++ "--dry-run" :: after) := by
  have hFlags :
      ∀ o ∈ console.options, o.takesValue = false := by
    decide
  have hText :
      peel console.options "--dry-run" =
        ([], "--dry-run") := by
    decide +kernel
  have hFlag :
      Token.ofText console.options "--dry-run" =
        .given
          (setting "dry-run"
            "Print the compiled SQL without sending it") := by
    decide +kernel
  rcases exists_isScan_has hFlags hText hFlag hOpen after
      false with
    ⟨s, hScan, hHas⟩
  exact ⟨s, scan_of_isScan hScan, hHas⟩

/- A command takes over the flags of the program. -/
theorem switches_of_read
    {argv : List String}
    {i : Invocation}
    (hRead : console.read argv = .run i) :
    ∃ s,
      scan console.options false argv = .ok s ∧
        i.switches = Switches.ofScan s := by
  rcases Program.read_eq_run_iff.mp hRead with
    ⟨s, name, rest, g, hScan, -, -, -, hRest⟩
  rcases Group.read_eq_run_iff.mp hRest with
    ⟨_, name, rest, c, -, -, -, hRest⟩
  rcases Command.read_eq_run_iff.mp hRest with
    ⟨_, positional, -, -, -, rfl⟩
  exact ⟨s, hScan, rfl⟩

theorem dryRun_of_read
    {argv : List String}
    {i : Invocation}
    (hDryRun : IsDryRun argv)
    (hRead : console.read argv = .run i) :
    i.switches.dryRun = true := by
  rcases hDryRun with ⟨s, hScan, hHas⟩
  rcases switches_of_read hRead with
    ⟨other, hOther, hSwitches⟩
  rw [hScan] at hOther
  rcases Except.ok.inj hOther with rfl
  rw [hSwitches]
  exact hHas

end CommandLine

------------------------------------------------------------
-- Calls of a Session
------------------------------------------------------------

/-
  A call to one of the paths of a session: that for logging
  in or that for statements.
-/
def Call.IsOfSession (c : Call) : Prop :=
  "/api/login".toList <:+ c.url.toList ∨
    "/api/sql/query".toList <:+ c.url.toList

namespace Session

theorem isOfSession_loginCall
    (settings : Settings)
    (user password : String) :
    (loginCall settings user password).IsOfSession := by
  left
  rw [loginCall, Call.url, String.toList_append]
  exact List.suffix_append _ _

theorem isOfSession_queryCall
    (settings : Settings)
    (cookie : Option String)
    (sql : String) :
    (queryCall settings cookie sql).IsOfSession := by
  right
  rw [queryCall, Call.url, String.toList_append]
  exact List.suffix_append _ _

end Session

/- Trying out an address is no call of a session. -/
theorem Call.not_isOfSession_probe (url : String) :
    ¬ (Call.get (url ++ "/api/status")).IsOfSession := by
  have hPaths :
      ¬ "/api/login".toList <:+ "/api/status".toList ∧
        ¬ "/api/status".toList <:+ "/api/login".toList ∧
        ¬ "/api/sql/query".toList <:+ "/api/status".toList ∧
        ¬ "/api/status".toList <:+
          "/api/sql/query".toList := by
    decide
  have hStatus :
      "/api/status".toList <:+
        (url ++ "/api/status").toList := by
    rw [String.toList_append]
    exact List.suffix_append _ _
  rintro (hLogin | hQuery)
  · rcases List.suffix_or_suffix_of_suffix hLogin hStatus with
      hSuffix | hSuffix
    · exact hPaths.1 hSuffix
    · exact hPaths.2.1 hSuffix
  · rcases List.suffix_or_suffix_of_suffix hQuery hStatus with
      hSuffix | hSuffix
    · exact hPaths.2.2.1 hSuffix
    · exact hPaths.2.2.2 hSuffix

------------------------------------------------------------
-- Commands
------------------------------------------------------------

/- A dry run leaves the runner alone. -/
theorem dispatch_dryRun
    {σ : Type}
    (runner : Runner σ)
    (settings : Settings)
    (d : Sql.Dialect)
    (name : String)
    (args : Arguments)
    (state : σ) :
    (dispatch runner settings d true name args state).2 =
      state := by
  unfold dispatch
  split
  · rfl
  · split
    · rfl
    · rfl

namespace Run

/- None of the calls is one of a session. -/
def SendsNothing (_ : Config) (calls : List Call) : Prop :=
  ∀ c ∈ calls, ¬ c.IsOfSession

section Commands

variable {switches : Switches}
variable (hDryRun : switches.dryRun = true)

include hDryRun

theorem dispatched_dryRun
    (operation : Operation)
    (args : Arguments)
    (s : RunState) :
    (dispatched operation args switches s).2 = s := by
  rw [dispatched, hDryRun]
  simp only [dispatch_dryRun]

theorem calls_executed_of_dryRun
    (operation : Operation)
    (args : Arguments)
    (s : RunState) :
    (executed operation args switches s).calls = s.calls := by
  rw [calls_executed, dispatched_dryRun hDryRun]

theorem keeps_execute_of_dryRun
    (operation : Operation)
    (args : Arguments) :
    Keeps SendsNothing (execute operation args switches) := by
  constructor
  intro s hState
  rw [runFrom_execute]
  intro c hCall
  rw [calls_executed_of_dryRun hDryRun] at hCall
  exact hState c hCall

/- A removal does not even ask. -/
theorem keeps_remove_of_dryRun
    (operation : Operation)
    (noun key : String)
    (args : Arguments) :
    Keeps SendsNothing
      (remove operation noun key args switches) := by
  have hConsent :
      (args.isSet "yes" || switches.dryRun) = true := by
    rw [hDryRun, Bool.or_true]
  constructor
  intro s hState
  rw [runFrom_remove_of_consent operation noun key hConsent,
    ← runFrom_execute]
  exact (keeps_execute_of_dryRun hDryRun operation
    args).after s hState

end Commands

/- Setting an address only tries it out. -/
theorem keeps_setServerUrl (given : Option String) :
    Keeps SendsNothing (setServerUrl given) := by
  constructor
  intro s hState
  rcases setServerUrl_cases given s with
    hHalted | ⟨text, -, -, -, -, hCalls⟩
  · rw [hHalted.calls]
    exact hState
  · rw [hCalls]
    intro c hCall
    rcases List.mem_append.mp hCall with hBefore | hProbe
    · exact hState c hBefore
    · rw [List.mem_singleton.mp hProbe]
      exact Call.not_isOfSession_probe _

theorem keeps_setProject (project : String) :
    Keeps SendsNothing (setProject project) := by
  constructor
  intro s hState
  rcases setProject_cases project s with
    ⟨hHalted, -⟩ | ⟨-, -, -, hCalls⟩
  · rw [hHalted.calls]
    exact hState
  · rw [hCalls]
    exact hState

/- Every command honours the flag. -/
theorem keeps_invoke_of_dryRun
    {i : Invocation}
    (hDryRun : i.switches.dryRun = true) :
    Keeps SendsNothing (invoke i) := by
  unfold invoke
  split
  · exact keeps_execute_of_dryRun hDryRun _ _
  · exact keeps_remove_of_dryRun hDryRun _ _ _ _
  · exact isPassive_showConfig.keeps _
  · exact keeps_setServerUrl _
  · exact keeps_setProject _
  · exact keeps_resetConfig (fun _ _ hState => hState) _

theorem keeps_obey_of_dryRun
    {argv : List String}
    (hDryRun : IsDryRun argv) :
    Keeps SendsNothing (obey (console.read argv)) := by
  cases hRead : console.read argv with
  | run i =>
      exact keeps_invoke_of_dryRun
        (dryRun_of_read hDryRun hRead)
  | _ =>
      apply (isPassive_obey _).keeps
      intro i hRun
      cases hRun

------------------------------------------------------------
-- The Menu
------------------------------------------------------------

/- Some call is one of a session. -/
def Sends (_ : Config) (calls : List Call) : Prop :=
  ∃ c ∈ calls, c.IsOfSession

/- What was sent remains sent. -/
theorem isInvariant_sends : IsInvariant Sends := by
  constructor
  · rintro config calls c ⟨sent, hMember, hSent⟩
    exact ⟨sent, List.mem_append_left _ hMember, hSent⟩
  · intro config calls change _ hSends
    exact hSends

end Run

/- The first statement of a session makes a call. -/
theorem Session.sends_execute
    (settings : Settings)
    (sql : String)
    (s : RunState) :
    Run.Sends s.config
      (execute RunState.server settings sql
        (none, s)).2.2.calls := by
  have hQuery (cookie : Option String) (next : RunState) :
      Run.Sends s.config
        (RunState.server (queryCall settings cookie sql)
          next).2.calls :=
    ⟨_, List.mem_append_right _ (List.mem_singleton_self _),
      isOfSession_queryCall settings cookie sql⟩
  have hLogin (user password : String) :
      Run.Sends s.config
        (RunState.server (loginCall settings user password)
          s).2.calls :=
    ⟨_, List.mem_append_right _ (List.mem_singleton_self _),
      isOfSession_loginCall settings user password⟩
  unfold execute login
  cases settings.credentials? with
  | none => exact hQuery none s
  | some credentials =>
      rcases credentials with ⟨user, password⟩
      simp only
      split
      · rename_i hRefused
        have hState := congrArg (fun given => given.2.2) hRefused
        rw [← hState]
        exact hLogin user password
      · exact hQuery _ _

namespace Run

/- Statements that follow take nothing back. -/
theorem sends_runAll
    (settings : Settings)
    (echo : Bool)
    (acknowledgement sql : String)
    (rest : List String)
    (s : RunState) :
    HoldsIn Sends
      ((runner settings echo).runAll acknowledgement
        (sql :: rest) (none, s)).2 := by
  have hFirst :
      HoldsIn Sends
        ((runner settings echo).execute sql
          ((runner settings echo).announce sql (none, s))).2 := by
    cases echo with
    | false => exact Session.sends_execute settings sql s
    | true =>
        exact Session.sends_execute settings sql
          (s.say [Line.statement sql])
  have hRest {state : Session × RunState} :
      HoldsIn Sends state →
        HoldsIn Sends
          ((runner settings echo).runAll acknowledgement rest
            state).2 :=
    isInvariant_sends.runAll settings echo acknowledgement rest
  rw [Runner.runAll]
  simp only
  split
  · exact hFirst
  · exact hRest hFirst

/- What can be prepared is sent, or at least logged in for. -/
theorem sends_dispatched
    {operation : Operation}
    {args : Arguments}
    {s : RunState}
    {request : Request}
    {statements : List String}
    (hPrepare :
      prepare operation args s.config.settings {} =
        .ok (request, statements)) :
    Sends s.config
      (dispatched operation args {} s).2.calls := by
  have hStatements := prepare_ne_nil hPrepare
  rcases List.exists_cons_of_ne_nil hStatements with
    ⟨sql, rest, rfl⟩
  simp only [dispatched, dispatch, Operation.ofName?_name,
    hPrepare]
  exact sends_runAll _ _ _ sql rest s

/- To list databases, the menu sends a statement. -/
theorem sends_mainAction (s : RunState) :
    Sends s.config
      (runFrom (mainAction "databases") s).2.calls := by
  have hPrepare :
      prepare .listDatabases [] s.config.settings {} =
        .ok (.listDatabases, ["SHOW DATABASES;"]) := rfl
  simp only [mainAction, performChosen, runFrom_bind,
    runFrom_perform, runFrom_pure]
  exact sends_dispatched hPrepare

/- The first answer is the choice. -/
theorem runFrom_choose_cons
    (message : String)
    (items : List MenuItem)
    {s : RunState}
    {answer : Answer}
    {rest : List Answer}
    (hAnswers : s.answers = answer :: rest) :
    ∃ next,
      runFrom (choose message items) s = (.ok answer, next) := by
  simp only [choose, askAny, runFrom_bind, runFrom_get,
    hAnswers, runFrom_modify, runFrom_pure]
  exact ⟨_, rfl⟩

/- What was sent in the first part is not taken back. -/
theorem sends_bind
    {α β : Type}
    {first : Run α}
    {second : α → Run β}
    {s : RunState}
    (hFirst : Sends s.config (runFrom first s).2.calls)
    (hSecond : ∀ value, Keeps Sends (second value)) :
    Sends s.config (runFrom (first >>= second) s).2.calls := by
  rw [runFrom_bind]
  cases hRun : runFrom first s with
  | mk result next =>
      rw [hRun] at hFirst
      cases result with
      | ok value => exact (hSecond value).after next hFirst
      | error halt => exact hFirst

theorem sends_mainRounds
    (n : Nat)
    {s : RunState}
    {rest : List Answer}
    (hAnswers : s.answers = .text "databases" :: rest) :
    Sends s.config (runFrom (mainRounds (n + 1)) s).2.calls := by
  rcases runFrom_choose_cons "What would you like to do?"
      (mainItems s.config) hAnswers with
    ⟨next, hChoice⟩
  have hSent :
      Sends next.config
        (runFrom (mainAction "databases" >>= fun _ =>
          mainRounds n) next).2.calls :=
    sends_bind (sends_mainAction next)
      fun _ => isInvariant_sends.mainRounds n
  rw [mainRounds, runFrom_bind, runFrom_config]
  simp only
  rw [runFrom_bind, hChoice]
  exact hSent

/- The menu lists databases when this is chosen first. -/
theorem sends_mainMenu
    {s : RunState}
    {rest : List Answer}
    (hAnswers : s.answers = .text "databases" :: rest) :
    Sends s.config (runFrom mainMenu s).2.calls := by
  simp only [mainMenu, rounds, runFrom_bind, runFrom_sayAll,
    runFrom_get, runFrom_pure]
  exact sends_mainRounds _ hAnswers

------------------------------------------------------------
-- Whole Runs
------------------------------------------------------------

/- The end of a run makes no call. -/
theorem calls_finish
    (argv : List String)
    (s : RunState) :
    (finish argv s).calls =
      (runFrom (start argv) s).2.calls := by
  unfold finish close
  change _ = ((start argv).run s).2.calls
  split <;> simp only [*]

/- The menu does not read the rest of the command line. -/
theorem start_of_asksForMenu
    {first : String}
    (hMenu : asksForMenu first = true)
    (rest : List String) :
    start (first :: rest) = mainMenu := by
  rw [start, if_pos hMenu]

/- Without the menu, a dry run is one throughout. -/
theorem keeps_start_of_dryRun
    {argv : List String}
    (hDryRun : IsDryRun argv)
    (hCommand :
      ∀ first ∈ argv.head?, asksForMenu first = false) :
    Keeps SendsNothing (start argv) := by
  cases argv with
  | nil =>
      rcases hDryRun with ⟨s, hScan, hHas⟩
      rcases Except.ok.inj hScan with rfl
      cases hHas
  | cons first rest =>
      have hFirst : asksForMenu first = false :=
        hCommand first rfl
      rw [start, hFirst, if_neg Bool.false_ne_true]
      exact keeps_obey_of_dryRun hDryRun

end Run

------------------------------------------------------------
-- Visits
------------------------------------------------------------

namespace Visit

/- What a visit calls. -/
def calls (file : Option StoredFile) (v : Visit) : List Call :=
  (Run.finish v.argv (v.begin file)).calls

/-
  A dry run sends nothing, whatever else the command line
  asks for, unless its first argument asks for the main menu.
  That runs as it does without arguments: what is chosen
  there is sent.
-/
theorem sendsNothing_iff
    {argv : List String}
    (hDryRun : IsDryRun argv) :
    ((∀ v : Visit, v.argv = argv →
        ∀ file, ∀ c ∈ v.calls file, ¬ c.IsOfSession) ↔
      ∀ first ∈ argv.head?, Run.asksForMenu first = false) ∧
    ∀ first ∈ argv.head?, Run.asksForMenu first = true →
      (∀ s, Run.finish argv s = Run.finish [] s) ∧
        ∀ v : Visit, v.argv = argv →
          v.answers.head? = some (.text "databases") →
          ∀ file, ∃ c ∈ v.calls file, c.IsOfSession := by
  have hMenu
      (first : String)
      (hFirst : first ∈ argv.head?)
      (hAsks : Run.asksForMenu first = true) :
      (∀ s, Run.finish argv s = Run.finish [] s) ∧
        ∀ v : Visit, v.argv = argv →
          v.answers.head? = some (.text "databases") →
          ∀ file, ∃ c ∈ v.calls file, c.IsOfSession := by
    rcases List.head?_eq_some_iff.mp hFirst with ⟨rest, rfl⟩
    have hStart := Run.start_of_asksForMenu hAsks rest
    constructor
    · intro s
      rw [Run.finish, hStart]
      rfl
    · intro v hArgv hAnswers file
      rcases List.head?_eq_some_iff.mp hAnswers with
        ⟨answers, hAnswers⟩
      have hFirst :
          (v.begin file).answers =
            .text "databases" :: answers := hAnswers
      rw [calls, Run.calls_finish, hArgv, hStart]
      exact Run.sends_mainMenu hFirst
  refine ⟨⟨?_, ?_⟩, hMenu⟩
  · intro hSilent first hFirst
    by_contra hAsks
    rw [Bool.not_eq_false] at hAsks
    let v : Visit := { argv, answers := [.text "databases"] }
    rcases (hMenu first hFirst hAsks).2 v rfl rfl none with
      ⟨c, hCall, hSession⟩
    exact hSilent v rfl none c hCall hSession
  · intro hCommand v hArgv file c hCall
    rw [calls, Run.calls_finish, hArgv] at hCall
    have hKeeps := Run.keeps_start_of_dryRun hDryRun hCommand
    have hBefore :
        Run.SendsNothing (v.begin file).config
          (v.begin file).calls :=
      fun c hBefore => absurd hBefore List.not_mem_nil
    exact hKeeps.after (v.begin file) hBefore c hCall

/-
  A model is not dropped by a dry run; behind the menu, the
  databases are listed all the same.
-/
theorem sendsNothing_iff_dropModel :
    let argv := ["ai", "drop-model", "m", "--dry-run"]
    let chosen : Visit :=
      { argv := ["--interactive", "--dry-run", "ai"]
        answers := [.text "databases"] }
    IsDryRun argv ∧
      (∀ first ∈ argv.head?, Run.asksForMenu first = false) ∧
      (∀ v : Visit, v.argv = argv →
        ∀ file, ∀ c ∈ v.calls file, ¬ c.IsOfSession) ∧
      IsDryRun chosen.argv ∧
      Run.finish chosen.argv {} = Run.finish [] {} ∧
      ∃ c ∈ chosen.calls none, c.IsOfSession := by
  intro argv chosen
  have hOpen :
      ∀ arg ∈ ["ai", "drop-model", "m"],
        arg.toList.getLast? ≠ some '-' := by
    decide
  have hFirst :
      ∀ arg ∈ ["--interactive"],
        arg.toList.getLast? ≠ some '-' := by
    decide
  have hArgv : IsDryRun argv :=
    isDryRun_of_mem ["ai", "drop-model", "m"]
      (fun arg hArg => not_isDashed (hOpen arg hArg)) []
  have hCommand :
      ∀ first ∈ argv.head?, Run.asksForMenu first = false := by
    decide
  have hChosen : IsDryRun chosen.argv :=
    isDryRun_of_mem ["--interactive"]
      (fun arg hArg => not_isDashed (hFirst arg hArg)) ["ai"]
  have hMenu :=
    (sendsNothing_iff hChosen).2 "--interactive" rfl
      (by decide)
  refine ⟨hArgv, hCommand, ?_, hChosen, hMenu.1 {}, ?_⟩
  · exact (sendsNothing_iff hArgv).1.mpr hCommand
  · exact hMenu.2 chosen rfl rfl none

/- So a dry run may send a statement. -/
theorem not_sendsNothing_menu :
    ¬ ∀ v : Visit, IsDryRun v.argv →
      ∀ file, ∀ c ∈ v.calls file, ¬ c.IsOfSession := by
  intro hSilent
  let v : Visit :=
    { argv := ["-i", "--dry-run"]
      answers := [.text "databases", .text "exit"] }
  have hFirst :
      ∀ arg ∈ ["-i"], arg.toList.getLast? ≠ some '-' := by
    decide
  have hDryRun : IsDryRun v.argv :=
    isDryRun_of_mem ["-i"]
      (fun arg hArg => not_isDashed (hFirst arg hArg)) []
  have hCalls :
      v.calls none =
        [Session.queryCall ({} : Config).settings none
          "SHOW DATABASES;"] := by
    decide +kernel
  apply hSilent v hDryRun none
  · rw [hCalls]
    exact List.mem_singleton_self _
  · exact Session.isOfSession_queryCall _ _ _

end Visit

end KbConsole
