import KbConsole.Run.Menu
import Mathlib.Tactic.Common

/-
  What parts of a run do to the configuration, and which
  calls they make, however they end.

  A part keeps a property of the configuration and of the
  calls if it never ends in a state without it. A passive
  part, which only talks with the user, keeps all of them.

  Key definitions include:
    * `Run.runFrom`
    * `Run.Gives`
    * `Run.Keeps`
    * `Run.IsPassive`

  The main statements are `Keeps.bind` and `IsPassive.bind`,
  by which a part is followed step by step,
  `accepted_of_gives_askText`, that a text which a question
  gives was accepted by its check, and `holds_dispatch`,
  that an operation keeps what its statements keep.
-/

namespace KbConsole

namespace Run

variable {α β : Type}

------------------------------------------------------------
-- Steps
------------------------------------------------------------

/- What a part of a run gives, and the state after it. -/
def runFrom
    (part : Run α)
    (s : RunState) : Except Halt α × RunState :=
  part.run s

section Steps

variable (s : RunState)

@[simp]
theorem runFrom_pure (value : α) :
    runFrom (pure value) s = (.ok value, s) :=
  rfl

@[simp]
theorem runFrom_throw (halt : Halt) :
    runFrom (throw halt : Run α) s = (.error halt, s) :=
  rfl

@[simp]
theorem runFrom_get :
    runFrom get s = (.ok s, s) :=
  rfl

@[simp]
theorem runFrom_modify (f : RunState → RunState) :
    runFrom (modify f) s = (.ok (), f s) :=
  rfl

@[simp]
theorem runFrom_sayAll (lines : List Line) :
    runFrom (sayAll lines) s = (.ok (), s.say lines) :=
  rfl

@[simp]
theorem runFrom_say (line : Line) :
    runFrom (say line) s = (.ok (), s.say [line]) :=
  rfl

@[simp]
theorem runFrom_leave (status : Nat) :
    runFrom (leave status : Run α) s =
      (.error (.exit status), s) :=
  rfl

@[simp]
theorem runFrom_config :
    runFrom config s = (.ok s.config, s) :=
  rfl

@[simp]
theorem runFrom_reconfigure (f : Config → Config) :
    runFrom (reconfigure f) s =
      (.ok (), { s with config := f s.config }) :=
  rfl

@[simp]
theorem runFrom_call (c : Call) :
    runFrom (call c) s =
      (.ok (s.replies.headD Reply.plain),
        { s with
          replies := s.replies.tail
          calls := s.calls ++ [c] }) :=
  rfl

/- The second part runs only if the first one gave a value. -/
theorem runFrom_bind
    (first : Run α)
    (second : α → Run β) :
    runFrom (first >>= second) s =
      match runFrom first s with
      | (.ok value, next) => runFrom (second value) next
      | (.error halt, next) => (.error halt, next) := by
  unfold runFrom
  rw [ExceptT.run_bind]
  cases hFirst : ExceptT.run first s with
  | mk result next =>
      cases result with
      | ok value => simp only [bind, StateT.bind, hFirst]
      | error halt =>
          simp only [bind, StateT.bind, hFirst]
          rfl

end Steps

/- A value that a part may give. -/
def Gives (part : Run α) (value : α) : Prop :=
  ∃ s, (runFrom part s).1 = .ok value

------------------------------------------------------------
-- Kept Properties
------------------------------------------------------------

/-
  A part keeps a property of the configuration and of the
  calls, also when it ends early.
-/
structure Keeps
    (P : Config → List Call → Prop)
    (part : Run α) : Prop where
  after :
    ∀ s, P s.config s.calls →
      P (runFrom part s).2.config (runFrom part s).2.calls

/- A part that keeps every such property. -/
structure IsPassive (part : Run α) : Prop where
  keeps : ∀ P, Keeps P part

section Rules

variable
  {P : Config → List Call → Prop}
  {first : Run α}
  {second : α → Run β}

theorem IsPassive.state_eq
    (hPassive : IsPassive first)
    (s : RunState) :
    (runFrom first s).2.config = s.config ∧
      (runFrom first s).2.calls = s.calls :=
  (hPassive.keeps fun config calls =>
    config = s.config ∧ calls = s.calls).after s ⟨rfl, rfl⟩

/- The second part only has to cope with what may come. -/
theorem Keeps.bind
    (hFirst : Keeps P first)
    (hSecond :
      ∀ value, Gives first value → Keeps P (second value)) :
    Keeps P (first >>= second) := by
  constructor
  intro s hState
  have hNext := hFirst.after s hState
  rw [runFrom_bind]
  cases hRun : runFrom first s with
  | mk result next =>
      rw [hRun] at hNext
      cases result with
      | ok value =>
          have hGives : Gives first value :=
            ⟨s, congrArg Prod.fst hRun⟩
          exact (hSecond value hGives).after next hNext
      | error halt => exact hNext

theorem Keeps.ite
    {other : Run α}
    {condition : Prop}
    [Decidable condition]
    (hThen : Keeps P first)
    (hElse : Keeps P other) :
    Keeps P (if condition then first else other) := by
  split
  · exact hThen
  · exact hElse

theorem IsPassive.bind
    (hFirst : IsPassive first)
    (hSecond : ∀ value, IsPassive (second value)) :
    IsPassive (first >>= second) := by
  constructor
  intro P
  apply (hFirst.keeps P).bind
  intro value _
  exact (hSecond value).keeps P

/- A passive part may stand before any other one. -/
theorem IsPassive.before
    (hFirst : IsPassive first)
    (hSecond :
      ∀ value, Gives first value → Keeps P (second value)) :
    Keeps P (first >>= second) :=
  (hFirst.keeps P).bind hSecond

theorem isPassive_pure (value : α) :
    IsPassive (pure value : Run α) :=
  ⟨fun _ => ⟨fun _ hState => hState⟩⟩

theorem isPassive_throw (halt : Halt) :
    IsPassive (throw halt : Run α) :=
  ⟨fun _ => ⟨fun _ hState => hState⟩⟩

theorem isPassive_get : IsPassive (get : Run RunState) :=
  ⟨fun _ => ⟨fun _ hState => hState⟩⟩

theorem isPassive_config : IsPassive config :=
  ⟨fun _ => ⟨fun _ hState => hState⟩⟩

theorem keeps_modify
    {f : RunState → RunState}
    (hStep :
      ∀ s, P s.config s.calls →
        P (f s).config (f s).calls) :
    Keeps P (modify f : Run Unit) :=
  ⟨hStep⟩

/- A change of what is neither configuration nor call. -/
theorem isPassive_modify
    {f : RunState → RunState}
    (hConfig : ∀ s, (f s).config = s.config)
    (hCalls : ∀ s, (f s).calls = s.calls) :
    IsPassive (modify f : Run Unit) := by
  constructor
  intro P
  apply keeps_modify
  intro s hState
  rw [hConfig, hCalls]
  exact hState

theorem keeps_call
    (hCall :
      ∀ config calls c, P config calls →
        P config (calls ++ [c]))
    (c : Call) :
    Keeps P (call c) :=
  ⟨fun s hState => hCall s.config s.calls c hState⟩

theorem keeps_reconfigure
    {f : Config → Config}
    (hChange :
      ∀ config calls, P config calls → P (f config) calls) :
    Keeps P (reconfigure f) :=
  keeps_modify fun s hState =>
    hChange s.config s.calls hState

end Rules

------------------------------------------------------------
-- Output
------------------------------------------------------------

theorem isPassive_sayAll (lines : List Line) :
    IsPassive (sayAll lines) :=
  isPassive_modify (fun _ => rfl) (fun _ => rfl)

theorem isPassive_say (line : Line) : IsPassive (say line) :=
  isPassive_sayAll [line]

theorem isPassive_complain (lines : List String) :
    IsPassive (complain lines) :=
  isPassive_modify (fun _ => rfl) (fun _ => rfl)

theorem isPassive_leave (status : Nat) :
    IsPassive (leave status : Run α) :=
  isPassive_throw (.exit status)

------------------------------------------------------------
-- Questions
------------------------------------------------------------

theorem isPassive_unanswered
    (e : Exchange)
    (why : Unanswered) :
    IsPassive (unanswered e why : Run α) := by
  apply IsPassive.bind
  · exact isPassive_modify (fun _ => rfl) (fun _ => rfl)
  · intro _
    exact isPassive_throw (.unanswered why)

theorem isPassive_askText
    (name message : String)
    (fallback : Option String)
    (check : Check) :
    IsPassive (askText name message fallback check) := by
  apply isPassive_get.bind
  intro s
  apply IsPassive.bind
  · exact isPassive_modify (fun _ => rfl) (fun _ => rfl)
  · intro _
    split
    · exact isPassive_unanswered _ _
    · apply IsPassive.bind
      · exact isPassive_modify (fun _ => rfl) (fun _ => rfl)
      · intro _
        exact isPassive_pure _

theorem isPassive_askAny (question : Question) :
    IsPassive (askAny question) := by
  apply isPassive_get.bind
  intro s
  split
  · exact isPassive_unanswered _ _
  · apply IsPassive.bind
    · exact isPassive_modify (fun _ => rfl) (fun _ => rfl)
    · intro _
      exact isPassive_pure _

theorem isPassive_askDecision
    (message : String)
    (fallback : Bool) :
    IsPassive (askDecision message fallback) := by
  apply (isPassive_askAny _).bind
  intro answer
  exact isPassive_pure _

/- Answers are taken until the check accepts one. -/
theorem accepted_of_settle
    {q : Question}
    {check : Check}
    {answers : List Answer}
    {text : String}
    (hText : (q.settle check answers).result = .ok text) :
    check text = none := by
  induction answers with
  | nil => cases hText
  | cons answer rest ih =>
      unfold Question.settle at hText
      split at hText
      · cases hText
      · split at hText
        · rename_i given _ hAccepted
          cases hText
          exact hAccepted
        · exact ih hText

theorem accepted_of_gives_askText
    {name message : String}
    {fallback : Option String}
    {check : Check}
    {text : String}
    (hGives :
      Gives (askText name message fallback check) text) :
    check text = none := by
  rcases hGives with ⟨s, hText⟩
  simp only [askText, runFrom_bind, runFrom_get,
    runFrom_modify] at hText
  split at hText
  · simp [unanswered, runFrom_bind] at hText
  · rename_i given hSettled
    simp only [runFrom_bind, runFrom_modify, runFrom_pure,
      Except.ok.injEq] at hText
    subst hText
    exact accepted_of_settle hSettled

------------------------------------------------------------
-- Pages and Menus
------------------------------------------------------------

theorem isPassive_showConfig : IsPassive showConfig :=
  isPassive_config.bind fun _ => isPassive_sayAll _

theorem isPassive_showTargets : IsPassive showTargets :=
  isPassive_config.bind fun _ => isPassive_sayAll _

theorem isPassive_chooseSetting : IsPassive chooseSetting := by
  apply isPassive_config.bind
  intro config
  apply (isPassive_sayAll _).bind
  intro _
  exact isPassive_askAny _

theorem isPassive_pause : IsPassive pause :=
  (isPassive_askAny _).bind fun _ => isPassive_pure ()

theorem isPassive_rounds : IsPassive rounds :=
  isPassive_get.bind fun _ => isPassive_pure _

theorem isPassive_wantedUrl (given : Option String) :
    IsPassive (wantedUrl given) := by
  cases given with
  | some url => exact isPassive_pure url
  | none =>
      apply isPassive_config.bind
      intro config
      exact isPassive_askText _ _ _ _

------------------------------------------------------------
-- Operations
------------------------------------------------------------

section Operations

variable {σ : Type}
variable {I : σ → Prop}

/- What every statement keeps, a run of statements keeps. -/
theorem holds_runAll
    {runner : Runner σ}
    (hAnnounce :
      ∀ sql state, I state → I (runner.announce sql state))
    (hExecute :
      ∀ sql state, I state → I (runner.execute sql state).2)
    (acknowledgement : String)
    (statements : List String)
    {state : σ}
    (hState : I state) :
    I (runner.runAll acknowledgement statements state).2 := by
  induction statements generalizing state with
  | nil => exact hState
  | cons sql rest ih =>
      have hNext :=
        hExecute sql _ (hAnnounce sql state hState)
      rw [Runner.runAll]
      cases hRun :
        runner.execute sql (runner.announce sql state) with
      | mk result next =>
          rw [hRun] at hNext
          simp only
          split
          · exact hNext
          · exact ih hNext

theorem holds_dispatch
    {runner : Runner σ}
    (hAnnounce :
      ∀ sql state, I state → I (runner.announce sql state))
    (hExecute :
      ∀ sql state, I state → I (runner.execute sql state).2)
    (settings : Settings)
    (d : Sql.Dialect)
    (dryRun : Bool)
    (name : String)
    (args : Arguments)
    {state : σ}
    (hState : I state) :
    I (dispatch runner settings d dryRun name args state).2 := by
  rw [dispatch]
  split
  · exact hState
  · split
    · exact hState
    · split
      · exact hState
      · exact holds_runAll hAnnounce hExecute _ _ hState

/- A statement calls the server, once or twice. -/
theorem holds_execute
    {server : Server σ}
    (hServer : ∀ c state, I state → I (server c state).2)
    (settings : Settings)
    (sql : String)
    {state : Session × σ}
    (hState : I state.2) :
    I (Session.execute server settings sql state).2.2 := by
  have hLogin :
      I (Session.login server settings state.1
        state.2).2.2 := by
    unfold Session.login
    split
    · exact hState
    · exact hState
    · exact hServer _ _ hState
  unfold Session.execute
  split
  · rename_i hRefused
    rw [hRefused] at hLogin
    exact hLogin
  · rename_i hAccepted
    rw [hAccepted] at hLogin
    exact hServer _ _ hLogin

end Operations

end Run

end KbConsole
