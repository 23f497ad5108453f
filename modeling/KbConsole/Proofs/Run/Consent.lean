import KbConsole.Proofs.CommandLine.Reading
import KbConsole.Proofs.Dispatch.Simulation
import KbConsole.Proofs.Run.Stored

/-
  Removals and the consent of the user.

  A removal asks first, unless the command line gives the
  consent or nothing is sent. Without the consent nothing is
  called; with it the run is the one that does not ask. The
  status tells whether the operation that ran has failed.

  Key definitions include:
    * `RunState.unasked`
    * `Run.dispatched`
    * `Visit.Invokes`, `Visit.Agrees`
    * `Invocation.AsksFirst`

  The main statement is `Visit.finish_asks`.
-/

namespace KbConsole

open CommandLine

------------------------------------------------------------
-- What is not Asked
------------------------------------------------------------

/- A state without questions and answers. -/
def RunState.unasked (s : RunState) : RunState :=
  { s with
    answers := []
    exchanges := [] }

namespace Run

/- Statements have nothing to do with questions. -/
theorem simulates_runner (settings : Settings) (echo : Bool) :
    Runner.Simulates (Prod.map id RunState.unasked)
      (runner settings echo) (runner settings echo) where
  announce sql state := by
    cases echo with
    | false => rfl
    | true => rfl
  execute sql state := by
    have hServer :
        Server.Simulates RunState.unasked RunState.server
          RunState.server :=
      fun _ _ => rfl
    exact hServer.execute settings sql state

------------------------------------------------------------
-- Operations
------------------------------------------------------------

section Operations

variable (operation : Operation)
variable (args : Arguments)
variable (switches : Switches)

/- The report of an operation, and the state it ends in. -/
def dispatched (s : RunState) : Report × RunState :=
  let settings := s.config.settings
  let echo := !(switches.quiet || switches.json)
  let ended :=
    dispatch (runner settings echo) settings {}
      switches.dryRun operation.name args (none, s)
  (ended.1, ended.2.2)

theorem runFrom_perform (s : RunState) :
    runFrom (perform operation args switches) s =
      let ended := dispatched operation args switches s
      (.ok ended.1,
        ended.2.say (ended.1.lines switches.json)) :=
  rfl

/- The state after an operation; its failure shows there. -/
def executed (s : RunState) : RunState :=
  let ended := dispatched operation args switches s
  let printed := ended.2.say (ended.1.lines switches.json)
  if ended.1.outcome.isFailure then
    { printed with status := 1 }
  else
    printed

theorem runFrom_execute (s : RunState) :
    runFrom (execute operation args switches) s =
      (.ok (), executed operation args switches s) := by
  simp only [execute, runFrom_bind, runFrom_perform, executed]
  split
  · rfl
  · rfl

theorem dispatched_unasked (s : RunState) :
    dispatched operation args switches s.unasked =
      (dispatched operation args switches s).map id
        RunState.unasked := by
  have hDispatch :=
    (simulates_runner s.config.settings
      !(switches.quiet || switches.json)).dispatch
        s.config.settings {} switches.dryRun operation.name
        args (none, s)
  exact congrArg
    (fun ended => (ended.1, ended.2.2)) hDispatch

theorem executed_unasked (s : RunState) :
    executed operation args switches s.unasked =
      (executed operation args switches s).unasked := by
  simp only [executed, dispatched_unasked, Prod.map_fst,
    Prod.map_snd, id_eq]
  split
  · rfl
  · rfl

/-
  An operation keeps what its calls keep, and what the
  announcement of a statement does, if there are any.
-/
theorem holds_dispatched
    {I : RunState → Prop}
    {s : RunState}
    (hSay :
      (switches.quiet || switches.json) = false →
        ∀ lines state, I state → I (state.say lines))
    (hServer :
      ∀ c state, I state → I (RunState.server c state).2)
    (hState : I s) :
    I (dispatched operation args switches s).2 := by
  have hExecute (sql : String) (state : Session × RunState)
      (hState : I state.2) :
      I ((runner s.config.settings
        !(switches.quiet || switches.json)).execute sql
          state).2.2 :=
    holds_execute hServer s.config.settings sql hState
  apply holds_dispatch
    (I := fun state : Session × RunState => I state.2) _
      hExecute
  · exact hState
  · intro sql state hState
    simp only [runner, Bool.not_eq_true']
    split
    · rename_i hEcho
      exact hSay hEcho _ state.2 hState
    · exact hState

/- No statement changes the status. -/
theorem status_dispatched (s : RunState) :
    (dispatched operation args switches s).2.status =
      s.status :=
  holds_dispatched operation args switches
    (I := fun state => state.status = s.status)
    (fun _ _ _ hState => hState)
    (fun _ _ hState => hState) rfl

theorem calls_executed (s : RunState) :
    (executed operation args switches s).calls =
      (dispatched operation args switches s).2.calls := by
  simp only [executed]
  split
  · rfl
  · rfl

theorem status_executed
    {s : RunState}
    (hStatus : s.status = 0) :
    (executed operation args switches s).status =
      if (dispatched operation args switches
        s).1.outcome.isFailure then 1 else 0 := by
  have hNext := status_dispatched operation args switches s
  rw [hStatus] at hNext
  unfold executed
  simp only
  split
  · rfl
  · exact hNext

end Operations

/- Consent is no argument of what is removed. -/
theorem dispatched_congr
    {operation : Operation}
    (hRemoval : operation = .dropModel ∨ operation = .dropJob)
    {args consented : Arguments}
    (hArgs :
      ∀ key, key ≠ "yes" →
        Keyed.get? key consented = Keyed.get? key args)
    (switches : Switches)
    (s : RunState) :
    dispatched operation consented switches s =
      dispatched operation args switches s := by
  have hRequest (settings : Settings) :
      Request.ofArguments operation consented settings =
        Request.ofArguments operation args settings := by
    have hProject := hArgs "projectName" (by decide)
    have hModel := hArgs "modelName" (by decide)
    have hJob := hArgs "jobName" (by decide)
    rcases hRemoval with rfl | rfl
    · simp only [Request.ofArguments, Arguments.objectRef,
        Arguments.word, Arguments.word?, hProject, hModel]
    · simp only [Request.ofArguments, Arguments.objectRef,
        Arguments.word, Arguments.word?, hProject, hJob]
  unfold dispatched dispatch
  simp only [Operation.ofName?_name, prepare, hRequest]

------------------------------------------------------------
-- Removals
------------------------------------------------------------

section Removals

variable (operation : Operation)
variable (noun key : String)
variable {args : Arguments}
variable {switches : Switches}

/- A question without an answer ends the run. -/
theorem runFrom_askDecision_nil
    (message : String)
    (fallback : Bool)
    {s : RunState}
    (hAnswers : s.answers = []) :
    ∃ halt next,
      runFrom (askDecision message fallback) s =
          (.error halt, next) ∧
        next.unasked = s.unasked := by
  simp only [askDecision, askAny, unanswered, runFrom_bind,
    runFrom_get, hAnswers, runFrom_modify, runFrom_throw]
  exact ⟨_, _, rfl, rfl⟩

/- A decision is the truth of the next answer. -/
theorem runFrom_askDecision_cons
    (message : String)
    (fallback : Bool)
    {s : RunState}
    {answer : Answer}
    {rest : List Answer}
    (hAnswers : s.answers = answer :: rest) :
    ∃ next,
      runFrom (askDecision message fallback) s =
          (.ok answer.isTruthy, next) ∧
        next.unasked = s.unasked := by
  simp only [askDecision, askAny, runFrom_bind, runFrom_get,
    hAnswers, runFrom_modify, runFrom_pure]
  exact ⟨_, rfl, rfl⟩

/- With consent nothing is asked. -/
theorem runFrom_remove_of_consent
    (hConsent :
      (args.isSet "yes" || switches.dryRun) = true)
    (s : RunState) :
    runFrom (remove operation noun key args switches) s =
      (.ok (), executed operation args switches s) := by
  rw [remove, runFrom_bind, confirmed, if_pos hConsent,
    runFrom_pure, ← runFrom_execute]
  rfl

/- Without an answer nothing is done. -/
theorem runFrom_remove_nil
    (hConsent :
      (args.isSet "yes" || switches.dryRun) = false)
    {s : RunState}
    (hAnswers : s.answers = []) :
    ∃ halt next,
      runFrom (remove operation noun key args switches) s =
          (.error halt, next) ∧
        next.unasked = s.unasked := by
  rcases runFrom_askDecision_nil
      ("Drop " ++ noun ++ " '" ++ givenText args key ++ "'?")
      false hAnswers with
    ⟨halt, next, hAsked, hNext⟩
  refine ⟨halt, next, ?_, hNext⟩
  rw [remove, runFrom_bind, confirmed, hConsent,
    if_neg (by decide), hAsked]

/- The first answer decides what is done. -/
theorem runFrom_remove_cons
    (hConsent :
      (args.isSet "yes" || switches.dryRun) = false)
    {s : RunState}
    {answer : Answer}
    {rest : List Answer}
    (hAnswers : s.answers = answer :: rest) :
    ∃ next,
      next.unasked = s.unasked ∧
        runFrom (remove operation noun key args switches) s =
          (.ok (),
            if answer.isTruthy then
              executed operation args switches next
            else
              next.say [Line.info "Cancelled."]) := by
  rcases runFrom_askDecision_cons
      ("Drop " ++ noun ++ " '" ++ givenText args key ++ "'?")
      false hAnswers with
    ⟨next, hAsked, hNext⟩
  refine ⟨next, hNext, ?_⟩
  rw [remove, runFrom_bind, confirmed, hConsent,
    if_neg (by decide), hAsked]
  cases answer.isTruthy with
  | false => rfl
  | true => exact runFrom_execute operation args switches next

end Removals

end Run

------------------------------------------------------------
-- Visits
------------------------------------------------------------

/- A removal to which the command line does not consent. -/
structure CommandLine.Invocation.AsksFirst
    (i : Invocation)
    (operation : Operation) : Prop where
  removal : operation = .dropModel ∨ operation = .dropJob
  isSet_yes : i.arguments.isSet "yes" = false
  dryRun : i.switches.dryRun = false

namespace Visit

/- The arguments are read as an invocation. -/
structure Invokes (v : Visit) (i : Invocation) : Prop where
  asksForMenu :
    ∀ first ∈ v.argv.head?, Run.asksForMenu first = false
  read : console.read v.argv = .run i

/- The user's first answer is an agreement. -/
def Agrees (v : Visit) : Prop :=
  ∃ answer ∈ v.answers.head?, answer.isTruthy = true

/- Arguments that are read do not lead to the menu. -/
theorem Invokes.finish_eq
    {v : Visit}
    {i : Invocation}
    (hInvokes : v.Invokes i)
    (s : RunState) :
    Run.finish v.argv s =
      Run.close (Run.runFrom (Run.invoke i) s) := by
  rcases hInvokes with ⟨hMenu, hRead⟩
  cases hArgv : v.argv with
  | nil =>
      rw [hArgv] at hRead
      cases hRead
  | cons first rest =>
      rw [hArgv] at hRead hMenu
      have hFirst := hMenu first rfl
      rw [Run.finish, Run.start, hFirst, if_neg (by decide),
        hRead]
      rfl

section Operations

variable {v : Visit}
variable {i : Invocation}
variable {operation : Operation}

/- Only removals of models and jobs ask first. -/
theorem Invokes.isRemoval_iff
    (hInvokes : v.Invokes i)
    (hOperation : i.action.operation? = some operation) :
    i.action.isRemoval = true ↔
      operation = .dropModel ∨ operation = .dropJob := by
  rcases exists_command hInvokes.read with
    ⟨g, hGroup, c, hCommand, hAction⟩
  rw [hAction] at hOperation ⊢
  exact CommandLine.isRemoval_iff g hGroup c hCommand operation
    hOperation

/- A removal either asks first or has consent. -/
theorem Invokes.asksFirst_iff
    (hInvokes : v.Invokes i)
    {noun key : String}
    (hAction : i.action = .remove operation noun key) :
    i.AsksFirst operation ↔
      (i.arguments.isSet "yes" || i.switches.dryRun) =
        false := by
  have hRemoval :
      operation = .dropModel ∨ operation = .dropJob := by
    apply (hInvokes.isRemoval_iff _).mp
    · rw [hAction]
      rfl
    · rw [hAction]
      rfl
  rw [Bool.or_eq_false_iff]
  constructor
  · intro hAsks
    exact ⟨hAsks.isSet_yes, hAsks.dryRun⟩
  · rintro ⟨hYes, hDryRun⟩
    exact ⟨hRemoval, hYes, hDryRun⟩

/- Once there is consent, the operation is all that runs. -/
theorem Invokes.finish_of_agrees
    (hInvokes : v.Invokes i)
    (hOperation : i.action.operation? = some operation)
    (hAgrees : i.AsksFirst operation → v.Agrees)
    (file : Option StoredFile) :
    (Run.finish v.argv (v.begin file)).unasked =
      (Run.executed operation i.arguments i.switches
        (v.begin file)).unasked := by
  rw [hInvokes.finish_eq]
  cases hAction : i.action with
  | perform performed =>
      rw [hAction] at hOperation
      rcases Option.some.inj hOperation with rfl
      rw [Run.invoke, hAction, Run.runFrom_execute]
      rfl
  | remove removed noun key =>
      rw [hAction] at hOperation
      rcases Option.some.inj hOperation with rfl
      rw [Run.invoke, hAction]
      have hAsks := hInvokes.asksFirst_iff hAction
      cases hConsent :
          (i.arguments.isSet "yes" || i.switches.dryRun) with
      | true =>
          rw [Run.runFrom_remove_of_consent removed noun key
            hConsent]
          rfl
      | false =>
          rcases hAgrees (hAsks.mpr hConsent) with
            ⟨answer, hAnswer, hTruthy⟩
          have hAnswers :
              (v.begin file).answers =
                answer :: v.answers.tail :=
            List.eq_cons_of_mem_head? hAnswer
          rcases Run.runFrom_remove_cons removed noun key
              hConsent hAnswers with
            ⟨next, hNext, hRun⟩
          rw [hRun, hTruthy, if_pos rfl, Run.close,
            ← Run.executed_unasked, hNext,
            Run.executed_unasked]
  | _ =>
      rw [hAction] at hOperation
      cases hOperation

/-
  Without an agreement the run ends at the question, or it
  only says that it was cancelled.
-/
theorem Invokes.exists_finish_of_refuses
    (hInvokes : v.Invokes i)
    (hOperation : i.action.operation? = some operation)
    (hAsks : i.AsksFirst operation)
    (hRefuses : ¬ v.Agrees)
    (file : Option StoredFile) :
    ∃ next,
      next.unasked = (v.begin file).unasked ∧
        ((v.answers = [] ∧
            ∃ halt,
              Run.finish v.argv (v.begin file) =
                Run.close (.error halt, next)) ∨
          Run.finish v.argv (v.begin file) =
            next.say [Line.info "Cancelled."]) := by
  have hRemoval :=
    (hInvokes.isRemoval_iff hOperation).mpr hAsks.removal
  rw [hInvokes.finish_eq]
  cases hAction : i.action with
  | remove removed noun key =>
      rw [hAction] at hOperation
      rcases Option.some.inj hOperation with rfl
      have hConsent := (hInvokes.asksFirst_iff hAction).mp hAsks
      rw [Run.invoke, hAction]
      cases hAnswers : v.answers with
      | nil =>
          have hNone : (v.begin file).answers = [] := hAnswers
          rcases Run.runFrom_remove_nil removed noun key
              hConsent hNone with
            ⟨halt, next, hRun, hNext⟩
          exact
            ⟨next, hNext, Or.inl ⟨rfl, halt, congrArg _ hRun⟩⟩
      | cons answer rest =>
          have hSome : (v.begin file).answers = answer :: rest :=
            hAnswers
          have hFalse : answer.isTruthy = false := by
            rw [Bool.eq_false_iff]
            intro hTruthy
            apply hRefuses
            refine ⟨answer, ?_, hTruthy⟩
            rw [hAnswers]
            rfl
          rcases Run.runFrom_remove_cons removed noun key
              hConsent hSome with
            ⟨next, hNext, hRun⟩
          rw [hRun, hFalse, if_neg (by decide)]
          exact ⟨next, hNext, Or.inr rfl⟩
  | _ =>
      rw [hAction] at hRemoval
      cases hRemoval

/- Without an agreement nothing is called. -/
theorem Invokes.finish_of_refuses
    (hInvokes : v.Invokes i)
    (hOperation : i.action.operation? = some operation)
    (hAsks : i.AsksFirst operation)
    (hRefuses : ¬ v.Agrees)
    (file : Option StoredFile) :
    (Run.finish v.argv (v.begin file)).calls = [] ∧
      (v.answers ≠ [] →
        (Run.finish v.argv (v.begin file)).status = 0) := by
  rcases hInvokes.exists_finish_of_refuses hOperation hAsks
      hRefuses file with
    ⟨next, hNext, hEnd⟩
  have hCalls : next.calls = [] :=
    congrArg RunState.calls hNext
  have hStatus : next.status = 0 :=
    congrArg RunState.status hNext
  rcases hEnd with ⟨hNone, halt, hHalted⟩ | hCancelled
  · rw [hHalted]
    constructor
    · cases halt with
      | exit status => exact hCalls
      | unanswered why => exact hCalls
    · intro hSome
      exact absurd hNone hSome
  · rw [hCancelled]
    exact ⟨hCalls, fun _ => hStatus⟩

/- With consent on the command line nothing else changes. -/
theorem Invokes.finish_of_consented
    (hInvokes : v.Invokes i)
    (hOperation : i.action.operation? = some operation)
    (hAsks : i.AsksFirst operation)
    (hAgrees : v.Agrees)
    {w : Visit}
    {j : Invocation}
    (hEnvironment : w.environment = v.environment)
    (hReplies : w.replies = v.replies)
    (hOther : w.Invokes j)
    (hConsented : i.IsConsented j)
    (file : Option StoredFile) :
    (Run.finish w.argv (w.begin file)).unasked =
      (Run.finish v.argv (v.begin file)).unasked := by
  have hBegin :
      (w.begin file).unasked = (v.begin file).unasked := by
    rw [begin, begin, hEnvironment, hReplies]
    rfl
  have hAction : j.action.operation? = some operation := by
    rw [hConsented.action_eq]
    exact hOperation
  have hYes : ¬ j.AsksFirst operation := by
    intro hAsksToo
    have hUnset := hAsksToo.isSet_yes
    rw [hConsented.isSet_yes] at hUnset
    cases hUnset
  calc (Run.finish w.argv (w.begin file)).unasked
      = (Run.executed operation j.arguments j.switches
          (w.begin file)).unasked :=
        hOther.finish_of_agrees hAction
          (fun hAsksToo => absurd hAsksToo hYes) file
    _ = (Run.executed operation i.arguments i.switches
          (w.begin file)).unasked := by
        rw [hConsented.switches_eq, Run.executed,
          Run.dispatched_congr hAsks.removal hConsented.get?_eq,
          ← Run.executed]
    _ = (Run.executed operation i.arguments i.switches
          (v.begin file)).unasked := by
        rw [← Run.executed_unasked, hBegin,
          Run.executed_unasked]
    _ = (Run.finish v.argv (v.begin file)).unasked :=
        (hInvokes.finish_of_agrees hOperation
          (fun _ => hAgrees) file).symm

/- The consent at the end of the arguments is read as such. -/
theorem Invokes.exists_concat_yes
    (hInvokes : v.Invokes i)
    (hRemoval : i.action.isRemoval = true)
    (hOpen : ∀ arg ∈ v.argv, ¬ IsDashed arg) :
    ∃ j,
      Invokes { v with argv := v.argv ++ ["--yes"] } j ∧
        i.IsConsented j := by
  rcases exists_read_concat_yes hInvokes.read hRemoval
      hOpen with
    ⟨j, hRead, hConsented⟩
  refine ⟨j, ⟨?_, hRead⟩, hConsented⟩
  intro first hFirst
  have hSome : v.argv ≠ [] := by
    intro hNil
    have hRun := hInvokes.read
    rw [hNil] at hRun
    cases hRun
  apply hInvokes.asksForMenu first
  rw [← List.head?_append_of_ne_nil _ hSome]
  exact hFirst

/-
  A removal that neither the command line nor the user
  agrees to calls nothing, and if the user was asked, that
  is no failure. One that the user agrees to is the one with
  consent on the command line. Whatever operation runs, its
  calls are those of the dispatch, and the status tells
  whether its outcome is a failure.
-/
theorem finish_asks
    (hInvokes : v.Invokes i)
    (hOperation : i.action.operation? = some operation)
    (file : Option StoredFile) :
    let last := Run.finish v.argv (v.begin file)
    let ended :=
      Run.dispatched operation i.arguments i.switches
        (v.begin file)
    (i.AsksFirst operation →
      (¬ v.Agrees →
        last.calls = [] ∧
          (v.answers ≠ [] → last.status = 0)) ∧
        (v.Agrees →
          (∀ (w : Visit) j, w.environment = v.environment →
            w.replies = v.replies → w.Invokes j →
              i.IsConsented j →
                (Run.finish w.argv (w.begin file)).unasked =
                  last.unasked) ∧
            ((∀ arg ∈ v.argv, ¬ IsDashed arg) →
              (Run.finish (v.argv ++ ["--yes"])
                (v.begin file)).unasked = last.unasked))) ∧
      ((i.AsksFirst operation → v.Agrees) →
        last.calls = ended.2.calls ∧
          last.status =
            if ended.1.outcome.isFailure then 1 else 0) := by
  intro last ended
  constructor
  · intro hAsks
    constructor
    · intro hRefuses
      exact hInvokes.finish_of_refuses hOperation hAsks
        hRefuses file
    · intro hAgrees
      constructor
      · intro w j hEnvironment hReplies hOther hConsented
        exact hInvokes.finish_of_consented hOperation hAsks
          hAgrees hEnvironment hReplies hOther hConsented file
      · intro hOpen
        have hRemoval :=
          (hInvokes.isRemoval_iff hOperation).mpr hAsks.removal
        rcases hInvokes.exists_concat_yes hRemoval hOpen with
          ⟨j, hOther, hConsented⟩
        exact hInvokes.finish_of_consented hOperation hAsks
          hAgrees
          (w := { v with argv := v.argv ++ ["--yes"] })
          rfl rfl hOther hConsented file
  · intro hAgrees
    have hLast :=
      hInvokes.finish_of_agrees hOperation hAgrees file
    constructor
    · have hCalls := congrArg RunState.calls hLast
      exact hCalls.trans (Run.calls_executed _ _ _ _)
    · have hStatus := congrArg RunState.status hLast
      exact hStatus.trans (Run.status_executed _ _ _ rfl)

/-
  A model is kept when its removal is declined. When it is
  not, the server is called as if consent had been given,
  and that there is no server is the failure of the run.
-/
theorem finish_asks_model :
    let declined : Visit :=
      { argv := ["ai", "drop-model", "m"]
        answers := [.bool false] }
    let agreed : Visit :=
      { argv := ["ai", "drop-model", "m"]
        answers := [.bool true]
        replies := [.unreachable "no route"] }
    let consented : Visit :=
      { argv := ["ai", "drop-model", "-y", "m"]
        replies := [.unreachable "no route"] }
    let i : Invocation :=
      { action := .remove .dropModel "model" "modelName"
        switches := {}
        arguments := [("modelName", .text "m")] }
    let last (v : Visit) := Run.finish v.argv (v.begin none)
    declined.Invokes i ∧ agreed.Invokes i ∧
      i.AsksFirst .dropModel ∧
      (last declined).calls = [] ∧
      (last declined).status = 0 ∧
      (last consented).unasked = (last agreed).unasked ∧
      (Run.finish ["ai", "drop-model", "m", "--yes"]
          (agreed.begin none)).unasked =
        (last agreed).unasked ∧
      (last agreed).calls ≠ [] ∧
      (last agreed).status = 1 := by
  intro declined agreed consented i last
  have hDeclined : declined.Invokes i := by
    constructor
    · decide
    · decide +kernel
  have hAgreed : agreed.Invokes i := by
    constructor
    · decide
    · decide +kernel
  have hAsks : i.AsksFirst .dropModel := by
    constructor
    · decide
    · decide
    · decide
  have hRefuses : ¬ declined.Agrees := by
    rintro ⟨answer, hAnswer, hTruthy⟩
    rcases Option.some.inj hAnswer with rfl
    cases hTruthy
  have hAgrees : agreed.Agrees := ⟨.bool true, rfl, rfl⟩
  have hKept :=
    ((finish_asks hDeclined rfl none).1 hAsks).1 hRefuses
  have hSame :=
    ((finish_asks hAgreed rfl none).1 hAsks).2 hAgrees
  have hRuns :=
    (finish_asks hAgreed rfl none).2 fun _ => hAgrees
  refine ⟨hDeclined, hAgreed, hAsks, hKept.1,
    hKept.2 (by decide), ?_, ?_, ?_, ?_⟩
  · let j : Invocation :=
      { i with
        arguments :=
          [("modelName", .text "m"), ("yes", .flag true)] }
    have hConsented : consented.Invokes j := by
      constructor
      · decide
      · decide +kernel
    refine hSame.1 consented j rfl rfl hConsented ?_
    refine ⟨rfl, rfl, rfl, ?_⟩
    intro key hKey
    have hArguments :
        j.arguments = i.arguments ++ [("yes", .flag true)] :=
      rfl
    have hOther :
        Keyed.get? key [("yes", Argument.flag true)] = none :=
      if_neg (Ne.symm hKey)
    rw [hArguments, Keyed.get?_append, hOther, Option.or_none]
  · apply hSame.2
    have hPlain :
        ∀ arg ∈ agreed.argv, arg.toList.head? ≠ some '-' := by
      decide
    rintro arg hMember ⟨middle, hArg⟩
    apply hPlain arg hMember
    rw [hArg]
    rfl
  · rw [hRuns.1]
    decide +kernel
  · rw [hRuns.2]
    decide +kernel

end Operations

end Visit

end KbConsole
