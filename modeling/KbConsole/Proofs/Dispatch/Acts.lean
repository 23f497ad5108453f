import KbConsole.Dispatch
import Mathlib.Data.List.Forall2

/-
  Runs of statements, with everything that is done on the
  way.

  Key definitions include:
    * `Act`
    * `Runner.recorded`
    * `Act.IsRun`

  The main statements are `Runner.isRun_runAll`, that
  `Runner.runAll` makes such runs, and the laws of `IsRun`,
  each by induction on the run.
-/

namespace KbConsole

------------------------------------------------------------
-- Acts
------------------------------------------------------------

/- What a runner is asked to do, and what came of it. -/
inductive Act where
  | announced (sql : String)
  | executed (sql : String) (result : Except Rejection ResultSet)

namespace Act

/- The statement that an act announces. -/
def announcement? : Act → Option String
  | announced sql => some sql
  | executed _ _ => none

/- The statement that an act executes. -/
def execution? : Act → Option String
  | announced _ => none
  | executed sql _ => some sql

/- What the execution of a statement gave. -/
def result? : Act → Option (Except Rejection ResultSet)
  | announced _ => none
  | executed _ result => some result

/- The statement that an act executes, and what it gave. -/
def answer? : Act → Option (String × Except Rejection ResultSet)
  | announced _ => none
  | executed sql result => some (sql, result)

/- The statements announced, in order. -/
def announcements (acts : List Act) : List String :=
  acts.filterMap announcement?

/- The statements executed, in order. -/
def executions (acts : List Act) : List String :=
  acts.filterMap execution?

/- What the executions gave, in order. -/
def results (acts : List Act) :
    List (Except Rejection ResultSet) :=
  acts.filterMap result?

/- The statements executed, each with what it gave. -/
def answers (acts : List Act) :
    List (String × Except Rejection ResultSet) :=
  acts.filterMap answer?

/-
  The acts and steps of a run: each statement is announced,
  executed and judged, up to the first failure.
-/
inductive IsRun (acknowledgement : String) :
    List String → List Act → List Step → Prop where
  | finished : IsRun acknowledgement [] [] []
  | stopped
      {sql : String}
      {rest : List String}
      {result : Except Rejection ResultSet}
      {step : Step}
      (hStep :
        Step.judge acknowledgement rest.isEmpty sql result =
          step)
      (hFails : step.outcome.isFailure = true) :
      IsRun acknowledgement (sql :: rest)
        [announced sql, executed sql result] [step]
  | passed
      {sql : String}
      {rest : List String}
      {result : Except Rejection ResultSet}
      {step : Step}
      {acts : List Act}
      {steps : List Step}
      (hStep :
        Step.judge acknowledgement rest.isEmpty sql result =
          step)
      (hPasses : step.outcome.isFailure = false)
      (hRest : IsRun acknowledgement rest acts steps) :
      IsRun acknowledgement (sql :: rest)
        (announced sql :: executed sql result :: acts)
        (step :: steps)

------------------------------------------------------------
-- Laws of Runs
------------------------------------------------------------

namespace IsRun

variable
  {acknowledgement : String}
  {statements : List String}
  {acts : List Act}
  {steps : List Step}

/- Each statement is announced when it is executed. -/
theorem announcements_eq
    (hRun : IsRun acknowledgement statements acts steps) :
    announcements acts = executions acts := by
  induction hRun with
  | finished => rfl
  | stopped hStep hFails => rfl
  | @passed sql rest result step acts steps hStep hPasses hRest
      ih =>
      exact congrArg (sql :: ·) ih

theorem executions_prefix
    (hRun : IsRun acknowledgement statements acts steps) :
    executions acts <+: statements := by
  induction hRun with
  | finished => exact List.prefix_rfl
  | @stopped sql rest result step hStep hFails =>
      exact ⟨rest, rfl⟩
  | @passed sql rest result step acts steps hStep hPasses hRest
      ih =>
      exact (List.prefix_cons_inj sql).mpr ih

theorem executions_ne_nil
    (hRun : IsRun acknowledgement statements acts steps)
    (hStatements : statements ≠ []) :
    executions acts ≠ [] := by
  cases hRun with
  | finished => exact absurd rfl hStatements
  | stopped hStep hFails => exact List.cons_ne_nil _ _
  | passed hStep hPasses hRest => exact List.cons_ne_nil _ _

theorem length_steps
    (hRun : IsRun acknowledgement statements acts steps) :
    steps.length = (executions acts).length := by
  induction hRun with
  | finished => rfl
  | stopped hStep hFails => rfl
  | passed hStep hPasses hRest ih =>
      exact congrArg (· + 1) ih

theorem length_results
    (hRun : IsRun acknowledgement statements acts steps) :
    (results acts).length = steps.length := by
  induction hRun with
  | finished => rfl
  | stopped hStep hFails => rfl
  | passed hStep hPasses hRest ih =>
      exact congrArg (· + 1) ih

/- There is a step for each answer, and it judges it. -/
theorem forall₂_judge
    (hRun : IsRun acknowledgement statements acts steps) :
    List.Forall₂
      (fun answer step =>
        ∃ isLast,
          Step.judge acknowledgement isLast answer.1 answer.2 =
            step)
      (answers acts) steps := by
  induction hRun with
  | finished => exact .nil
  | stopped hStep hFails => exact .cons ⟨_, hStep⟩ .nil
  | passed hStep hPasses hRest ih => exact .cons ⟨_, hStep⟩ ih

/- Each step is judged by what the execution gave. -/
theorem judge_eq
    (hRun : IsRun acknowledgement statements acts steps)
    {i : Nat}
    {sql : String}
    {result : Except Rejection ResultSet}
    {step : Step}
    (hSql : statements[i]? = some sql)
    (hResult : (results acts)[i]? = some result)
    (hStep : steps[i]? = some step) :
    ∃ isLast,
      Step.judge acknowledgement isLast sql result = step := by
  induction hRun generalizing i with
  | finished => cases hStep
  | stopped hJudge hFails =>
      cases i with
      | zero =>
          cases hSql
          cases hResult
          cases hStep
          exact ⟨_, hJudge⟩
      | succ i => cases hStep
  | passed hJudge hPasses hRest ih =>
      cases i with
      | zero =>
          cases hSql
          cases hResult
          cases hStep
          exact ⟨_, hJudge⟩
      | succ i => exact ih hSql hResult hStep

/- Only the last step of a run can be a failure. -/
theorem isFailure_of_mem_dropLast
    (hRun : IsRun acknowledgement statements acts steps) :
    ∀ step ∈ steps.dropLast, step.outcome.isFailure = false := by
  induction hRun with
  | finished =>
      intro step hMember
      cases hMember
  | stopped hStep hFails =>
      intro step hMember
      cases hMember
  | @passed sql rest result step acts steps hStep hPasses hRest
      ih =>
      intro other hMember
      cases steps with
      | nil => cases hMember
      | cons next steps =>
          rw [List.dropLast_cons_cons] at hMember
          rcases List.mem_cons.mp hMember with rfl | hMember
          · exact hPasses
          · exact ih other hMember

/- A run that leaves statements out ends with a failure. -/
theorem isFailure_getLast
    (hRun : IsRun acknowledgement statements acts steps)
    (hLeft : executions acts ≠ statements) :
    ∃ step,
      steps.getLast? = some step ∧
        step.outcome.isFailure = true := by
  induction hRun with
  | finished => exact absurd rfl hLeft
  | @stopped sql rest result step hStep hFails =>
      exact ⟨step, rfl, hFails⟩
  | @passed sql rest result step acts steps hStep hPasses hRest
      ih =>
      have hLeft : executions acts ≠ rest := by
        intro hEq
        exact hLeft (congrArg (sql :: ·) hEq)
      rcases ih hLeft with ⟨last, hLast, hFails⟩
      refine ⟨last, ?_, hFails⟩
      rw [List.getLast?_cons, hLast]
      rfl

end IsRun

end Act

------------------------------------------------------------
-- Recording
------------------------------------------------------------

namespace Runner

variable {σ : Type}

/- A runner that keeps a record of its acts. -/
def recorded (runner : Runner σ) : Runner (σ × List Act) where
  announce sql state :=
    (runner.announce sql state.1,
      state.2 ++ [.announced sql])
  execute sql state :=
    let (result, next) := runner.execute sql state.1
    (result, next, state.2 ++ [.executed sql result])

section Steps

variable
  {runner : Runner σ}
  {acknowledgement sql : String}
  {rest : List String}
  {state next : σ}
  {result : Except Rejection ResultSet}
  (hExecute :
    runner.execute sql (runner.announce sql state) =
      (result, next))

include hExecute

/- A statement that fails is the last one. -/
theorem runAll_cons_of_fails
    (hFails :
      (Step.judge acknowledgement rest.isEmpty sql
        result).outcome.isFailure = true) :
    runner.runAll acknowledgement (sql :: rest) state =
      ([Step.judge acknowledgement rest.isEmpty sql result],
        next) := by
  simp only [runAll, hExecute, hFails, if_true]

/- The others follow a statement that does not fail. -/
theorem runAll_cons_of_passes
    (hPasses :
      (Step.judge acknowledgement rest.isEmpty sql
        result).outcome.isFailure = false) :
    runner.runAll acknowledgement (sql :: rest) state =
      (Step.judge acknowledgement rest.isEmpty sql result ::
          (runner.runAll acknowledgement rest next).1,
        (runner.runAll acknowledgement rest next).2) := by
  simp only [runAll, hExecute, hPasses, Bool.false_eq_true,
    if_false]

/- A recorded statement gives the same, and two acts. -/
theorem execute_recorded (before : List Act) :
    runner.recorded.execute sql
        (runner.recorded.announce sql (state, before)) =
      (result, next,
        before ++
          [.announced sql, .executed sql result]) := by
  simp only [recorded, hExecute, List.append_assoc,
    List.cons_append, List.nil_append]

end Steps

/- Execute statements one after another, whatever they give. -/
def executeAll (runner : Runner σ) :
    List String → σ →
      List (Except Rejection ResultSet) × σ
  | [], state => ([], state)
  | sql :: rest, state =>
      let (result, state) :=
        runner.execute sql (runner.announce sql state)
      let (results, state) := runner.executeAll rest state
      (result :: results, state)

/-
  Recording changes no step of a run. What it records are
  the acts of that run, which executes some statements and
  does nothing else.
-/
theorem isRun_runAll
    (runner : Runner σ)
    (acknowledgement : String)
    (statements : List String)
    (state : σ)
    (before : List Act) :
    ∃ acts,
      Act.IsRun acknowledgement statements acts
          (runner.runAll acknowledgement statements state).1 ∧
        runner.recorded.runAll acknowledgement statements
            (state, before) =
          ((runner.runAll acknowledgement statements state).1,
            (runner.runAll acknowledgement statements state).2,
            before ++ acts) ∧
        runner.executeAll (Act.executions acts) state =
          (Act.results acts,
            (runner.runAll acknowledgement statements
              state).2) := by
  induction statements generalizing state before with
  | nil =>
      exact ⟨[], .finished, by simp [runAll], rfl⟩
  | cons sql rest ih =>
      rcases hExecute :
        runner.execute sql (runner.announce sql state) with
        ⟨result, next⟩
      have hRecorded := execute_recorded hExecute before
      cases hFails :
        (Step.judge acknowledgement rest.isEmpty sql
          result).outcome.isFailure with
      | true =>
          rw [runAll_cons_of_fails hExecute hFails,
            runAll_cons_of_fails hRecorded hFails]
          refine
            ⟨[.announced sql, .executed sql result],
              .stopped rfl hFails, rfl, ?_⟩
          show runner.executeAll [sql] state = ([result], next)
          simp only [executeAll, hExecute]
      | false =>
          rcases ih next
            (before ++ [.announced sql, .executed sql result])
            with ⟨acts, hRun, hRest, hExecuted⟩
          rw [runAll_cons_of_passes hExecute hFails,
            runAll_cons_of_passes hRecorded hFails, hRest]
          refine
            ⟨.announced sql :: .executed sql result :: acts,
              .passed rfl hFails hRun, ?_, ?_⟩
          · rw [List.append_assoc]
            rfl
          · show runner.executeAll
                (sql :: Act.executions acts) state =
              (result :: Act.results acts, _)
            simp only [executeAll, hExecute, hExecuted]

end Runner

end KbConsole
