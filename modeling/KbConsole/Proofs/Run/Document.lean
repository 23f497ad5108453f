import KbConsole.Proofs.Run.Consent
import KbConsole.Proofs.Terminal.Document

/-
  Runs whose output is a JSON document.

  An operation that is to give a document prints this one
  line, and no statement is announced before it. The rows of
  its report have their cells in order, since they were put
  into them one after another.

  Key definitions include:
    * `Report.HasExactCells`
    * `Report.IsOutput`

  The main statement is `Report.json_faithful`.
-/

namespace KbConsole

open CommandLine

------------------------------------------------------------
-- Ordered Rows
------------------------------------------------------------

namespace Row

theorem isOrdered_fill
    {row : Row}
    (hOrdered : row.cells.IsOrdered)
    (cells : List (String × Cell)) :
    (row.fill cells).cells.IsOrdered := by
  induction cells generalizing row with
  | nil => exact hOrdered
  | cons cell rest ih =>
      rw [fill]
      split
      · exact ih hOrdered
      · exact ih (hOrdered.put cell.1 cell.2)

end Row

/- Whatever the server answers, its rows are ordered. -/
theorem Response.isOrdered_resultSet
    {body : Json}
    {result : ResultSet}
    (hResult : resultSet body = .ok result) :
    ∀ row ∈ result.rows, row.cells.IsOrdered := by
  unfold resultSet at hResult
  split at hResult
  · cases hResult
  · rename_i names _ _
    cases hColumns : columnLabels names with
    | error rejection =>
        rw [hColumns] at hResult
        cases hResult
    | ok columns =>
        rw [hColumns] at hResult
        rcases Except.ok.inj hResult with rfl
        intro row hRow
        rcases List.mem_map.mp hRow with ⟨item, -, rfl⟩
        exact Row.isOrdered_fill Keyed.isOrdered_nil _
  · rcases Except.ok.inj hResult with rfl
    exact List.forall_mem_nil _

theorem Session.isOrdered_execute
    {σ : Type}
    {server : Server σ}
    {settings : Settings}
    {sql : String}
    {state : Session × σ}
    {result : ResultSet}
    (hResult :
      (execute server settings sql state).1 = .ok result) :
    ∀ row ∈ result.rows, row.cells.IsOrdered := by
  unfold execute at hResult
  split at hResult
  · cases hResult
  · simp only [queryResult] at hResult
    split at hResult
    · cases hResult
    · cases hResult
    · exact Response.isOrdered_resultSet hResult

------------------------------------------------------------
-- Reported Rows
------------------------------------------------------------

section Reported

variable {P : Row → Prop}

/- The rows of a step are those of the answer. -/
theorem Step.found_judge
    {acknowledgement sql : String}
    {isLast : Bool}
    {result : Except Rejection ResultSet}
    (hResult :
      ∀ answer, result = .ok answer → ∀ row ∈ answer.rows, P row) :
    ∀ row ∈ (judge acknowledgement isLast sql
      result).outcome.found, P row := by
  have hNone
      (created : Option CreatedObject)
      (rejection : Rejection) :
      (ofRejection created rejection).outcome.found = [] := by
    have hFailure :
        (Outcome.ofRejection rejection).found = [] := by
      cases rejection <;> rfl
    unfold ofRejection
    split
    · exact hFailure
    · split
      · rfl
      · exact hFailure
  unfold judge
  cases result with
  | error rejection =>
      simp only [hNone]
      exact List.forall_mem_nil _
  | ok answer =>
      simp only
      split
      · rw [hNone]
        exact List.forall_mem_nil _
      · unfold Outcome.ofResult
        split
        · exact List.forall_mem_nil _
        · exact hResult answer rfl

variable {σ : Type}
variable {runner : Runner σ}

theorem Runner.found_runAll
    (hExecute :
      ∀ sql state answer,
        (runner.execute sql state).1 = .ok answer →
          ∀ row ∈ answer.rows, P row)
    (acknowledgement : String)
    (statements : List String)
    (state : σ) :
    ∀ step ∈
        (runner.runAll acknowledgement statements state).1,
      ∀ row ∈ step.outcome.found, P row := by
  induction statements generalizing state with
  | nil => exact List.forall_mem_nil _
  | cons sql rest ih =>
      rw [runAll]
      cases hRun :
        runner.execute sql (runner.announce sql state) with
      | mk result next =>
          have hFirst :
              ∀ row ∈ (Step.judge acknowledgement rest.isEmpty
                sql result).outcome.found, P row := by
            apply Step.found_judge
            intro answer hAnswer
            apply hExecute sql (runner.announce sql state)
            rw [hRun]
            exact hAnswer
          simp only
          split
          · rw [List.forall_mem_singleton]
            exact hFirst
          · rw [List.forall_mem_cons]
            exact ⟨hFirst, ih next⟩

/- A report has no rows but those of an answer. -/
theorem found_dispatch
    (hExecute :
      ∀ sql state answer,
        (runner.execute sql state).1 = .ok answer →
          ∀ row ∈ answer.rows, P row)
    (settings : Settings)
    (d : Sql.Dialect)
    (dryRun : Bool)
    (name : String)
    (args : Arguments)
    (state : σ) :
    ∀ row ∈ (dispatch runner settings d dryRun name args
      state).1.outcome.found, P row := by
  unfold dispatch
  split
  · exact List.forall_mem_nil _
  · split
    · exact List.forall_mem_nil _
    · rename_i request statements _
      split
      · exact List.forall_mem_nil _
      · have hSteps :=
          Runner.found_runAll hExecute request.acknowledgement
            statements state
        simp only [Report.ofSteps]
        intro row hRow
        cases hLast :
            ((runner.runAll request.acknowledgement statements
              state).1.map Step.outcome).getLast? with
        | none =>
            rw [hLast] at hRow
            cases hRow
        | some outcome =>
            rw [hLast] at hRow
            rcases List.mem_map.mp
                (List.mem_of_getLast? hLast) with
              ⟨step, hStep, rfl⟩
            exact hSteps step hStep row hRow

end Reported

------------------------------------------------------------
-- Output
------------------------------------------------------------

/- The cells of all rows of the report are exact. -/
def Report.HasExactCells (report : Report) : Prop :=
  ∀ row ∈ report.outcome.found,
    ∀ entry ∈ row.cells, Cell.IsExact entry.2

/-
  Between two states of a run one line is printed, and
  nothing is complained about. The line is the document of
  the report, which can be read back from exact cells.
-/
structure Report.IsOutput
    (before after : RunState)
    (report : Report) : Prop where
  lines :
    after.lines =
      before.lines ++ [Line.plain report.document.printIndented]
  complaints : after.complaints = before.complaints
  printed :
    report.HasExactCells →
      report.IsPrintedBy
        [Line.plain report.document.printIndented]

namespace Run

section Operations

variable (operation : Operation)
variable (args : Arguments)
variable {switches : Switches}

/- Each row of a run's report has its cells in order. -/
theorem isOrdered_dispatched (s : RunState) :
    ∀ row ∈
        (dispatched operation args switches
          s).1.outcome.found,
      row.cells.IsOrdered := by
  have hExecute (sql : String) (state : Session × RunState)
      (answer : ResultSet)
      (hAnswer :
        ((runner s.config.settings
          !(switches.quiet || switches.json)).execute sql
            state).1 = .ok answer) :
      ∀ row ∈ answer.rows, row.cells.IsOrdered :=
    Session.isOrdered_execute hAnswer
  exact
    found_dispatch hExecute s.config.settings {}
      switches.dryRun operation.name args (none, s)

theorem isPrintedBy_dispatched
    {s : RunState}
    (hCells :
      (dispatched operation args switches
        s).1.HasExactCells) :
    (dispatched operation args switches s).1.IsPrintedBy
      ((dispatched operation args switches s).1.lines true) := by
  apply Report.isPrintedBy_lines
  intro row hRow
  exact
    ⟨isOrdered_dispatched operation args s row hRow,
      hCells row hRow⟩

/- No statement is announced before a document. -/
theorem output_dispatched
    (hJson : switches.json = true)
    (s : RunState) :
    (dispatched operation args switches s).2.lines = s.lines ∧
      (dispatched operation args switches s).2.complaints =
        s.complaints := by
  apply holds_dispatched operation args switches
    (I := fun state =>
      state.lines = s.lines ∧ state.complaints = s.complaints)
  · intro hEcho
    rw [hJson, Bool.or_true] at hEcho
    cases hEcho
  · intro c state hState
    exact hState
  · exact ⟨rfl, rfl⟩

/- An operation that is carried out prints its document. -/
theorem isOutput_perform
    (hJson : switches.json = true)
    (s : RunState) :
    ∃ next,
      runFrom (perform operation args switches) s =
          (.ok (dispatched operation args switches s).1, next) ∧
        (dispatched operation args switches s).1.IsOutput s
          next := by
  refine ⟨_, runFrom_perform operation args switches s, ?_⟩
  have hOutput := output_dispatched operation args hJson s
  constructor
  · simp only [RunState.say, hOutput.1, hJson]
    rfl
  · exact hOutput.2
  · exact isPrintedBy_dispatched operation args

theorem isOutput_executed
    (hJson : switches.json = true)
    (s : RunState) :
    (dispatched operation args switches s).1.IsOutput s
      (executed operation args switches s) := by
  rcases isOutput_perform operation args hJson s with
    ⟨next, hRun, hOutput⟩
  rw [runFrom_perform, Prod.mk.injEq] at hRun
  rw [← hRun.2] at hOutput
  unfold executed
  simp only
  split
  · exact ⟨hOutput.lines, hOutput.complaints, hOutput.printed⟩
  · exact hOutput

end Operations

end Run

------------------------------------------------------------
-- Visits
------------------------------------------------------------

theorem Report.IsOutput.congr
    {report : Report}
    {before after other : RunState}
    (hOutput : report.IsOutput before after)
    (hSame : other.unasked = after.unasked) :
    report.IsOutput before other := by
  have hLines := congrArg RunState.lines hSame
  have hComplaints := congrArg RunState.complaints hSame
  exact
    ⟨hLines.trans hOutput.lines,
      hComplaints.trans hOutput.complaints, hOutput.printed⟩

/-
  A report with exact rows is one line of text, from which
  its document is read back. An operation that is to give a
  document prints this line and nothing else, and so does a
  command line that runs the operation: all it may say
  instead is that a removal was cancelled.
-/
theorem Report.json_faithful :
    (∀ report : Report, report.IsExact →
      report.IsPrintedBy (report.lines true)) ∧
    (∀ operation args (switches : Switches) s,
      switches.json = true →
        ∃ report next,
          Run.runFrom (Run.perform operation args switches) s =
              (.ok report, next) ∧
            report.IsOutput s next) ∧
    ∀ (v : Visit) i operation file, v.Invokes i →
      i.action.operation? = some operation →
        i.switches.json = true →
          let before := v.begin file
          let last := Run.finish v.argv before
          let report :=
            (Run.dispatched operation i.arguments i.switches
              before).1
          ((i.AsksFirst operation → v.Agrees) →
              report.IsOutput before last) ∧
            (i.AsksFirst operation → ¬ v.Agrees →
              last.lines = [] ∨
                last.lines = [Line.info "Cancelled."]) := by
  refine ⟨fun report => Report.isPrintedBy_lines, ?_, ?_⟩
  · intro operation args switches s hJson
    exact
      ⟨_, Run.isOutput_perform operation args hJson s⟩
  · intro v i operation file hInvokes hOperation hJson
    constructor
    · intro hAgrees
      exact
        (Run.isOutput_executed operation i.arguments hJson
          (v.begin file)).congr
            (hInvokes.finish_of_agrees hOperation hAgrees file)
    · intro hAsks hRefuses
      rcases hInvokes.exists_finish_of_refuses hOperation hAsks
          hRefuses file with
        ⟨next, hNext, hEnd⟩
      have hLines : next.lines = [] :=
        congrArg RunState.lines hNext
      rcases hEnd with ⟨-, halt, hHalted⟩ | hCancelled
      · left
        rw [hHalted]
        cases halt with
        | exit status => exact hLines
        | unanswered why => exact hLines
      · right
        rw [hCancelled]
        simp only [RunState.say, hLines, List.nil_append]

/-
  A column that is numbered comes first in the document, as
  in the row, and a line break is read back. So are a
  warning, and the quotes in the message of a failure.
-/
theorem Report.json_faithful_documents :
    let shows (v : Visit) (value : Json) : Prop :=
      let last := Run.finish v.argv (v.begin none)
      ∃ text,
        last.lines = [Line.plain text] ∧
          last.complaints = [] ∧
          Json.parse? text = some value
    let databases : Visit :=
      { argv := ["--json", "kb", "list-databases"]
        replies :=
          [.answer 200
            (.ok (.object
              [("type", .text "table"),
                ("column_names", .array [.text "b", .text "1"]),
                ("data",
                  .array [.array [.text "x\n", .ofNat 7]])]))
            none] }
    let model : Visit :=
      { argv :=
          ["--json", "ai", "create-model", "m",
            "--select-data-query", "SELECT 1",
            "--predict-column", "y"]
        replies :=
          [.answer 200
            (.ok (.object
              [("type", .text "error"),
                ("error_message", .text "it said \"no\""),
                ("error_code", .ofNat 7)]))
            none] }
    shows databases
        (.object
          [("sql", .array [.text "SHOW DATABASES;"]),
            ("outcome",
              .object
                [("type", .text "rows"),
                  ("columns", .array [.text "b", .text "1"]),
                  ("rows",
                    .array
                      [.object
                        [("1", .ofNat 7),
                          ("b", .text "x\n")]])]),
            ("warnings", .array [])]) ∧
      shows model
        (.object
          [("sql",
              .array
                [.text
                  ("CREATE MODEL m FROM (SELECT 1) " ++
                    "PREDICT y USING engine = 'openai';")]),
            ("outcome",
              .object
                [("type", .text "failure"),
                  ("kind", .text "RemoteFailure"),
                  ("message",
                    .text
                      ("remote error: it said \"no\" " ++
                        "(code 7)"))]),
            ("warnings",
              .array
                [.text
                  ("Engine 'openai' usually needs an API " ++
                    "key: pass --param api_key=<key>.")])]) := by
  intro shows databases model
  have hShows
      (v : Visit)
      (i : Invocation)
      (operation : Operation)
      (hInvokes : v.Invokes i)
      (hOperation : i.action.operation? = some operation)
      (hJson : i.switches.json = true)
      (hConsent : ¬ i.AsksFirst operation)
      (hCells :
        (Run.dispatched operation i.arguments i.switches
          (v.begin none)).1.HasExactCells) :
      shows v
        (Run.dispatched operation i.arguments i.switches
          (v.begin none)).1.document := by
    have hOutput :=
      (json_faithful.2.2 v i operation none hInvokes hOperation
        hJson).1 fun hAsks => absurd hAsks hConsent
    rcases hOutput.printed hCells with
      ⟨text, hLine, -, hParsed, -⟩
    refine ⟨text, ?_, hOutput.complaints, hParsed⟩
    rw [← hLine]
    exact hOutput.lines
  constructor
  · let i : Invocation :=
      { action := .perform .listDatabases
        switches := { json := true }
        arguments := [] }
    have hInvokes : databases.Invokes i := by
      constructor
      · decide
      · decide +kernel
    have hConsent : ¬ i.AsksFirst .listDatabases := by
      intro hAsks
      rcases hAsks.removal with hModel | hJob
      · cases hModel
      · cases hJob
    have hOutcome :
        (Run.dispatched .listDatabases i.arguments i.switches
          (databases.begin none)).1.outcome =
            .rows ["b", "1"]
              [{ cells :=
                   [("1", some (.number (.integer 7))),
                     ("b", some (.text "x\n"))] }] := by
      decide +kernel
    have hCells :
        (Run.dispatched .listDatabases i.arguments i.switches
          (databases.begin none)).1.HasExactCells := by
      unfold HasExactCells
      rw [hOutcome, Outcome.found, List.forall_mem_singleton,
        List.forall_mem_cons, List.forall_mem_singleton]
      exact ⟨⟨7, rfl, by decide⟩, trivial⟩
    have hShown :=
      hShows databases i .listDatabases hInvokes rfl rfl
        hConsent hCells
    rw [document, hOutcome] at hShown
    exact hShown
  · let i : Invocation :=
      { action := .perform .createModel
        switches := { json := true }
        arguments :=
          [("modelName", .text "m"),
            ("selectDataQuery", .text "SELECT 1"),
            ("predictColumn", .text "y"),
            ("param", .texts [])] }
    have hInvokes : model.Invokes i := by
      constructor
      · decide
      · decide +kernel
    have hConsent : ¬ i.AsksFirst .createModel := by
      intro hAsks
      rcases hAsks.removal with hModel | hJob
      · cases hModel
      · cases hJob
    let report :=
      (Run.dispatched .createModel i.arguments i.switches
        (model.begin none)).1
    have hReport :
        report.statements =
            ["CREATE MODEL m FROM (SELECT 1) " ++
              "PREDICT y USING engine = 'openai';"] ∧
          report.outcome =
            .failure .remoteFailure
              ("remote error: it said \"no\" " ++
                "(code 7)") ∧
          report.warnings =
            ["Engine 'openai' usually needs an API " ++
              "key: pass --param api_key=<key>."] := by
      decide +kernel
    have hCells : report.HasExactCells := by
      unfold HasExactCells
      rw [hReport.2.1]
      exact List.forall_mem_nil _
    have hShown :=
      hShows model i .createModel hInvokes rfl rfl hConsent
        hCells
    rw [document, hReport.1, hReport.2.1, hReport.2.2]
      at hShown
    exact hShown

end KbConsole
