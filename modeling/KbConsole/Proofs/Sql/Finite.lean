import KbConsole.Proofs.Arguments
import KbConsole.Request.OfArguments
import KbConsole.Sql.Compile

/-
  Numbers that are not finite.

  Some of the numbers of a request are checked when it is
  compiled: limits, the operands of filters, and parameters
  that are numbers themselves. The counts of schedules and
  of generated rows are not, and neither are the numbers
  inside a parameter. What is not checked has no influence
  on what is refused.

  Key definitions include:
    * `Request.checkedNumbers`, `Request.uncheckedNumbers`
    * `Request.withFinite`
    * `Guards`

  The main statement is `Request.compile_guards`. That an
  unchecked number may reach a statement is
  `Request.not_refused_of_unfit`.
-/

namespace KbConsole

open Sql

------------------------------------------------------------
-- Numbers of a Value
------------------------------------------------------------

/- A number, or one in place of a number without a numeral. -/
def Number.withFinite (n : Number) : Number :=
  if n.isFinite then n else .integer 1

namespace Scalar

/- The number that a scalar is, if it is one. -/
def numbers : Scalar → List Number
  | number n => [n]
  | _ => []

/- A scalar with a finite number. -/
def withFinite : Scalar → Scalar
  | number n => number n.withFinite
  | value => value

end Scalar

namespace Restriction

/- The numbers that a restriction compares with. -/
def numbers : Restriction → List Number
  | equals value => value.numbers
  | compares operators =>
      operators.flatMap fun entry => entry.2.numbers

/- A restriction with finite numbers. -/
def withFinite : Restriction → Restriction
  | equals value => equals value.withFinite
  | compares operators =>
      compares
        (operators.map fun entry =>
          (entry.1, entry.2.withFinite))

end Restriction

namespace Json

/- The numbers in a value, at any depth. -/
mutual

def numbers : Json → List Number
  | number n => [n]
  | array items => itemNumbers items
  | object members => memberNumbers members
  | _ => []

def itemNumbers : List Json → List Number
  | [] => []
  | item :: items => numbers item ++ itemNumbers items

def memberNumbers : List (String × Json) → List Number
  | [] => []
  | (_, value) :: members =>
      numbers value ++ memberNumbers members

end

/- A value with finite numbers, at any depth. -/
mutual

def withFinite : Json → Json
  | number n => number n.withFinite
  | array items => array (itemsWithFinite items)
  | object members => object (membersWithFinite members)
  | value => value

def itemsWithFinite : List Json → List Json
  | [] => []
  | item :: items =>
      withFinite item :: itemsWithFinite items

def membersWithFinite :
    List (String × Json) → List (String × Json)
  | [] => []
  | (key, value) :: members =>
      (key, withFinite value) :: membersWithFinite members

end

/- The number that a value is, if it is one. -/
def ownNumbers : Json → List Number
  | number n => [n]
  | _ => []

/- The numbers inside an array or an object. -/
def innerNumbers : Json → List Number
  | number _ => []
  | value => value.numbers

end Json

------------------------------------------------------------
-- Numbers of a Request
------------------------------------------------------------

/- A schedule with a finite count. -/
def Schedule.withFinite (schedule : Schedule) : Schedule :=
  { schedule with
    count := schedule.count.map Number.withFinite }

/- An ingestion with a finite limit. -/
def Ingestion.withFinite (spec : Ingestion) : Ingestion :=
  { spec with limit := spec.limit.withFinite }

/- Generated test data with a finite count. -/
def Generation.withFinite (g : Generation) : Generation :=
  { g with count := g.count.withFinite }

namespace Request

/- The numbers that are checked when a request is compiled. -/
def checkedNumbers : Request → List Number
  | ingest spec => [spec.limit]
  | query spec =>
      (spec.filter.flatMap fun entry => entry.2.numbers) ++
        [spec.limit]
  | createAgent spec =>
      spec.params.flatMap fun param => param.2.ownNumbers
  | createIngestJob spec => [spec.ingestion.limit]
  | jobLogs _ limit => [limit]
  | _ => []

/- The numbers that are written without a check. -/
def uncheckedNumbers : Request → List Number
  | createAgent spec =>
      spec.params.flatMap fun param => param.2.innerNumbers
  | evaluate spec => spec.generation.toList.map Generation.count
  | createJob spec =>
      (spec.schedule.bind Schedule.count).toList
  | createIngestJob spec => spec.schedule.count.toList
  | _ => []

/- Every number of a request. -/
def numbers (request : Request) : List Number :=
  request.checkedNumbers ++ request.uncheckedNumbers

/- A request with a finite number in place of each other. -/
def withFinite : Request → Request
  | ingest spec => ingest spec.withFinite
  | query spec =>
      query
        { spec with
          filter :=
            spec.filter.map fun entry =>
              (entry.1, entry.2.withFinite)
          limit := spec.limit.withFinite }
  | createAgent spec =>
      createAgent
        { spec with
          params :=
            spec.params.map fun param =>
              (param.1, param.2.withFinite) }
  | evaluate spec =>
      evaluate
        { spec with
          generation :=
            spec.generation.map Generation.withFinite }
  | createJob spec =>
      createJob
        { spec with
          schedule := spec.schedule.map Schedule.withFinite }
  | createIngestJob spec =>
      createIngestJob
        { spec with
          ingestion := spec.ingestion.withFinite
          schedule := spec.schedule.withFinite }
  | jobLogs ref limit => jobLogs ref limit.withFinite
  | request => request

end Request

------------------------------------------------------------
-- Guards
------------------------------------------------------------

/-
  A computation guards numbers, compared with one that has
  finite numbers in their place. Both pass, and all of the
  numbers are finite; or both fail for the same problem; or
  the first stops at one of the numbers.
-/
inductive Guards
    {α β : Type}
    (numbers : List Number) :
    Except Problem α → Except Problem β → Prop where
  | passes
      (hFinite : ∀ n ∈ numbers, n.isFinite = true)
      (value : α)
      (other : β) :
      Guards numbers (.ok value) (.ok other)
  | fails (problem : Problem) :
      Guards numbers (.error problem) (.error problem)
  | stops
      {n : Number}
      (hMember : n ∈ numbers)
      (hUnfit : n.isFinite = false)
      (other : Except Problem β) :
      Guards numbers (.error (.notFinite n)) other

namespace Guards

variable {α β γ δ : Type}
variable {numbers later : List Number}

/- A computation without numbers guards none. -/
theorem same (result : Except Problem α) :
    Guards [] result result := by
  cases result with
  | error problem => exact .fails problem
  | ok value => exact .passes (List.forall_mem_nil _) value value

/- Numbers that were found finite may be added. -/
theorem prepend
    {result : Except Problem α}
    {other : Except Problem β}
    (hFinite : ∀ n ∈ numbers, n.isFinite = true)
    (hGuards : Guards later result other) :
    Guards (numbers ++ later) result other := by
  cases hGuards with
  | fails problem => exact .fails problem
  | stops hMember hUnfit other =>
      exact .stops (List.mem_append_right _ hMember) hUnfit _
  | passes hLater value otherValue =>
      apply Guards.passes
      intro n hMember
      rcases List.mem_append.mp hMember with hHere | hThere
      · exact hFinite n hHere
      · exact hLater n hThere

theorem bind
    {first : Except Problem α}
    {other : Except Problem β}
    {second : α → Except Problem γ}
    {otherSecond : β → Except Problem δ}
    (hFirst : Guards numbers first other)
    (hSecond :
      ∀ value otherValue,
        Guards later (second value)
          (otherSecond otherValue)) :
    Guards (numbers ++ later) (first >>= second)
      (other >>= otherSecond) := by
  cases hFirst with
  | fails problem => exact .fails problem
  | stops hMember hUnfit other =>
      exact .stops (List.mem_append_left _ hMember) hUnfit _
  | passes hFinite value otherValue =>
      exact (hSecond value otherValue).prepend hFinite

/- A first step without numbers is shared. -/
theorem after
    {second : α → Except Problem γ}
    {otherSecond : α → Except Problem δ}
    (first : Except Problem α)
    (hSecond :
      ∀ value,
        Guards later (second value) (otherSecond value)) :
    Guards later (first >>= second)
      (first >>= otherSecond) := by
  cases first with
  | error problem => exact .fails problem
  | ok value => exact hSecond value

/- A last step that only returns has no numbers. -/
theorem bind_pure
    {first : Except Problem α}
    {other : Except Problem β}
    (hFirst : Guards numbers first other)
    (f : α → γ)
    (g : β → δ) :
    Guards numbers
      (first >>= fun value => pure (f value))
      (other >>= fun value => pure (g value)) := by
  cases hFirst with
  | fails problem => exact .fails problem
  | stops hMember hUnfit other => exact .stops hMember hUnfit _
  | passes hFinite value otherValue =>
      exact .passes hFinite (f value) (g otherValue)

theorem mapM
    {f : α → Except Problem γ}
    {g : β → Except Problem δ}
    {change : α → β}
    {numbersOf : α → List Number}
    (hEach :
      ∀ input,
        Guards (numbersOf input) (f input)
          (g (change input)))
    (inputs : List α) :
    Guards (inputs.flatMap numbersOf) (inputs.mapM f)
      ((inputs.map change).mapM g) := by
  induction inputs with
  | nil => exact .passes (List.forall_mem_nil _) [] []
  | cons input inputs ih =>
      rw [List.flatMap_cons, List.map_cons, List.mapM_cons,
        List.mapM_cons]
      apply (hEach input).bind
      intro value otherValue
      exact ih.bind_pure _ _

end Guards

namespace Sql

variable {d : Dialect}

------------------------------------------------------------
-- Checks
------------------------------------------------------------

/- A check of one number guards this number. -/
theorem guards_of_check
    {α : Type}
    (build : Number → α)
    (n : Number) :
    Guards [n]
      (if n.isFinite then .ok (build n)
        else .error (.notFinite n))
      (if n.withFinite.isFinite then .ok (build n.withFinite)
        else .error (.notFinite n.withFinite)) := by
  by_cases hFinite : n.isFinite = true
  · have hSame : n.withFinite = n := if_pos hFinite
    rw [hSame, if_pos hFinite]
    apply Guards.passes
    intro m hMember
    rw [List.mem_singleton.mp hMember]
    exact hFinite
  · rw [if_neg hFinite]
    apply Guards.stops List.mem_cons_self
    simpa using hFinite

theorem guards_finite (n : Number) :
    Guards [n] (finite n) (finite n.withFinite) :=
  guards_of_check id n

theorem guards_ofNumber (n : Number) :
    Guards [n] (Literal.ofNumber n)
      (Literal.ofNumber n.withFinite) :=
  guards_of_check Literal.number n

theorem guards_ofScalar (value : Scalar) :
    Guards value.numbers (Literal.ofScalar value)
      (Literal.ofScalar value.withFinite) := by
  cases value with
  | number n => exact guards_ofNumber n
  | text s => exact Guards.same _
  | bool b => exact Guards.same _

/- Only a parameter that is a number is checked. -/
theorem guards_ofJson (value : Json) :
    Guards value.ownNumbers (Literal.ofJson value)
      (Literal.ofJson value.withFinite) := by
  have hNone : ∀ n ∈ ([] : List Number), n.isFinite = true :=
    List.forall_mem_nil _
  cases value with
  | number n => exact guards_ofNumber n
  | array items => exact .passes hNone _ _
  | object members => exact .passes hNone _ _
  | null | bool b | text s => exact .passes hNone _ _

------------------------------------------------------------
-- Filters
------------------------------------------------------------

/- A restriction with a comparison has one number at most. -/
theorem guards_restriction
    {α β : Type}
    (key : String)
    (restriction : Restriction)
    (build : Comparison → Literal → α)
    (otherBuild : Comparison → Literal → β) :
    Guards restriction.numbers
      (do
        let (comparison, operand) ← comparisonOf key restriction
        let value ← Literal.ofScalar operand
        return build comparison value)
      (do
        let (comparison, operand) ←
          comparisonOf key restriction.withFinite
        let value ← Literal.ofScalar operand
        return otherBuild comparison value) := by
  cases restriction with
  | equals value => exact (guards_ofScalar value).bind_pure _ _
  | compares operators =>
      match operators with
      | [] => exact .fails _
      | [(operator, operand)] =>
          simp only [Restriction.numbers, Restriction.withFinite,
            List.flatMap_cons, List.flatMap_nil,
            List.append_nil, List.map_cons, List.map_nil,
            comparisonOf]
          cases Comparison.ofOperator? operator with
          | none => exact .fails _
          | some comparison =>
              exact (guards_ofScalar operand).bind_pure _ _
      | first :: second :: rest =>
          simp only [Restriction.withFinite, List.map_cons,
            comparisonOf, List.length_cons, List.length_map]
          exact .fails _

theorem guards_conditionOf (entry : String × Restriction) :
    Guards entry.2.numbers (conditionOf d entry)
      (conditionOf d (entry.1, entry.2.withFinite)) := by
  unfold conditionOf
  apply Guards.after
  intro column
  exact guards_restriction entry.1 entry.2 _ _

theorem guards_search (spec : Search) :
    Guards
      ((spec.filter.flatMap fun entry => entry.2.numbers) ++
        [spec.limit])
      (searchStatement d spec)
      (searchStatement d
        { spec with
          filter :=
            spec.filter.map fun entry =>
              (entry.1, entry.2.withFinite)
          limit := spec.limit.withFinite }) := by
  unfold searchStatement filterConditions
  apply (Guards.mapM guards_conditionOf spec.filter).bind
  intro conditions otherConditions
  apply Guards.after
  intro knowledgeBase
  exact (guards_finite spec.limit).bind_pure _ _

------------------------------------------------------------
-- Ingestions
------------------------------------------------------------

theorem guards_insertionOf
    (incremental : Bool)
    (spec : Ingestion) :
    Guards [spec.limit] (insertionOf d incremental spec)
      (insertionOf d incremental spec.withFinite) := by
  unfold insertionOf
  apply Guards.after
  intro selected
  apply Guards.after
  intro knowledgeBase
  apply Guards.after
  intro source
  apply Guards.after
  intro newestBy
  apply Guards.after
  intro order
  exact (guards_finite spec.limit).bind_pure _ _

theorem guards_ingestion (spec : Ingestion) :
    Guards [spec.limit] (ingestionStatements d spec)
      (ingestionStatements d spec.withFinite) := by
  have hInsertion := guards_insertionOf (d := d) false spec
  unfold ingestionStatements
  by_cases hEnsure : spec.ensureDatasource = true
  · have hOther : spec.withFinite.ensureDatasource = true :=
      hEnsure
    rw [if_pos hEnsure, if_pos hOther]
    apply Guards.after
    intro datasource
    exact hInsertion.bind_pure _ _
  · have hOther : ¬ spec.withFinite.ensureDatasource = true :=
      hEnsure
    rw [if_neg hEnsure, if_neg hOther]
    exact hInsertion.bind_pure _ _

theorem guards_ingestionJob (spec : NewIngestJob) :
    Guards [spec.ingestion.limit]
      (ingestionJobStatements d spec)
      (ingestionJobStatements d
        { spec with
          ingestion := spec.ingestion.withFinite
          schedule := spec.schedule.withFinite }) := by
  have hRest
      (insertion otherInsertion : Insertion) :
      Guards []
        (do
          let datasource ←
            datasourceStatement spec.ingestion.source.datasource
          let name ← ObjectName.ofRef "job name" spec.ref
          return [datasource,
            Statement.createJob
              { name
                body := .insertion insertion
                schedule := some spec.schedule }])
        (do
          let datasource ←
            datasourceStatement spec.ingestion.source.datasource
          let name ← ObjectName.ofRef "job name" spec.ref
          return [datasource,
            Statement.createJob
              { name
                body := .insertion otherInsertion
                schedule :=
                  some spec.schedule.withFinite }]) := by
    apply Guards.after
    intro datasource
    exact (Guards.same _).bind_pure _ _
  exact (guards_insertionOf true spec.ingestion).bind hRest

------------------------------------------------------------
-- Agents, Evaluations and Jobs
------------------------------------------------------------

theorem guards_agentParam (param : String × Json) :
    Guards param.2.ownNumbers (agentParam param)
      (agentParam (param.1, param.2.withFinite)) := by
  unfold agentParam
  apply Guards.after
  intro name
  exact (guards_ofJson param.2).bind_pure _ _

theorem guards_agent (spec : NewAgent) :
    Guards
      (spec.params.flatMap fun param => param.2.ownNumbers)
      (agentStatement spec)
      (agentStatement
        { spec with
          params :=
            spec.params.map fun param =>
              (param.1, param.2.withFinite) }) := by
  unfold agentStatement
  by_cases hNone : spec.knowledgeBases.isEmpty = true
  · rw [if_pos hNone, if_pos hNone]
    exact .fails _
  · rw [if_neg hNone, if_neg hNone]
    apply Guards.after
    intro knowledgeBases
    apply Guards.after
    intro tables
    rw [← List.append_nil (spec.params.flatMap _)]
    apply (Guards.mapM guards_agentParam spec.params).bind
    intro params otherParams
    exact (Guards.same _).bind_pure _ _

/- An evaluation has a count, but guards no number. -/
theorem guards_evaluation (spec : Evaluation) :
    Guards [] (evaluationStatements spec)
      (evaluationStatements
        { spec with
          generation :=
            spec.generation.map Generation.withFinite }) := by
  unfold evaluationStatements
  apply Guards.after
  intro name
  apply Guards.after
  intro table
  by_cases hEvaluates : spec.evaluates = true
  · rw [if_pos hEvaluates, if_pos hEvaluates]
    exact (Guards.same _).bind_pure _ _
  · rw [if_neg hEvaluates, if_neg hEvaluates]
    exact .passes (List.forall_mem_nil _) _ _

/- A job may have a count, but guards no number. -/
theorem guards_job (spec : NewJob) :
    Guards [] (jobStatement spec)
      (jobStatement
        { spec with
          schedule := spec.schedule.map Schedule.withFinite }) := by
  unfold jobStatement
  by_cases hNone : spec.statements.isEmpty = true
  · rw [if_pos hNone, if_pos hNone]
    exact .fails _
  · rw [if_neg hNone, if_neg hNone]
    exact (Guards.same _).bind_pure _ _

end Sql

------------------------------------------------------------
-- Requests
------------------------------------------------------------

namespace Request

variable {d : Dialect}

theorem statements_guards (request : Request) :
    Guards request.checkedNumbers (request.statements d)
      (request.withFinite.statements d) := by
  cases request with
  | ingest spec => exact guards_ingestion spec
  | query spec => exact (guards_search spec).bind_pure _ _
  | createAgent spec => exact (guards_agent spec).bind_pure _ _
  | evaluate spec => exact guards_evaluation spec
  | createJob spec => exact (guards_job spec).bind_pure _ _
  | createIngestJob spec => exact guards_ingestionJob spec
  | jobLogs ref limit =>
      apply Guards.after
      intro job
      exact (guards_finite limit).bind_pure _ _
  | _ => exact Guards.same _

/-
  Whether a request compiles depends on the numbers that are
  checked, and on no other number. If all of them are
  finite, it compiles or fails as it does with finite
  numbers everywhere; if not, it does not compile.
-/
theorem compile_guards
    (d : Dialect)
    (request : Request) :
    Guards request.checkedNumbers (request.compile d)
      (request.withFinite.compile d) :=
  (statements_guards request).bind_pure _ _

/- The digits of a number that is too large. -/
def hugeDigits : List Char :=
  List.replicate 400 '9'

/- Test data with this many rows are to be generated. -/
def hugeArguments : Arguments :=
  [("kbName", .text "kb"), ("testTable", .text "ds.t"),
    ("generateCount", .text (String.ofList hugeDigits))]

/- The evaluation that generates them. -/
def hugeEvaluation : Evaluation where
  knowledgeBase := "kb"
  testTable := { datasource := "ds", table := "t" }
  version := .documentId
  generation := some { count := .infinite false }
  evaluates := true

theorem count?_hugeDigits :
    Number.count? (String.ofList hugeDigits) =
      some (.infinite false) := by
  unfold Number.count?
  rw [String.toList_ofList]
  decide +kernel

theorem word?_hugeDigits :
    hugeArguments.word? "generateCount" =
      some (String.ofList hugeDigits) := by
  apply Arguments.word?_eq_some_iff.mpr
  refine ⟨String.ofList hugeDigits, rfl, ?_, ?_⟩
  · unfold Text.isVoid
    rw [String.toList_ofList]
    decide +kernel
  · have hTrimmed : Text.trimChars hugeDigits = hugeDigits := by
      decide +kernel
    unfold Text.trim
    rw [String.toList_ofList, hTrimmed]

theorem ofArguments_huge :
    ofArguments .evaluate hugeArguments {} =
      .ok (evaluate hugeEvaluation) := by
  have hAsks : asksForGeneration hugeArguments = true := by
    unfold asksForGeneration
    rw [word?_hugeDigits, Option.isSome_some, Bool.or_true]
  have hCount :
      hugeArguments.count "generateCount" "--generate-count"
          defaultTestRows =
        .ok (.infinite false) :=
    Arguments.count_eq_ok word?_hugeDigits count?_hugeDigits _ _
  have hGeneration :
      generation? hugeArguments =
        .ok (some { count := .infinite false }) := by
    unfold generation?
    rw [if_pos hAsks, hCount]
    rfl
  have hKnowledgeBase :
      hugeArguments.word "kbName" "kb_name" = .ok "kb" := by
    decide +kernel
  have hText :
      hugeArguments.word "testTable" "--test-table" =
        .ok "ds.t" := by
    decide +kernel
  have hTable :
      TableRef.ofText "--test-table" "ds.t" =
        .ok { datasource := "ds", table := "t" } := by
    decide +kernel
  have hVersion :
      EvaluationVersion.ofText
          ((hugeArguments.word? "evalVersion").getD
            EvaluationVersion.documentId.name) =
        .ok .documentId := by
    decide +kernel
  simp only [ofArguments, Evaluation.ofArguments, hVersion,
    hAsks, hKnowledgeBase, hText, hTable, hGeneration, ok_bind,
    Bool.not_true, Bool.and_false]
  rfl

/- A number that is not finite is not always refused. -/
theorem not_refused_of_unfit :
    ¬ ∀ (op : Operation) (args : Arguments)
        (settings : Settings) (d : Dialect)
        (request : Request),
      ofArguments op args settings = .ok request →
        (∃ n ∈ request.numbers, n.isFinite = false) →
          ∃ problem,
            request.compile d = .error problem ∧
              problem.kind = .invalidValue := by
  intro hAll
  have hUnfit :
      ∃ n ∈ (evaluate hugeEvaluation).numbers,
        n.isFinite = false :=
    ⟨.infinite false, List.mem_cons_self, rfl⟩
  rcases hAll .evaluate hugeArguments {} {} _ ofArguments_huge
      hUnfit with
    ⟨problem, hProblem, -⟩
  have hTexts :
      (evaluate hugeEvaluation).compile {} =
        .ok
          ["EVALUATE KNOWLEDGE_BASE kb USING " ++
            "test_table = ds.t, generate_data = " ++
            "\x7b\"count\": null\x7d, evaluate = false;",
            "EVALUATE KNOWLEDGE_BASE kb USING " ++
            "test_table = ds.t, version = 'doc_id';"] := by
    decide +kernel
  rw [hTexts] at hProblem
  cases hProblem

end Request

end KbConsole
