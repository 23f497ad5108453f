import KbConsole.Proofs.Request.Grammar
import KbConsole.Proofs.Sql.Spelling

/-
  The clauses in which statements carry a schedule or a sort
  order, read again.

  A schedule is written with its count, which is one if none
  was given, and a sort order with its column as it is, unless
  its name is reserved. Where the count is exact and the column
  is not reserved, the clause is read as what it was written
  for.

  Key definitions include:
    * `Schedule.clauseText`, `OrderBy.clauseText`
    * `Request.schedule?`, `Request.scheduledTexts`
    * `Request.orderBy?`, `Request.orderedTexts`

  The main statement is `Request.clauses_contract`. It rests
  on `Schedule.ofText_clauseText` and
  `OrderBy.ofText_clauseText`.
-/

namespace KbConsole

open Sql

------------------------------------------------------------
-- Clauses of Schedules
------------------------------------------------------------

/- A unit as it follows a count. -/
def TimeUnit.wordFor
    (count : Number)
    (unit : TimeUnit) : String :=
  unit.name ++ if count = .integer 1 then "" else "s"

theorem TimeUnit.isNamedBy_wordFor
    (count : Number)
    (unit : TimeUnit) :
    unit.IsNamedBy (unit.wordFor count) := by
  unfold wordFor
  split
  · rw [String.append_empty]
    exact Or.inl (Text.sameLetters_iff.mpr rfl)
  · exact Or.inr (Text.sameLetters_iff.mpr rfl)

namespace Schedule

/- What follows the keyword of a schedule. -/
def clauseText (s : Schedule) : String :=
  let count := s.count.getD (.integer 1)
  "EVERY " ++ count.text ++ " " ++ s.unit.wordFor count

theorem scheduleText_eq (s : Schedule) :
    scheduleText s = "SCHEDULE " ++ s.clauseText := by
  have hKeyword :
      "SCHEDULE EVERY " = "SCHEDULE " ++ "EVERY " := rfl
  unfold scheduleText clauseText TimeUnit.wordFor
  simp only [hKeyword, String.append_assoc]

variable {count : Option Nat}
variable {unit : TimeUnit}

/- A count that is exact is written as it is. -/
theorem getD_count_ofCount
    (hExact : ∀ n, count = some n → n ≤ Number.largestExact) :
    (ofCount count unit).count.getD (.integer 1) =
      .integer (count.getD 1) := by
  cases count with
  | none => rfl
  | some n => exact Number.ofDecimal_eq_integer (hExact n rfl)

/- A schedule that is accepted does not count to zero. -/
theorem count_ne_zero_of_ofText
    {text : String}
    (hAccepted : ofText text = .ok (ofCount count unit)) :
    count ≠ some 0 := by
  rcases ofText_eq_ok_iff.mp hAccepted with
    ⟨_, other, _, -, -, hNonzero, hSame⟩
  rw [Ne, ← count_ofCount_eq_zero_iff, hSame,
    count_ofCount_eq_zero_iff]
  exact hNonzero

/- The clause of a schedule is read with its count. -/
theorem ofText_clauseText
    (hNonzero : count ≠ some 0)
    (hExact : ∀ n, count = some n → n ≤ Number.largestExact) :
    ofText (ofCount count unit).clauseText =
      .ok (ofCount (some (count.getD 1)) unit) := by
  let number : Number := .integer (count.getD 1)
  let word := unit.wordFor number
  have hDigits : Text.isNumeral number.text.toList = true := by
    rw [Number.toList_text_natCast]
    exact Number.isNumeral_digits _
  have hWord : unit.IsNamedBy word := unit.isNamedBy_wordFor _
  have hChain :
      Text.Chain
        ("EVERY".toList ++ [' '] ++
          (number.text.toList ++ [' '] ++ word.toList))
        ["EVERY", number.text, word] :=
    .cons (by decide) Text.isBreak_space
      (.cons (Text.isToken_of_isNumeral hDigits)
        Text.isBreak_space (.last hWord.isToken))
  rw [ofText_eq_ok_iff]
  refine
    ⟨["EVERY", number.text, word], some (count.getD 1), unit,
      ?_, ?_, ?_, rfl⟩
  · apply hChain.hasTokens
    rw [clauseText, getD_count_ofCount hExact]
    simp [number, word, ofCount]
  · refine
      ⟨some "EVERY", some number.text, word,
        ⟨?_, ?_, ?_, hWord⟩, rfl⟩
    · rintro token ⟨⟩
      decide
    · rintro token ⟨⟩
      exact hDigits
    · rw [Option.map_some, Number.toList_text_natCast,
        Number.numeral_digits]
  · cases count with
    | none => decide
    | some n => exact hNonzero

end Schedule

------------------------------------------------------------
-- Clauses of Sort Orders
------------------------------------------------------------

namespace OrderBy

/- What follows the keywords of a sort order. -/
def clauseText (order : OrderBy) : String :=
  match order.direction with
  | none => order.column
  | some direction => order.column ++ " " ++ direction.keyword

/- The clause of a sort order is read as the same order. -/
theorem ofText_clauseText
    {order : OrderBy}
    (hProper : order.IsProper) :
    ofText order.clauseText = .ok order := by
  have hColumn : Text.IsToken order.column :=
    ⟨hProper.notEmpty, hProper.noBlank⟩
  rw [ofText_eq_ok_iff]
  rcases order with ⟨column, none | direction⟩
  · exact
      ⟨[column], (Text.Chain.last hColumn).hasTokens rfl,
        .column column⟩
  · have hSame :
        Text.sameLetters direction.keyword direction.keyword =
          true :=
      Text.sameLetters_iff.mpr rfl
    have hChain :
        Text.Chain
          (column.toList ++ [' '] ++ direction.keyword.toList)
          [column, direction.keyword] :=
      .cons hColumn Text.isBreak_space
        (.last (isToken_of_direction hSame))
    refine
      ⟨[column, direction.keyword], hChain.hasTokens ?_,
        .directed column hSame⟩
    simp [clauseText]

end OrderBy

------------------------------------------------------------
-- Statements with a Schedule
------------------------------------------------------------

/- The creation of a job up to its schedule. -/
def NewJob.frontText (spec : NewJob) : String :=
  "CREATE JOB " ++ spec.ref.qualified ++ " (" ++
    "; ".intercalate spec.statements ++ ")"

/- The condition of a job, if it has one. -/
def NewJob.conditionText (spec : NewJob) : String :=
  match given? spec.condition with
  | none => ""
  | some sql => " IF (" ++ withoutTerminator sql ++ ")"

/- What follows the schedule of a job. -/
def NewJob.endText (d : Dialect) (spec : NewJob) : String :=
  JobDefinition.timeClause d "START" (given? spec.start) ++
    JobDefinition.timeClause d "END" (given? spec.finish) ++
    spec.conditionText

/- An ingestion up to its sort order. -/
def Ingestion.unsortedText
    (d : Dialect)
    (incremental : Bool)
    (spec : Ingestion) : String :=
  "INSERT INTO " ++ spec.knowledgeBase ++ targetsText d ++
    " SELECT " ++ ", ".intercalate (spec.outputTexts d) ++
    " FROM " ++ spec.source.datasource ++ "." ++
    spec.source.table ++ spec.newestText d incremental

/- An ingestion with a text that stands for its sort order. -/
def Ingestion.sortedText
    (d : Dialect)
    (incremental : Bool)
    (clause : String)
    (spec : Ingestion) : String :=
  spec.unsortedText d incremental ++ " ORDER BY " ++ clause ++
    " LIMIT " ++ spec.limit.text

theorem text_createJob_scheduled
    {d : Dialect}
    {job : JobDefinition}
    {schedule : Schedule}
    (hSchedule : job.schedule = some schedule) :
    Statement.text d (.createJob job) =
      "CREATE JOB " ++ job.name.text ++ " (" ++
        job.body.text d ++ ")" ++ " SCHEDULE " ++
        schedule.clauseText ++
        JobDefinition.timeClause d "START" job.start ++
        JobDefinition.timeClause d "END" job.finish ++
        job.conditionClause ++ ";" := by
  have hKeyword : " " ++ "SCHEDULE " = " SCHEDULE " := rfl
  unfold Statement.text Statement.body JobDefinition.text
    JobDefinition.scheduleClause
  simp only [hSchedule, Schedule.scheduleText_eq,
    Text.joined_append hKeyword, String.append_assoc]

/- The condition of a job stands without its semicolons. -/
theorem conditionClause_given
    {spec : NewJob}
    {job : JobDefinition}
    (hCondition :
      job.condition =
        (given? spec.condition).map withoutTerminator) :
    job.conditionClause = spec.conditionText := by
  unfold JobDefinition.conditionClause NewJob.conditionText
  rw [hCondition]
  cases given? spec.condition <;> rfl

theorem Ingestion.insertionText_of_free
    {d : Dialect}
    {spec : Ingestion}
    {order : OrderBy}
    (hOrder : spec.orderBy = some order)
    (hFree : ¬ d.Reserves order.column)
    (incremental : Bool) :
    spec.insertionText d incremental =
      spec.sortedText d incremental order.clauseText := by
  have hColumn := columnText_eq_self_iff.mpr hFree
  have hSort :
      spec.sortText d = " ORDER BY " ++ order.clauseText := by
    unfold sortText OrderBy.clauseText
    rw [hOrder]
    rcases order with ⟨column, none | direction⟩
    · exact congrArg (" ORDER BY " ++ ·) hColumn
    · dsimp only at hColumn ⊢
      simp only [hColumn, String.append_assoc]
  unfold insertionText
  rw [hSort, ← String.append_assoc]
  rfl

namespace Request

/- The schedule of a request that is repeated. -/
def schedule? : Request → Option Schedule
  | createJob spec => spec.schedule
  | createIngestJob spec => some spec.schedule
  | _ => none

/-
  The statements of a request that is repeated, with a text
  that stands for what follows the keyword of its schedule.
-/
def scheduledTexts
    (d : Dialect)
    (clause : String) : Request → List String
  | createJob spec =>
      [spec.frontText ++ " SCHEDULE " ++ clause ++
        spec.endText d ++ ";"]
  | createIngestJob spec =>
      [spec.ingestion.datasourceText,
        "CREATE JOB " ++ spec.ref.qualified ++ " (" ++
          spec.ingestion.insertionText d true ++
          ") SCHEDULE " ++ clause ++ ";"]
  | _ => []

/- The sort order of a request that ingests. -/
def orderBy? : Request → Option OrderBy
  | ingest spec => spec.orderBy
  | createIngestJob spec => spec.ingestion.orderBy
  | _ => none

/-
  The statements of a request that ingests in an order, with
  a text that stands for what follows its keywords.
-/
def orderedTexts
    (d : Dialect)
    (clause : String) : Request → List String
  | ingest spec =>
      spec.frontTexts ++ [spec.sortedText d false clause ++ ";"]
  | createIngestJob spec =>
      [spec.ingestion.datasourceText,
        "CREATE JOB " ++ spec.ref.qualified ++ " (" ++
          spec.ingestion.sortedText d true clause ++ ") " ++
          scheduleText spec.schedule ++ ";"]
  | _ => []

variable {d : Dialect}
variable {texts : List String}

theorem texts_of_createJob
    {spec : NewJob}
    {schedule : Schedule}
    (hSchedule : spec.schedule = some schedule)
    (hCompile : (createJob spec).compile d = .ok texts) :
    texts =
      (createJob spec).scheduledTexts d
        schedule.clauseText := by
  simp only [compile, statements, bind_eq_ok_iff,
    pure_eq_ok_iff] at hCompile
  rcases hCompile with ⟨_, ⟨s, hStatement, rfl⟩, rfl⟩
  rcases jobStatement_eq_ok_iff.mp hStatement with
    ⟨-, name, hName, rfl⟩
  rw [List.map_singleton, text_createJob_scheduled hSchedule,
    ObjectName.text_of_ofRef hName, conditionClause_given rfl]
  unfold scheduledTexts NewJob.frontText NewJob.endText
  simp only [JobBody.text, String.append_assoc]

theorem texts_of_createIngestJob
    {spec : NewIngestJob}
    (hCompile : (createIngestJob spec).compile d = .ok texts) :
    texts =
      [spec.ingestion.datasourceText, spec.statementText d] :=
  isSpelled_of_compile hCompile

/- The schedule of a request stands in its statements. -/
theorem texts_eq_scheduledTexts
    {request : Request}
    {schedule : Schedule}
    (hSchedule : request.schedule? = some schedule)
    (hCompile : request.compile d = .ok texts) :
    texts = request.scheduledTexts d schedule.clauseText := by
  cases request with
  | createJob spec =>
      exact texts_of_createJob hSchedule hCompile
  | createIngestJob spec =>
      obtain rfl := Option.some.inj hSchedule
      have hClose : ") " ++ "SCHEDULE " = ") SCHEDULE " := rfl
      rw [texts_of_createIngestJob hCompile]
      unfold NewIngestJob.statementText scheduledTexts
      rw [Schedule.scheduleText_eq, ← String.append_assoc,
        Text.append_joined hClose]
  | _ => cases hSchedule

/- So does its sort order, if its column is not reserved. -/
theorem texts_eq_orderedTexts
    {request : Request}
    {order : OrderBy}
    (hOrder : request.orderBy? = some order)
    (hFree : ¬ d.Reserves order.column)
    (hCompile : request.compile d = .ok texts) :
    texts = request.orderedTexts d order.clauseText := by
  cases request with
  | ingest spec =>
      have hOwn : spec.orderBy = some order := hOrder
      have hSorted :=
        Ingestion.insertionText_of_free hOwn hFree false
      rw [isSpelled_ingest hCompile, hSorted]
      rfl
  | createIngestJob spec =>
      have hOwn : spec.ingestion.orderBy = some order := hOrder
      have hSorted :=
        Ingestion.insertionText_of_free hOwn hFree true
      rw [texts_of_createIngestJob hCompile]
      unfold NewIngestJob.statementText orderedTexts
      rw [hSorted]
  | _ => cases hOrder

/-
  A text is read as a schedule exactly if its tokens are the
  word every or not, digits of a number other than zero or
  not, and a unit, and as a sort order exactly if they are a
  column and a direction or not. Just as well, this can be
  told from the pattern of the text between its margins. In
  a statement, the clause of an accepted schedule with an
  exact count is read as the same schedule, with the count
  one if it had none. So is the clause of an accepted sort
  order as the same order, unless the name of its column is
  reserved.
-/
theorem clauses_contract (d : Dialect) :
    (∀ text schedule,
      Schedule.ofText text = .ok schedule ↔
        ∃ tokens count unit,
          Text.HasTokens text tokens ∧
            Schedule.IsWrittenAs tokens count unit ∧
            count ≠ some 0 ∧
            schedule = Schedule.ofCount count unit) ∧
      (∀ text order,
        OrderBy.ofText text = .ok order ↔
          ∃ tokens,
            Text.HasTokens text tokens ∧
              OrderBy.IsWrittenAs tokens order) ∧
      (∀ text schedule,
        Schedule.ofText text = .ok schedule ↔
          ∃ count unit,
            Schedule.Matches (Text.trimChars text.toList) count
                unit ∧
              count ≠ some 0 ∧
              schedule = Schedule.ofCount count unit) ∧
      (∀ text order,
        OrderBy.ofText text = .ok order ↔
          OrderBy.Matches (Text.trimChars text.toList)
            order) ∧
      (∀ text count unit (request : Request) texts,
        Schedule.ofText text =
            .ok (Schedule.ofCount count unit) →
          (∀ n, count = some n → n ≤ 2 ^ 53 - 1) →
            request.schedule? =
                some (Schedule.ofCount count unit) →
              request.compile d = .ok texts →
                ∃ clause,
                  texts = request.scheduledTexts d clause ∧
                    Schedule.ofText clause =
                      .ok
                        (Schedule.ofCount
                          (some (count.getD 1)) unit)) ∧
      ∀ text order (request : Request) texts,
        OrderBy.ofText text = .ok order →
          ¬ d.Reserves order.column →
            request.orderBy? = some order →
              request.compile d = .ok texts →
                ∃ clause,
                  texts = request.orderedTexts d clause ∧
                    OrderBy.ofText clause = .ok order := by
  refine ⟨?_, ?_, ?_, ?_, ?_, ?_⟩
  · intro text schedule
    exact Schedule.ofText_eq_ok_iff
  · intro text order
    exact OrderBy.ofText_eq_ok_iff
  · intro text schedule
    exact Schedule.ofText_eq_ok_iff_matches
  · intro text order
    exact OrderBy.ofText_eq_ok_iff_matches
  · intro text count unit request texts hAccepted hExact
      hSchedule hCompile
    refine
      ⟨_, texts_eq_scheduledTexts hSchedule hCompile, ?_⟩
    exact
      Schedule.ofText_clauseText
        (Schedule.count_ne_zero_of_ofText hAccepted) hExact
  · intro text order request texts hAccepted hFree hOrder
      hCompile
    refine
      ⟨_, texts_eq_orderedTexts hOrder hFree hCompile, ?_⟩
    exact
      OrderBy.ofText_clauseText
        (OrderBy.isProper_of_ofText hAccepted)

/- A job that ingests every two hours, best posts first. -/
def hourlyJob : NewIngestJob where
  ref := { name := "sync" }
  ingestion :=
    { knowledgeBase := "kb"
      source := { datasource := "hackernews", table := "posts" }
      columns :=
        { content := ["title"], metadata := [("id", "id")] }
      idColumn := "id"
      limit := .integer 10
      orderBy :=
        some
          { column := "score", direction := some .descending }
      ensureDatasource := false }
  schedule := Schedule.ofCount (some 2) .hour

/- The statements of the job, as they are sent. -/
def hourlyTexts : List String :=
  ["CREATE DATABASE hackernews WITH ENGINE = 'hackernews';",
    "CREATE JOB sync (INSERT INTO kb SELECT " ++
      "title AS content, id FROM hackernews.posts " ++
      "WHERE id > LAST ORDER BY score DESC LIMIT 10) " ++
      "SCHEDULE EVERY 2 hours;"]

/- Its schedule and its sort order are read again. -/
theorem clauses_contract_hourly :
    Schedule.ofText " Every 02 HOUR" =
        .ok (Schedule.ofCount (some 2) .hour) ∧
      OrderBy.ofText "score\tdesc" =
        .ok
          { column := "score"
            direction := some .descending } ∧
      (createIngestJob hourlyJob).compile {} =
        .ok hourlyTexts ∧
      (∃ clause,
        hourlyTexts =
            (createIngestJob hourlyJob).scheduledTexts {}
              clause ∧
          Schedule.ofText clause =
            .ok (Schedule.ofCount (some 2) .hour)) ∧
      ∃ clause,
        hourlyTexts =
            (createIngestJob hourlyJob).orderedTexts {}
              clause ∧
          OrderBy.ofText clause =
            .ok
              { column := "score"
                direction := some .descending } := by
  have hSchedule :
      Schedule.ofText " Every 02 HOUR" =
        .ok (Schedule.ofCount (some 2) .hour) := by
    decide +kernel
  have hOrder :
      OrderBy.ofText "score\tdesc" =
        .ok
          { column := "score"
            direction := some .descending } := by
    decide +kernel
  have hCompile :
      (createIngestJob hourlyJob).compile {} =
        .ok hourlyTexts := by
    decide +kernel
  obtain ⟨-, -, -, -, hScheduled, hSorted⟩ :=
    clauses_contract {}
  refine ⟨hSchedule, hOrder, hCompile, ?_, ?_⟩
  · refine hScheduled _ _ _ _ _ hSchedule ?_ rfl hCompile
    rintro n ⟨⟩
    decide
  · exact hSorted _ _ _ _ hOrder (by decide) rfl hCompile

end Request

end KbConsole
