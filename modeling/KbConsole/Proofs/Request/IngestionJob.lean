import KbConsole.Dispatch
import KbConsole.Proofs.Request.PlainIngestion
import KbConsole.Proofs.Request.Ingestion
import KbConsole.Proofs.Sql.Ingestion

/-
  Jobs that repeat an ingestion.

  Such a job is asked for by the options of the ingestion,
  and it runs the same insertion with one more condition. It
  is refused exactly when the ingestion is refused.

  Key definitions include:
    * `Sql.Insertion.onceText`, `Sql.Insertion.jobText`
    * `Arguments.IsForJob`, `Arguments.Describes`
    * `IsRepetition`

  The main statement is `prepare_createIngestJob`.
-/

namespace KbConsole

open Sql

------------------------------------------------------------
-- Insertions
------------------------------------------------------------

namespace Sql

namespace Insertion

/- An insertion up to the name of its source. -/
def frontText (d : Dialect) (i : Insertion) : String :=
  i.headText ++ i.projectionText d ++ " FROM " ++
    i.source.text

/- An insertion after the rows that it takes. -/
def restText (i : Insertion) : String :=
  i.orderText ++ " LIMIT " ++ i.limit.text

/- An insertion that is run once. -/
def onceText (d : Dialect) (i : Insertion) : String :=
  i.frontText d ++ i.restText ++ ";"

/- A job that runs an insertion of new rows. -/
def jobText
    (d : Dialect)
    (i : Insertion)
    (name : ObjectName)
    (idColumn : Column)
    (schedule : Schedule) : String :=
  "CREATE JOB " ++ name.text ++ " (" ++ i.frontText d ++
    " WHERE " ++ idColumn.text ++ " > LAST" ++ i.restText ++
    ") " ++ scheduleText schedule ++ ";"

/- An insertion that only takes new rows. -/
def ofNewest (i : Insertion) (idColumn : Column) : Insertion :=
  { i with newestBy := some idColumn }

theorem text_eq_front (d : Dialect) (i : Insertion) :
    i.text d = i.frontText d ++ i.newestText ++ i.restText := by
  rw [text_eq]
  unfold tailText frontText restText
  simp only [String.append_assoc]

theorem text_insert_once
    {d : Dialect}
    {i : Insertion}
    (hOnce : i.newestBy = none) :
    Statement.text d (.insert i) = i.onceText d := by
  have hNewest : i.newestText = "" := by
    unfold newestText
    rw [hOnce]
  change i.text d ++ ";" = _
  rw [text_eq_front, hNewest, String.append_empty]
  rfl

theorem text_createJob_ofNewest
    (d : Dialect)
    (i : Insertion)
    (name : ObjectName)
    (idColumn : Column)
    (schedule : Schedule) :
    Statement.text d
        (.createJob
          { name
            body := .insertion (i.ofNewest idColumn)
            schedule := some schedule }) =
      i.jobText d name idColumn schedule := by
  have hBody :
      (i.ofNewest idColumn).text d =
        i.frontText d ++
          (" WHERE " ++ idColumn.text ++ " > LAST") ++
          i.restText :=
    text_eq_front d (i.ofNewest idColumn)
  unfold Statement.text Statement.body JobDefinition.text
    JobBody.text jobText
  simp only [hBody, JobDefinition.scheduleClause,
    JobDefinition.timeClause, JobDefinition.conditionClause,
    String.append_assoc, String.empty_append]
  rfl

end Insertion

variable {d : Dialect}
variable {spec : Ingestion}

/- What is selected includes the column of identifiers. -/
theorem exists_idColumn
    {selected : List String × List Output}
    (hSelected : ingestionOutputs d spec = .ok selected) :
    ∃ column,
      Column.ofText d "id column" spec.idColumn =
        .ok column := by
  simp only [ingestionOutputs, bind_eq_ok_iff] at hSelected
  rcases hSelected with ⟨_, -, name, hName, -⟩
  apply Column.exists_ofText_iff.mpr
  exact Identifier.exists_ofText_iff.mp ⟨name, hName⟩

/-
  The insertion of a job is the one that is run once, and
  the rows are told apart by a column that this one has
  already checked.
-/
theorem insertionOf_incremental
    (d : Dialect)
    (spec : Ingestion) :
    insertionOf d true spec =
      (do
        let i ← insertionOf d false spec
        let column ← Column.ofText d "id column" spec.idColumn
        return i.ofNewest column) := by
  unfold insertionOf
  cases hSelected : ingestionOutputs d spec with
  | error problem => rfl
  | ok selected =>
      rcases exists_idColumn hSelected with ⟨column, hColumn⟩
      have hOnce :
          newestColumn d false spec.idColumn = .ok none :=
        rfl
      have hNewest :
          newestColumn d true spec.idColumn =
            .ok (some column) := by
        unfold newestColumn
        rw [if_pos rfl, hColumn, ok_map]
      simp only [hColumn, hOnce, hNewest, bind_assoc,
        pure_bind, ok_bind]
      rfl

/- An insertion that is run once takes all rows. -/
theorem newestBy_of_once
    {i : Insertion}
    (hInsertion : insertionOf d false spec = .ok i) :
    i.newestBy = none := by
  simp only [insertionOf, bind_eq_ok_iff, pure_eq_ok_iff]
    at hInsertion
  rcases hInsertion with
    ⟨_, -, _, -, _, -, newestBy, hNewest, _, -, _, -, rfl⟩
  exact (Except.ok.inj hNewest).symm

theorem source_of_insertionOf
    {incremental : Bool}
    {i : Insertion}
    (hInsertion : insertionOf d incremental spec = .ok i) :
    TableName.ofRef spec.source = .ok i.source := by
  simp only [insertionOf, bind_eq_ok_iff, pure_eq_ok_iff]
    at hInsertion
  rcases hInsertion with
    ⟨_, -, _, -, source, hSource, _, -, _, -, _, -, rfl⟩
  exact hSource

/- A table has the datasource that is created for it. -/
theorem datasourceStatement_eq
    {source : TableName}
    (hSource : TableName.ofRef spec.source = .ok source) :
    datasourceStatement spec.source.datasource =
      .ok (.createDatasource source.datasource "hackernews") := by
  have hName := (TableName.ofRef_eq_ok_iff.mp hSource).1
  rw [datasourceStatement,
    Identifier.ofText_eq_ok_iff.mpr hName]
  rfl

/- The creation of the datasource of an insertion. -/
def Insertion.datasourceText
    (d : Dialect)
    (i : Insertion) : String :=
  Statement.text d
    (.createDatasource i.source.datasource "hackernews")

end Sql

------------------------------------------------------------
-- Requests
------------------------------------------------------------

namespace Request

variable {d : Dialect}
variable {spec : Ingestion}
variable {ref : ObjectRef}
variable {i : Insertion}

theorem compile_of_statements
    {request : Request}
    {statements : List Statement}
    (hStatements : request.statements d = .ok statements) :
    request.compile d =
      .ok (statements.map (Statement.text d)) := by
  unfold compile
  rw [hStatements]
  rfl

theorem compile_of_statements_error
    {request : Request}
    {problem : Problem}
    (hStatements : request.statements d = .error problem) :
    request.compile d = .error problem := by
  unfold compile
  rw [hStatements]
  rfl

theorem compile_ingest_eq_ok
    (hEnsure : spec.ensureDatasource = true)
    (hInsertion : insertionOf d false spec = .ok i) :
    (ingest spec).compile d =
      .ok [i.datasourceText d, i.onceText d] := by
  have hDatasource :=
    datasourceStatement_eq (source_of_insertionOf hInsertion)
  have hStatements :
      (ingest spec).statements d =
        .ok
          [.createDatasource i.source.datasource "hackernews",
            .insert i] := by
    change ingestionStatements d spec = _
    unfold ingestionStatements
    rw [if_pos hEnsure, hDatasource, hInsertion]
    rfl
  rw [compile_of_statements hStatements, List.map_cons,
    List.map_cons, List.map_nil,
    Insertion.text_insert_once (newestBy_of_once hInsertion)]
  rfl

theorem compile_ingest_eq_error
    {problem : Problem}
    (hInsertion : insertionOf d false spec = .error problem) :
    ∃ other, (ingest spec).compile d = .error other := by
  rw [compile_ingest, hInsertion]
  cases frontOf spec with
  | error other => exact ⟨other, rfl⟩
  | ok front => exact ⟨problem, rfl⟩

theorem compile_createIngestJob_eq_ok
    {idColumn : Column}
    {name : ObjectName}
    (hInsertion : insertionOf d false spec = .ok i)
    (hColumn :
      Column.ofText d "id column" spec.idColumn =
        .ok idColumn)
    (hName : ObjectName.ofRef "job name" ref = .ok name)
    (schedule : Schedule) :
    (createIngestJob { ref, ingestion := spec, schedule }).compile
        d =
      .ok
        [i.datasourceText d,
          i.jobText d name idColumn schedule] := by
  have hDatasource :=
    datasourceStatement_eq (source_of_insertionOf hInsertion)
  have hStatements :
      (createIngestJob
            { ref, ingestion := spec, schedule }).statements d =
        .ok
          [.createDatasource i.source.datasource "hackernews",
            .createJob
              { name
                body := .insertion (i.ofNewest idColumn)
                schedule := some schedule }] := by
    change ingestionJobStatements d _ = _
    unfold ingestionJobStatements
    rw [insertionOf_incremental, hInsertion, hColumn,
      hDatasource, hName]
    rfl
  rw [compile_of_statements hStatements, List.map_cons,
    List.map_cons, List.map_nil,
    Insertion.text_createJob_ofNewest]
  rfl

theorem compile_createIngestJob_eq_error
    {problem : Problem}
    (hInsertion : insertionOf d false spec = .error problem)
    (ref : ObjectRef)
    (schedule : Schedule) :
    (createIngestJob { ref, ingestion := spec, schedule }).compile
        d =
      .error problem := by
  have hStatements :
      ingestionJobStatements d
          { ref, ingestion := spec, schedule } =
        .error problem := by
    unfold ingestionJobStatements
    rw [insertionOf_incremental, hInsertion]
    rfl
  exact compile_of_statements_error hStatements

end Request

------------------------------------------------------------
-- Arguments
------------------------------------------------------------

namespace Arguments

/-
  The options that only a job has: a HackerNews table that
  is not blank, a safe name, a project that is safe if there
  is one, and a schedule that can be read if there is one.
-/
structure IsForJob
    (args : Arguments)
    (table : String) : Prop where
  hnTable : Keyed.get? "hnTable" args = some (.text table)
  notBlank : Text.isVoid table = false
  name : args.HasName "jobName"
  project : args.MayHaveName "projectName"
  every :
    ∀ text,
      args.word? "every" = some text →
        ∃ schedule, Schedule.ofText text = .ok schedule

/-
  The options name the source of an insertion, the column by
  which its rows are told apart, and the job with its
  schedule.
-/
structure Describes
    (args : Arguments)
    (d : Dialect)
    (table : String)
    (i : Insertion)
    (name : ObjectName)
    (idColumn : Column)
    (schedule : Schedule) : Prop where
  datasource :
    i.source.datasource.text =
      (args.word? "hnDatasource").getD defaultDatasource
  table : i.source.table.text = Text.trim table
  idColumn :
    Column.ofText d "id column"
      ((args.word? "idColumn").getD "id") = .ok idColumn
  name :
    ∃ word,
      args.word? "jobName" = some word ∧
        ObjectName.ofRef "job name"
          { project := args.word? "projectName"
            name := word } = .ok name
  schedule :
    Schedule.ofText
      ((args.word? "every").getD defaultJobSchedule) =
        .ok schedule

/- The ingestion that a job repeats, asked for by itself. -/
def once (args : Arguments) (table : String) : Arguments :=
  ("fromHackernews", .text table) :: args

end Arguments

/-
  The statements of an ingestion, and those of the job that
  repeats it. Either both are refused, or both begin with
  the datasource, and then the one inserts what the other
  inserts again and again.
-/
inductive IsRepetition
    (d : Dialect)
    (args : Arguments)
    (table : String) :
    Except Problem (List String) →
      Except Problem (List String) → Prop where
  | refused (first second : Problem) :
      IsRepetition d args table (.error first) (.error second)
  | accepted
      {i : Insertion}
      {name : ObjectName}
      {idColumn : Column}
      {schedule : Schedule}
      (hParts :
        args.Describes d table i name idColumn schedule) :
      IsRepetition d args table
        (.ok [i.datasourceText d, i.onceText d])
        (.ok
          [i.datasourceText d,
            i.jobText d name idColumn schedule])

/- An ingestion is read from the words of its options. -/
theorem Ingestion.ofArguments_congr
    {args other : Arguments}
    (hWords : ∀ key, args.word? key = other.word? key) :
    Ingestion.ofArguments args =
      Ingestion.ofArguments other := by
  unfold Ingestion.ofArguments ingestionSource Arguments.word
    Arguments.json? Arguments.list? Arguments.count
  simp only [hWords]

/- A HackerNews table is in the datasource of its option. -/
theorem source_of_hackernews
    {args : Arguments}
    {table : String}
    (hTable : args.word? "fromHackernews" = some table)
    {source : TableRef}
    (hSource : ingestionSource args = .ok source) :
    source =
      { datasource :=
          (args.word? "hnDatasource").getD defaultDatasource
        table } := by
  unfold ingestionSource at hSource
  rw [hTable] at hSource
  cases hFrom : args.word? "from" with
  | some text =>
      rw [hFrom] at hSource
      cases hSource
  | none =>
      rw [hFrom] at hSource
      exact (Except.ok.inj hSource).symm

namespace Arguments.IsForJob

variable {args : Arguments}
variable {table : String}

theorem word?_hnTable (hJob : args.IsForJob table) :
    args.word? "hnTable" = some (Text.trim table) :=
  word?_eq_some_iff.mpr
    ⟨table, hJob.hnTable, hJob.notBlank, rfl⟩

theorem word?_once (hJob : args.IsForJob table) :
    (args.once table).word? "fromHackernews" =
      some (Text.trim table) :=
  word?_eq_some_iff.mpr
    ⟨table, if_pos rfl, hJob.notBlank, rfl⟩

theorem word?_once_of_ne
    {key : String}
    (hKey : "fromHackernews" ≠ key) :
    (args.once table).word? key = args.word? key :=
  word?_cons_of_ne hKey _

/-
  The job hands its table on without margins, and this does
  not change what the ingestion is read from.
-/
theorem ofArguments_trim (hJob : args.IsForJob table) :
    Ingestion.ofArguments
        (("fromHackernews", .text (Text.trim table)) :: args) =
      Ingestion.ofArguments (args.once table) := by
  apply Ingestion.ofArguments_congr
  intro key
  by_cases hKey : "fromHackernews" = key
  · subst hKey
    rw [hJob.word?_once]
    exact word?_cons_word hJob.word?_hnTable _ _
  · rw [word?_once_of_ne hKey]
    exact word?_cons_of_ne hKey _

end Arguments.IsForJob

/- A job is read whenever its ingestion is. -/
theorem NewIngestJob.ofArguments_eq
    {args : Arguments}
    {table word : String}
    {schedule : Schedule}
    (hJob : args.IsForJob table)
    (hWord : args.word? "jobName" = some word)
    (hSchedule :
      Schedule.ofText
        ((args.word? "every").getD defaultJobSchedule) =
          .ok schedule) :
    NewIngestJob.ofArguments args =
      (Ingestion.ofArguments (args.once table)).map
        fun ingestion =>
          { ref :=
              { project := args.word? "projectName"
                name := word }
            ingestion
            schedule } := by
  unfold NewIngestJob.ofArguments Arguments.objectRef
  rw [Arguments.word_eq_ok hWord,
    Arguments.word_eq_ok hJob.word?_hnTable, hSchedule]
  simp only [ok_bind, pure_bind, hJob.ofArguments_trim]
  exact bind_pure_eq_map

theorem compile_of_prepare
    {op : Operation}
    {args : Arguments}
    {settings : Settings}
    {d : Dialect}
    {request : Request}
    (hRequest :
      Request.ofArguments op args settings = .ok request) :
    (prepare op args settings d).map Prod.snd =
      request.compile d := by
  unfold prepare
  rw [hRequest, ok_bind, bind_pure_eq_map, map_map]
  cases request.compile d with
  | error problem => rfl
  | ok texts => rfl

/- The parts of a job that its ingestion does not have. -/
theorem Arguments.IsForJob.describes
    {args : Arguments}
    {table word : String}
    {d : Dialect}
    {spec : Ingestion}
    {i : Insertion}
    {name : ObjectName}
    {idColumn : Column}
    {schedule : Schedule}
    (hJob : args.IsForJob table)
    (hRead : spec.IsReadFrom (args.once table))
    (hInsertion : insertionOf d false spec = .ok i)
    (hColumn :
      Column.ofText d "id column" spec.idColumn =
        .ok idColumn)
    (hWord : args.word? "jobName" = some word)
    (hName :
      ObjectName.ofRef "job name"
        { project := args.word? "projectName", name := word } =
          .ok name)
    (hSchedule :
      Schedule.ofText
        ((args.word? "every").getD defaultJobSchedule) =
          .ok schedule) :
    args.Describes d table i name idColumn schedule := by
  have hSource :=
    source_of_hackernews hJob.word?_once hRead.source
  have hTable :=
    TableName.ofRef_eq_ok_iff.mp
      (source_of_insertionOf hInsertion)
  have hId := hRead.idColumn
  rw [word?_once_of_ne (by decide)] at hSource hId
  rw [hSource] at hTable
  rw [hId] at hColumn
  exact
    { datasource := hTable.1
      table := hTable.2
      idColumn := hColumn
      name := ⟨word, hWord, hName⟩
      schedule := hSchedule }

/-
  A job is refused when its ingestion is. Otherwise both
  create the same datasource, and the job runs the insertion
  with one more condition, right behind its source.
-/
theorem prepare_createIngestJob
    {args : Arguments}
    {table : String}
    (hJob : args.IsForJob table)
    (settings : Settings)
    (d : Dialect) :
    IsRepetition d args table
      ((prepare .ingest (args.once table) settings d).map
        Prod.snd)
      ((prepare .createIngestJob args settings d).map
        Prod.snd) := by
  rcases hJob.name with ⟨word, hWord, hSafe⟩
  rcases hJob.project.exists_objectName hSafe with
    ⟨name, hName⟩
  rcases Arguments.exists_schedule hJob.every with
    ⟨schedule, hSchedule⟩
  have hRead :=
    NewIngestJob.ofArguments_eq hJob hWord hSchedule
  cases hSpec : Ingestion.ofArguments (args.once table) with
  | error problem =>
      rw [hSpec] at hRead
      unfold prepare Request.ofArguments
      rw [hSpec, hRead]
      exact .refused problem problem
  | ok spec =>
      rw [hSpec, ok_map] at hRead
      have hOnce :
          Request.ofArguments .ingest (args.once table)
              settings =
            .ok (.ingest spec) := by
        simp only [Request.ofArguments, hSpec, ok_bind]
        rfl
      have hRepeated :
          Request.ofArguments .createIngestJob args settings =
            .ok
              (.createIngestJob
                { ref :=
                    { project := args.word? "projectName"
                      name := word }
                  ingestion := spec
                  schedule }) := by
        simp only [Request.ofArguments, hRead, ok_bind]
        rfl
      rw [compile_of_prepare hOnce,
        compile_of_prepare hRepeated]
      have hParts := Ingestion.isReadFrom_of_ofArguments hSpec
      have hEnsure : spec.ensureDatasource = true := by
        rw [hParts.ensureDatasource, hJob.word?_once]
        rfl
      cases hInsertion : insertionOf d false spec with
      | error problem =>
          rcases Request.compile_ingest_eq_error hInsertion with
            ⟨other, hOther⟩
          rw [hOther,
            Request.compile_createIngestJob_eq_error hInsertion]
          exact .refused other problem
      | ok i =>
          rcases exists_isFramed hInsertion with
            ⟨content, id, base, hFrame⟩
          rcases Column.exists_ofText_iff.mpr hFrame.idName with
            ⟨idColumn, hColumn⟩
          rw [Request.compile_ingest_eq_ok hEnsure hInsertion,
            Request.compile_createIngestJob_eq_ok hInsertion
              hColumn hName]
          exact .accepted
            (hJob.describes hParts hInsertion hColumn hWord
              hName hSchedule)

/- Stories that a job keeps ingesting. -/
def storiesArguments : Arguments :=
  [("jobName", .text "refresh"), ("kbName", .text "kb"),
    ("hnTable", .text " stories ")]

theorem isForJob_stories :
    storiesArguments.IsForJob " stories " := by
  constructor
  · rfl
  · decide +kernel
  · exact ⟨"refresh", by decide +kernel, by decide⟩
  · intro name hName
    cases hName
  · intro text hText
    cases hText

/- The ingestion of stories, and the job that repeats it. -/
theorem prepare_createIngestJob_stories :
    storiesArguments.IsForJob " stories " ∧
      (prepare .createIngestJob storiesArguments {} {}).map
          Prod.snd =
        .ok
          ["CREATE DATABASE hackernews " ++
            "WITH ENGINE = 'hackernews';",
            "CREATE JOB refresh (INSERT INTO kb " ++
            "SELECT COALESCE(title, '') || ' ' || " ++
            "COALESCE(text, '') AS content, id, " ++
            "`by`, score, `time`, descendants, url " ++
            "FROM hackernews.stories WHERE id > LAST " ++
            "LIMIT 100) SCHEDULE EVERY 1 day;"] ∧
      ∀ (settings : Settings) (d : Dialect),
        IsRepetition d storiesArguments " stories "
          ((prepare .ingest (storiesArguments.once " stories ")
            settings d).map Prod.snd)
          ((prepare .createIngestJob storiesArguments
            settings d).map Prod.snd) :=
  ⟨isForJob_stories, by decide +kernel,
    prepare_createIngestJob isForJob_stories⟩

end KbConsole
