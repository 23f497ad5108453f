import KbConsole.Proofs.Request.Names
import KbConsole.Proofs.Sql.Name
import KbConsole.Request.OfArguments

/-
  Arguments of an ingestion that are well-formed and have no
  metadata map, and how they are read.

  Key definitions include:
    * `Arguments.IsPlain`, `Arguments.HasOneSource`
    * `IsPlainRequest`
    * `Ingestion.IsPlain`

  The main statements are `Ingestion.exists_ofArguments` and
  `NewIngestJob.exists_ofArguments`.
-/

namespace KbConsole

open Sql

------------------------------------------------------------
-- Plain Arguments
------------------------------------------------------------

/- A text writes an integer from one to the largest exact. -/
def Number.IsExactCount (text : String) : Prop :=
  let digits := countDigits (Text.trimChars text.toList)
  Text.isNumeral digits = true ∧
    1 ≤ Text.numeral digits ∧
    Text.numeral digits ≤ largestExact

namespace Arguments

/- An option is there, and it is a safe name. -/
def HasName (args : Arguments) (key : String) : Prop :=
  ∃ name,
    args.word? key = some name ∧
      Identifier.isSafe name = true

/- An option is a safe name if it is there. -/
def MayHaveName (args : Arguments) (key : String) : Prop :=
  ∀ name,
    args.word? key = some name →
      Identifier.isSafe name = true

/-
  Exactly one source is given, by safe names: a table of a
  datasource, or a HackerNews table.
-/
inductive HasOneSource (args : Arguments) : Prop where
  | table
      {text datasource table : String}
      (hFrom : args.word? "from" = some text)
      (hOther : args.word? "fromHackernews" = none)
      (hParts : trimmedParts '.' text = [datasource, table])
      (hDatasource : Identifier.isSafe datasource = true)
      (hTable : Identifier.isSafe table = true)
  | hackernews
      (hFrom : args.word? "from" = none)
      (hTable : args.HasName "fromHackernews")
      (hDatasource : args.MayHaveName "hnDatasource")

/-
  The options of an ingestion are well-formed, apart from
  its source, and there is no metadata map.
-/
structure IsPlain (args : Arguments) : Prop where
  knowledgeBase : args.HasName "kbName"
  metadata : args.word? "metadataMap" = none
  content :
    ∀ text,
      args.word? "contentColumns" = some text →
        ∀ name ∈ trimmedParts ',' text,
          Identifier.isSafe name = true
  idColumn : args.MayHaveName "idColumn"
  limit :
    ∀ text,
      args.word? "limit" = some text →
        Number.IsExactCount text
  orderBy :
    ∀ text,
      args.word? "orderBy" = some text →
        ∃ order,
          OrderBy.ofText text = .ok order ∧
            Identifier.isSafe order.column = true

/-
  The options of an ingestion job are well-formed. Its
  HackerNews table is its one source.
-/
structure IsPlainJob
    (args : Arguments) : Prop extends IsPlain args where
  name : args.HasName "jobName"
  project : args.MayHaveName "projectName"
  noTable : args.word? "from" = none
  hnTable : args.HasName "hnTable"
  datasource : args.MayHaveName "hnDatasource"
  every :
    ∀ text,
      args.word? "every" = some text →
        ∃ schedule, Schedule.ofText text = .ok schedule

end Arguments

/-
  The arguments of an ingestion, or of a job for one, are
  well-formed, and there is no metadata map.
-/
inductive IsPlainRequest : Operation → Arguments → Prop where
  | ingest
      {args : Arguments}
      (hPlain : args.IsPlain)
      (hSource : args.HasOneSource) :
      IsPlainRequest .ingest args
  | job
      {args : Arguments}
      (hPlain : args.IsPlainJob) :
      IsPlainRequest .createIngestJob args

------------------------------------------------------------
-- Readers
------------------------------------------------------------

/- An exact count is read as the integer it writes. -/
theorem Number.IsExactCount.count?_eq
    {text : String}
    (hCount : IsExactCount text) :
    count? text =
      some (.integer
        (Text.numeral
          (countDigits (Text.trimChars text.toList)))) := by
  rcases hCount with ⟨hNumeral, hOne, hMost⟩
  have hNonzero :
      Text.numeral (countDigits
        (Text.trimChars text.toList)) ≠ 0 := by
    omega
  unfold count? ofNumeral ofDecimal signed
  simp [hNumeral, hNonzero, hMost]

------------------------------------------------------------
-- Plain Ingestions
------------------------------------------------------------

/-
  An ingestion that was read from plain arguments. It has
  the default metadata of its table.
-/
structure Ingestion.IsPlain (spec : Ingestion) : Prop where
  knowledgeBase : Identifier.isSafe spec.knowledgeBase = true
  datasource :
    Identifier.isSafe spec.source.datasource = true
  table : Identifier.isSafe spec.source.table = true
  someContent : spec.columns.content ≠ []
  content :
    ∀ name ∈ spec.columns.content,
      Identifier.isSafe name = true
  metadata :
    spec.columns.metadata =
      (defaultColumns spec.source.table).metadata
  idColumn : Identifier.isSafe spec.idColumn = true
  limit : spec.limit.isFinite = true
  orderBy :
    ∀ order,
      spec.orderBy = some order →
        Identifier.isSafe order.column = true

namespace Arguments

variable {args : Arguments}

/- A default that is safe leaves the name safe. -/
theorem MayHaveName.isSafe_getD
    {key default : String}
    (hName : args.MayHaveName key)
    (hDefault : Identifier.isSafe default = true) :
    Identifier.isSafe ((args.word? key).getD default) =
      true := by
  cases hWord : args.word? key with
  | none => exact hDefault
  | some name => exact hName name hWord

theorem exists_ingestionSource
    (hSource : args.HasOneSource) :
    ∃ ref,
      ingestionSource args = .ok ref ∧
        Identifier.isSafe ref.datasource = true ∧
        Identifier.isSafe ref.table = true := by
  cases hSource with
  | @table text datasource table hFrom hOther hParts
      hDatasource hTable =>
      have hSome :
          ¬ (datasource = "" ∨ table = "") := by
        rintro (rfl | rfl)
        · exact absurd hDatasource (by decide)
        · exact absurd hTable (by decide)
      refine ⟨⟨datasource, table⟩, ?_, hDatasource, hTable⟩
      unfold ingestionSource TableRef.ofText
      rw [hFrom, hOther]
      simp only [hParts, if_neg hSome]
  | hackernews hFrom hTable hDatasource =>
      rcases hTable with ⟨table, hWord, hTable⟩
      have hDefault :
          Identifier.isSafe defaultDatasource = true := by
        decide
      refine
        ⟨⟨(args.word? "hnDatasource").getD defaultDatasource,
            table⟩, ?_, hDatasource.isSafe_getD hDefault,
          hTable⟩
      unfold ingestionSource
      rw [hFrom, hWord]

/- A list of safe names is read entry by entry. -/
theorem exists_contentColumns
    (hContent :
      ∀ text,
        args.word? "contentColumns" = some text →
          ∀ name ∈ trimmedParts ',' text,
            Identifier.isSafe name = true) :
    ∃ content,
      args.list? "contentColumns" "--content-columns" =
          .ok content ∧
        ∀ names,
          content = some names →
            names ≠ [] ∧
              ∀ name ∈ names,
                Identifier.isSafe name = true := by
  unfold list? ColumnList.ofText
  cases hWord : args.word? "contentColumns" with
  | none => exact ⟨none, rfl, by simp⟩
  | some text =>
      have hSafe := hContent text hWord
      have hNoBlank :
          ¬ (trimmedParts ',' text).contains "" = true := by
        intro hBlank
        have hEmpty := hSafe "" (by simpa using hBlank)
        exact absurd hEmpty (by decide)
      refine ⟨some (trimmedParts ',' text), ?_, ?_⟩
      · simp only [if_neg hNoBlank]
        rfl
      · rintro names hNames
        obtain rfl := Option.some.inj hNames
        exact ⟨trimmedParts_ne_nil ',' text, hSafe⟩

theorem exists_limit
    (hLimit :
      ∀ text,
        args.word? "limit" = some text →
          Number.IsExactCount text)
    (label : String)
    (fallback : Nat) :
    ∃ limit,
      args.count "limit" label fallback = .ok limit ∧
        limit.isFinite = true := by
  unfold count
  cases hWord : args.word? "limit" with
  | none => exact ⟨_, rfl, rfl⟩
  | some text =>
      have hCount := (hLimit text hWord).count?_eq
      simp only [hCount]
      exact ⟨_, rfl, rfl⟩

theorem json?_eq_none
    {key : String}
    (hWord : args.word? key = none)
    (label : String) :
    args.json? key label = .ok none := by
  unfold json?
  rw [hWord]

end Arguments

/- The default content of a table has safe names. -/
theorem content_defaultColumns (table : String) :
    (defaultColumns table).content ≠ [] ∧
      ∀ name ∈ (defaultColumns table).content,
        Identifier.isSafe name = true := by
  unfold defaultColumns
  split
  · decide
  · split <;> decide

/- Plain arguments are read as a plain ingestion. -/
theorem Ingestion.exists_ofArguments
    {args : Arguments}
    (hPlain : args.IsPlain)
    (hSource : args.HasOneSource) :
    ∃ spec,
      Ingestion.ofArguments args = .ok spec ∧
        spec.IsPlain ∧
        spec.idColumn = (args.word? "idColumn").getD "id" := by
  rcases hPlain.knowledgeBase with ⟨name, hWord, hName⟩
  rcases Arguments.exists_ingestionSource hSource with
    ⟨ref, hRef, hDatasource, hTable⟩
  rcases Arguments.exists_contentColumns hPlain.content with
    ⟨content, hList, hContent⟩
  rcases Arguments.exists_limit hPlain.limit "--limit"
      defaultIngestLimit with
    ⟨limit, hCount, hFinite⟩
  have hColumns :
      content.getD (defaultColumns ref.table).content ≠ [] ∧
        ∀ column ∈
            content.getD (defaultColumns ref.table).content,
          Identifier.isSafe column = true := by
    cases content with
    | none => exact content_defaultColumns ref.table
    | some names => exact hContent names rfl
  have hSpec
      (order : Option OrderBy)
      (hOrder :
        ∀ found,
          order = some found →
            Identifier.isSafe found.column = true) :
      Ingestion.IsPlain
        { knowledgeBase := name
          source := ref
          columns :=
            { content :=
                content.getD (defaultColumns ref.table).content
              metadata := (defaultColumns ref.table).metadata }
          idColumn := (args.word? "idColumn").getD "id"
          limit
          orderBy := order
          ensureDatasource :=
            (args.word? "fromHackernews").isSome } :=
    { knowledgeBase := hName
      datasource := hDatasource
      table := hTable
      someContent := hColumns.1
      content := hColumns.2
      metadata := rfl
      idColumn := hPlain.idColumn.isSafe_getD (by decide)
      limit := hFinite
      orderBy := hOrder }
  unfold ofArguments
  rw [Arguments.word_eq_ok hWord, hRef,
    Arguments.json?_eq_none hPlain.metadata, hList]
  simp only [ok_bind, hCount]
  cases hOrder : args.word? "orderBy" with
  | none =>
      refine ⟨_, rfl, hSpec none ?_, rfl⟩
      intro found hFound
      cases hFound
  | some text =>
      rcases hPlain.orderBy text hOrder with
        ⟨order, hOrderBy, hColumn⟩
      simp only [hOrderBy, ok_map, ok_bind]
      refine ⟨_, rfl, hSpec (some order) ?_, rfl⟩
      intro found hFound
      obtain rfl := Option.some.inj hFound
      exact hColumn

------------------------------------------------------------
-- Plain Jobs
------------------------------------------------------------

namespace Arguments

variable {args : Arguments}

/- A source that is put in front hides no other option. -/
theorem IsPlain.cons_fromHackernews
    (hPlain : args.IsPlain)
    (table : String) :
    IsPlain (("fromHackernews", .text table) :: args) := by
  have hWord
      (key : String)
      (hKey : "fromHackernews" ≠ key) :
      word? (("fromHackernews", .text table) :: args) key =
        args.word? key :=
    word?_cons_of_ne hKey (.text table)
  constructor
  · unfold HasName
    rw [hWord "kbName" (by decide)]
    exact hPlain.knowledgeBase
  · rw [hWord "metadataMap" (by decide)]
    exact hPlain.metadata
  · rw [hWord "contentColumns" (by decide)]
    exact hPlain.content
  · unfold MayHaveName
    rw [hWord "idColumn" (by decide)]
    exact hPlain.idColumn
  · rw [hWord "limit" (by decide)]
    exact hPlain.limit
  · rw [hWord "orderBy" (by decide)]
    exact hPlain.orderBy

/- The HackerNews table of a job is its one source. -/
theorem IsPlainJob.hasOneSource
    (hPlain : args.IsPlainJob)
    {table : String}
    (hWord : args.word? "hnTable" = some table)
    (hTable : Identifier.isSafe table = true) :
    HasOneSource (("fromHackernews", .text table) :: args) := by
  apply HasOneSource.hackernews
  · rw [word?_cons_of_ne (by decide), hPlain.noTable]
  · exact ⟨table, word?_cons_word hWord _ _, hTable⟩
  · unfold MayHaveName
    rw [word?_cons_of_ne (by decide)]
    exact hPlain.datasource

/- A job without a schedule has the default one. -/
theorem exists_schedule
    (hEvery :
      ∀ text,
        args.word? "every" = some text →
          ∃ schedule, Schedule.ofText text = .ok schedule) :
    ∃ schedule,
      Schedule.ofText
        ((args.word? "every").getD defaultJobSchedule) =
          .ok schedule := by
  cases hWord : args.word? "every" with
  | none =>
      have hDefault :
          Schedule.ofText defaultJobSchedule =
            .ok { count := some (.integer 1), unit := .day } := by
        decide +kernel
      exact ⟨_, hDefault⟩
  | some text => exact hEvery text hWord

theorem MayHaveName.exists_objectName
    (hProject : args.MayHaveName "projectName")
    {name : String}
    (hName : Identifier.isSafe name = true) :
    ∃ object,
      ObjectName.ofRef "job name"
        { project := args.word? "projectName", name } =
          .ok object := by
  rw [ObjectName.exists_ofRef_iff]
  refine ⟨hName, ?_⟩
  intro project hGiven
  rw [given?, Option.filter_eq_some_iff] at hGiven
  exact hProject project hGiven.1

end Arguments

/- Plain arguments of a job are read as a plain job. -/
theorem NewIngestJob.exists_ofArguments
    {args : Arguments}
    (hPlain : args.IsPlainJob) :
    ∃ job,
      NewIngestJob.ofArguments args = .ok job ∧
        job.ingestion.IsPlain ∧
        (∃ name,
          ObjectName.ofRef "job name" job.ref = .ok name) ∧
        job.ingestion.idColumn =
          (args.word? "idColumn").getD "id" := by
  rcases hPlain.name with ⟨name, hNameWord, hName⟩
  rcases hPlain.hnTable with ⟨table, hTableWord, hTable⟩
  rcases Arguments.exists_schedule hPlain.every with
    ⟨schedule, hSchedule⟩
  have hSource := hPlain.hasOneSource hTableWord hTable
  rcases Ingestion.exists_ofArguments
      (hPlain.toIsPlain.cons_fromHackernews table) hSource with
    ⟨spec, hSpec, hSpecPlain, hId⟩
  rw [Arguments.word?_cons_of_ne (by decide)] at hId
  unfold ofArguments Arguments.objectRef
  rw [Arguments.word_eq_ok hNameWord,
    Arguments.word_eq_ok hTableWord, hSchedule]
  simp only [ok_bind, pure_bind, hSpec]
  exact
    ⟨_, rfl, hSpecPlain,
      hPlain.project.exists_objectName hName, hId⟩

end KbConsole
