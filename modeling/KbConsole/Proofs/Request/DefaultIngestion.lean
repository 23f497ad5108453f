import KbConsole.Proofs.Request.PlainIngestion
import KbConsole.Proofs.Sql.Ingestion

/-
  Ingestions with the default metadata.

  Where every name is safe, the default metadata are
  accepted as one object, whatever the rows are known by. As
  columns they are accepted only if the rows are known by
  the column `id`, which the defaults map to itself.

  Key definitions include:
    * `Sql.IsDefaultResult`

  The main statement is `Request.compile_of_isPlain`. That
  the exception is one is
  `Request.not_compiles_of_isPlain`.
-/

namespace KbConsole

open Sql

------------------------------------------------------------
-- Default Metadata
------------------------------------------------------------

namespace Sql

theorem isNamed_defaultColumns (table : String) :
    IsNamed (defaultColumns table).metadata := by
  unfold IsNamed defaultColumns
  split
  · decide
  · split <;> decide

/- The identifier is the first of the default metadata. -/
theorem metadata_defaultColumns (table : String) :
    ∃ others,
      (defaultColumns table).metadata =
          ("id", "id") :: unrenamed others ∧
        "content" ∉ others ∧ "id" ∉ others := by
  unfold defaultColumns
  split
  · exact
      ⟨["by", "score", "time", "descendants", "url"], rfl,
        by decide, by decide⟩
  · split
    · exact
        ⟨["by", "parent", "time"], rfl, by decide, by decide⟩
    · exact ⟨[], rfl, by decide, by decide⟩

/- Of the default metadata only `id` can take a name. -/
theorem find?_takesName_defaultColumns
    (idColumn table : String) :
    (defaultColumns table).metadata.find?
        (takesName idColumn) =
      if idColumn = "id" then none else some ("id", "id") := by
  rcases metadata_defaultColumns table with
    ⟨others, hMetadata, hContent, hId⟩
  have hOthers :
      (unrenamed others).find? (takesName idColumn) =
        none := by
    rw [List.find?_eq_none]
    intro entry hEntry
    rcases List.mem_map.mp hEntry with
      ⟨column, hColumn, rfl⟩
    have hNotContent : column ≠ "content" := by
      rintro rfl
      exact hContent hColumn
    have hNotId : column ≠ "id" := by
      rintro rfl
      exact hId hColumn
    simp [takesName, hNotContent, hNotId]
  rw [hMetadata]
  by_cases hSame : idColumn = "id"
  · rw [if_pos hSame,
      List.find?_cons_of_neg (by simp [takesName, hSame]),
      hOthers]
  · rw [if_neg hSame]
    apply List.find?_cons_of_pos
    simpa [takesName] using Ne.symm hSame

/-
  What becomes of an ingestion with the default metadata. It
  is refused only if metadata are columns and the rows are
  known by a column of another name.
-/
def IsDefaultResult
    {α : Type}
    (d : Dialect)
    (idColumn : String)
    (result : Except Problem α) : Prop :=
  if d.metadataStrategy = .columns ∧ idColumn ≠ "id" then
    result = .error (.metadataCollision "id")
  else
    ∃ value, result = .ok value

/- A step that cannot fail does not change what becomes. -/
theorem IsDefaultResult.bind
    {α β : Type}
    {d : Dialect}
    {idColumn : String}
    {first : Except Problem α}
    {second : α → Except Problem β}
    (hFirst : IsDefaultResult d idColumn first)
    (hSecond : ∀ value, ∃ result, second value = .ok result) :
    IsDefaultResult d idColumn (first >>= second) := by
  unfold IsDefaultResult at *
  split
  · rename_i hRefused
    rw [if_pos hRefused] at hFirst
    rw [hFirst]
    rfl
  · rename_i hAccepted
    rw [if_neg hAccepted] at hFirst
    rcases hFirst with ⟨value, rfl⟩
    exact hSecond value

end Sql

namespace Ingestion.IsPlain

variable {spec : Ingestion}
variable {d : Dialect}

theorem exists_isFramed
    (hPlain : spec.IsPlain)
    (incremental : Bool) :
    ∃ content id base,
      IsFramed d incremental spec content id base := by
  rcases exists_contentSource_iff.mpr
      ⟨hPlain.someContent, hPlain.content⟩ with
    ⟨content, hContent⟩
  have hLabel : Identifier.isSafe "id" = true := by decide
  rcases exists_labelled_iff.mpr
      ⟨hPlain.idColumn, hLabel⟩ with
    ⟨id, hId⟩
  rcases Identifier.exists_ofText_iff.mpr
      hPlain.knowledgeBase with
    ⟨knowledgeBase, hKnowledgeBase⟩
  rcases TableName.exists_ofRef_iff.mpr
      ⟨hPlain.datasource, hPlain.table⟩ with
    ⟨source, hSource⟩
  rcases exists_newestColumn hPlain.idColumn incremental with
    ⟨newestBy, hNewest⟩
  rcases exists_orderOf hPlain.orderBy with ⟨order, hOrder⟩
  exact
    ⟨content, id,
      { knowledgeBase, outputs := [], source, newestBy, order,
        limit := spec.limit },
      { content := hContent
        idName := hPlain.idColumn
        id := hId
        knowledgeBase := hKnowledgeBase
        source := hSource
        newestBy := hNewest
        order := hOrder
        limit := if_pos hPlain.limit }⟩

/- The insertion of a plain ingestion, once or in a job. -/
theorem isDefaultResult_insertionOf
    (hPlain : spec.IsPlain)
    (incremental : Bool) :
    IsDefaultResult d spec.idColumn
      (insertionOf d incremental spec) := by
  rcases hPlain.exists_isFramed incremental with
    ⟨content, id, base, hFrame⟩
  have hNamed : IsNamed spec.columns.metadata := by
    rw [hPlain.metadata]
    exact isNamed_defaultColumns spec.source.table
  -- The safe names leave a collision as the only failure,
  -- and only columns can collide.
  unfold IsDefaultResult
  cases hStrategy : d.metadataStrategy with
  | json =>
      rcases exists_metadataMembers_iff.mpr hNamed with
        ⟨members, hMembers⟩
      rw [if_neg (by simp),
        hFrame.insertionOf_object hStrategy, hMembers]
      exact ⟨_, rfl⟩
  | columns =>
      rw [hFrame.insertionOf_columns hStrategy,
        metadataOutputs_of_isNamed hNamed, hPlain.metadata,
        find?_takesName_defaultColumns]
      by_cases hId : spec.idColumn = "id"
      · rw [hPlain.metadata] at hNamed
        rw [if_pos hId, if_neg (fun hRefused => hRefused.2 hId)]
        rcases exists_mapM_labelled (d := d) hNamed with
          ⟨outputs, hOutputs⟩
        rw [hOutputs]
        exact ⟨_, rfl⟩
      · rw [if_neg hId, if_pos ⟨rfl, hId⟩]
        rfl

end Ingestion.IsPlain

namespace Request

variable {d : Dialect}
variable {spec : Ingestion}

theorem isDefaultResult_compile_ingest
    (hPlain : spec.IsPlain) :
    IsDefaultResult d spec.idColumn
      ((ingest spec).compile d) := by
  rcases exists_frontOf hPlain.datasource with
    ⟨front, hFront⟩
  rw [compile_ingest, hFront, ok_bind]
  apply (hPlain.isDefaultResult_insertionOf false).bind
  intro insertion
  exact ⟨_, rfl⟩

theorem isDefaultResult_compile_job
    {job : NewIngestJob}
    (hPlain : job.ingestion.IsPlain)
    (hName :
      ∃ name, ObjectName.ofRef "job name" job.ref = .ok name) :
    IsDefaultResult d job.ingestion.idColumn
      ((createIngestJob job).compile d) := by
  rcases hName with ⟨name, hName⟩
  rcases exists_datasourceStatement hPlain.datasource with
    ⟨datasource, hDatasource⟩
  have hStatements :
      IsDefaultResult d job.ingestion.idColumn
        (ingestionJobStatements d job) := by
    unfold ingestionJobStatements
    rw [hDatasource, hName]
    apply (hPlain.isDefaultResult_insertionOf true).bind
    intro insertion
    exact ⟨_, rfl⟩
  apply hStatements.bind
  intro statements
  exact ⟨_, rfl⟩

/-
  Plain arguments make a request, and it compiles unless
  metadata are columns and the rows are known by a column
  other than `id`.
-/
theorem compile_of_isPlain
    {op : Operation}
    {args : Arguments}
    (hRequest : IsPlainRequest op args)
    (settings : Settings)
    (d : Dialect) :
    ∃ request,
      Request.ofArguments op args settings = .ok request ∧
        IsDefaultResult d
          ((args.word? "idColumn").getD "id")
          (request.compile d) := by
  cases hRequest with
  | ingest hPlain hSource =>
      rcases Ingestion.exists_ofArguments hPlain hSource with
        ⟨spec, hSpec, hSpecPlain, hId⟩
      refine ⟨.ingest spec, ?_, ?_⟩
      · simp only [ofArguments, hSpec, ok_bind]
        rfl
      · rw [← hId]
        exact isDefaultResult_compile_ingest hSpecPlain
  | job hPlain =>
      rcases NewIngestJob.exists_ofArguments hPlain with
        ⟨job, hJob, hJobPlain, hName, hId⟩
      refine ⟨.createIngestJob job, ?_, ?_⟩
      · simp only [ofArguments, hJob, ok_bind]
        rfl
      · rw [← hId]
        exact isDefaultResult_compile_job hJobPlain hName

/- Posts of a warehouse, known by a column of their own. -/
def postsArguments : Arguments :=
  [("kbName", .text "kb"), ("from", .text "warehouse.posts"),
    ("idColumn", .text "post_id")]

/- The ingestion of these posts. -/
def postsIngestion : Ingestion where
  knowledgeBase := "kb"
  source := { datasource := "warehouse", table := "posts" }
  columns := { content := ["text"], metadata := [("id", "id")] }
  idColumn := "post_id"
  limit := .integer 100
  ensureDatasource := false

theorem isPlainRequest_posts :
    IsPlainRequest .ingest postsArguments := by
  have hNone
      (key : String)
      (hKey : postsArguments.word? key = none)
      (P : String → Prop) :
      ∀ text,
        postsArguments.word? key = some text → P text := by
    intro text hText
    rw [hKey] at hText
    cases hText
  apply IsPlainRequest.ingest
  · constructor
    · exact ⟨"kb", by decide +kernel, by decide⟩
    · rfl
    · exact hNone "contentColumns" rfl _
    · intro name hName
      have hWord :
          postsArguments.word? "idColumn" = some "post_id" := by
        decide +kernel
      rw [hWord] at hName
      cases hName
      decide
    · exact hNone "limit" rfl _
    · exact hNone "orderBy" rfl _
  · have hFrom :
        postsArguments.word? "from" = some "warehouse.posts" := by
      decide +kernel
    have hParts :
        trimmedParts '.' "warehouse.posts" =
          ["warehouse", "posts"] := by
      decide +kernel
    exact .table hFrom rfl hParts (by decide) (by decide)

/- The posts compile with the metadata as one object only. -/
theorem compile_of_isPlain_posts :
    IsPlainRequest .ingest postsArguments ∧
      ∀ d : Dialect,
        ∃ request,
          Request.ofArguments .ingest postsArguments {} =
              .ok request ∧
            IsDefaultResult d
              ((postsArguments.word? "idColumn").getD "id")
              (request.compile d) :=
  ⟨isPlainRequest_posts,
    fun d => compile_of_isPlain isPlainRequest_posts {} d⟩

/- Plain arguments do not always compile. -/
theorem not_compiles_of_isPlain :
    ¬ ∀ (op : Operation) (args : Arguments)
        (settings : Settings) (d : Dialect),
      IsPlainRequest op args →
        ∃ request texts,
          Request.ofArguments op args settings = .ok request ∧
            request.compile d = .ok texts := by
  intro hAll
  rcases hAll .ingest postsArguments {} {}
      isPlainRequest_posts with
    ⟨request, texts, hRequest, hTexts⟩
  simp only [ofArguments, bind_eq_ok_iff, pure_eq_ok_iff]
    at hRequest
  rcases hRequest with ⟨spec, hSpec, rfl⟩
  have hPosts :
      Ingestion.ofArguments postsArguments =
        .ok postsIngestion := by
    decide +kernel
  rw [hPosts] at hSpec
  obtain rfl := Except.ok.inj hSpec
  have hCollision :
      (ingest postsIngestion).compile {} =
        .error (.metadataCollision "id") := by
    decide +kernel
  rw [hCollision] at hTexts
  cases hTexts

end Request

end KbConsole
