import KbConsole.Proofs.Sql.Ingestion

/-
  Ingestions under the two strategies for metadata.

  Both strategies select the declared columns, as columns or
  as members of one object, and put the same text around
  them. Columns are refused where their names collide, and
  this is the only difference in what is accepted.

  Key definitions include:
    * `Sql.Dialect.withStrategy`
    * `Ingestion.SelectsColumns`, `Ingestion.SelectsObject`
    * `Ingestion.StrategiesAgree`

  The main statement is
  `Request.compile_ingest_strategies`.
-/

namespace KbConsole

open Sql

namespace Sql

/- The dialect with the given strategy for metadata. -/
def Dialect.withStrategy
    (d : Dialect)
    (strategy : MetadataStrategy) : Dialect :=
  { d with metadataStrategy := strategy }

variable {d : Dialect}

/- A frame does not depend on the strategy. -/
theorem IsFramed.withStrategy
    {incremental : Bool}
    {spec : Ingestion}
    {content : Source}
    {id : Output}
    {base : Insertion}
    (hFrame : IsFramed d incremental spec content id base)
    (strategy : MetadataStrategy) :
    IsFramed (d.withStrategy strategy) incremental spec
      content id base where
  content := hFrame.content
  idName := hFrame.idName
  id := hFrame.id
  knowledgeBase := hFrame.knowledgeBase
  source := hFrame.source
  newestBy := hFrame.newestBy
  order := hFrame.order
  limit := hFrame.limit

/- The content is selected from the given columns. -/
structure Output.ShowsContent
    (o : Output)
    (columns : List String) : Prop where
  name : o.name? = some "content"
  columns : o.source.columnNames = columns

theorem metadataMembers_withStrategy
    (strategy : MetadataStrategy)
    (metadata : List (String × String)) :
    metadataMembers (d.withStrategy strategy) metadata =
      metadataMembers d metadata :=
  rfl

theorem metadataOutputs_withStrategy
    (strategy : MetadataStrategy)
    (idColumn : String)
    (metadata : List (String × String)) :
    metadataOutputs (d.withStrategy strategy) idColumn
        metadata =
      metadataOutputs d idColumn metadata := by
  induction metadata with
  | nil => rfl
  | cons entry metadata ih =>
      unfold metadataOutputs
      rw [ih]
      rfl

end Sql

------------------------------------------------------------
-- Strategies
------------------------------------------------------------

namespace Ingestion

/-
  The names of what is selected when each key of the
  metadata is a column of its own.
-/
def outputNames (spec : Ingestion) : List String :=
  "content" :: "id" ::
    (Keyed.keys spec.columns.metadata).filter (· != "id")

/- The source of each column beside the content. -/
def shownColumns
    (spec : Ingestion) : List (String × String) :=
  ("id", spec.idColumn) ::
    spec.columns.metadata.filter (·.1 != "id")

/- An insertion selects the metadata as columns. -/
structure SelectsColumns
    (spec : Ingestion)
    (i : Insertion) : Prop where
  targets : i.targets = []
  names :
    i.outputs.map Output.name? = spec.outputNames.map some
  distinct : spec.outputNames.Nodup
  outputs :
    ∃ content columns,
      i.outputs = content :: columns ∧
        content.ShowsContent spec.columns.content ∧
        List.Forall₂
          (fun entry o => Output.Shows o entry.1 entry.2)
          spec.shownColumns columns

/- An insertion selects the metadata as one object. -/
structure SelectsObject
    (spec : Ingestion)
    (i : Insertion) : Prop where
  targets : i.targets = ["content", "metadata", "id"]
  outputs :
    ∃ content id members,
      i.outputs = [content, objectOutput members, id] ∧
        content.ShowsContent spec.columns.content ∧
        id.Shows "id" spec.idColumn ∧
        members.map (fun m => (m.1.text, m.2.name.text)) =
          spec.columns.metadata

/-
  The results under the two strategies, columns first. They
  fail together, except for a collision of metadata; and
  they have the same text around what is selected.
-/
def StrategiesAgree
    (d : Dialect)
    (spec : Ingestion) :
    Except Problem (List String) →
      Except Problem (List String) → Prop
  | .error _, .error _ => True
  | .ok _, .error _ => False
  | .error problem, .ok texts =>
      (problem.kind = .invalidValue ∧
        problem.field? = some "--metadata-map") ∧
        ∃ front i,
          texts = i.textsAfter d front ∧ spec.SelectsObject i
  | .ok columnTexts, .ok texts =>
      ∃ front i j,
        columnTexts = i.textsAfter d front ∧
          texts = j.textsAfter d front ∧
          spec.SelectsColumns i ∧
          spec.SelectsObject j ∧
          i.tailText = j.tailText

variable {d : Dialect}
variable {spec : Ingestion}
variable {content : Sql.Source}
variable {id : Output}
variable {base : Insertion}

theorem showsContent
    (hFrame : IsFramed d false spec content id base) :
    (contentOutput content).ShowsContent
      spec.columns.content where
  name := rfl
  columns := columnNames_of_contentSource hFrame.content

theorem selectsObject
    (hFrame : IsFramed d false spec content id base)
    {members : List (Identifier × Column)}
    (hMembers :
      metadataMembers d spec.columns.metadata =
        .ok members) :
    spec.SelectsObject
      (base.withObject content id members) where
  targets := rfl
  outputs :=
    ⟨_, _, _, rfl, showsContent hFrame,
      shows_of_labelled hFrame.id,
      map_metadataMembers hMembers⟩

/- No key takes a name, so the names stay distinct. -/
theorem nodup_outputNames
    (hDistinct : (Keyed.keys spec.columns.metadata).Nodup)
    (hFree :
      ∀ entry ∈ spec.columns.metadata,
        takesName spec.idColumn entry = false) :
    spec.outputNames.Nodup := by
  have hContent :
      "content" ∉ Keyed.keys spec.columns.metadata := by
    intro hMember
    rcases List.mem_map.mp hMember with
      ⟨entry, hEntry, hKey⟩
    have hEntryFree := hFree entry hEntry
    simp [takesName, hKey] at hEntryFree
  unfold outputNames
  simp only [List.nodup_cons, List.mem_cons, List.mem_filter]
  refine ⟨?_, ?_, hDistinct.filter _⟩
  · rintro (hId | hMember)
    · exact absurd hId (by decide)
    · exact hContent hMember.1
  · rintro ⟨-, hId⟩
    exact absurd hId (by decide)

theorem keys_shownColumns :
    Keyed.keys spec.shownColumns =
      "id" ::
        (Keyed.keys spec.columns.metadata).filter
          (· != "id") := by
  unfold shownColumns Keyed.keys
  rw [List.map_cons, List.filter_map]
  rfl

theorem names_of_shows
    {entries : List (String × String)}
    {outputs : List Output}
    (hShows :
      List.Forall₂
        (fun entry o => Output.Shows o entry.1 entry.2)
        entries outputs) :
    outputs.map Output.name? =
      (Keyed.keys entries).map some := by
  induction hShows with
  | nil => rfl
  | cons hFirst _ ih =>
      rw [List.map_cons, ih, hFirst.name]
      rfl

theorem selectsColumns
    (hFrame : IsFramed d false spec content id base)
    (hDistinct : (Keyed.keys spec.columns.metadata).Nodup)
    {metadata : List Output}
    (hMetadata :
      metadataOutputs d spec.idColumn
        spec.columns.metadata = .ok metadata) :
    spec.SelectsColumns
      (base.withColumns content id metadata) := by
  have hShown := metadataOutputs_eq_ok hMetadata
  have hColumns :
      List.Forall₂
        (fun entry o => Output.Shows o entry.1 entry.2)
        spec.shownColumns (id :: metadata) :=
    List.Forall₂.cons (shows_of_labelled hFrame.id) hShown.2
  have hNames := names_of_shows hColumns
  rw [keys_shownColumns] at hNames
  exact
    { targets := rfl
      names := congrArg (some "content" :: ·) hNames
      distinct := nodup_outputNames hDistinct hShown.1
      outputs :=
        ⟨_, _, rfl, showsContent hFrame, hColumns⟩ }

end Ingestion

namespace Request

variable {d : Dialect}
variable {spec : Ingestion}

/- An ingestion that compiles has a front and a frame. -/
theorem exists_isFramed_of_compile
    {strategy : MetadataStrategy}
    {texts : List String}
    (hTexts :
      (ingest spec).compile (d.withStrategy strategy) =
        .ok texts) :
    ∃ front content id base,
      frontOf spec = .ok front ∧
        IsFramed d false spec content id base := by
  simp only [compile_ingest, bind_eq_ok_iff] at hTexts
  rcases hTexts with ⟨front, hFront, insertion, hInsertion, -⟩
  rcases exists_isFramed hInsertion with
    ⟨content, id, base, hFrame⟩
  exact
    ⟨front, content, id, base, hFront,
      hFrame.withStrategy d.metadataStrategy⟩

section

variable {front : List Statement}
variable {content : Sql.Source}
variable {id : Output}
variable {base : Insertion}

theorem compile_ingest_columns
    (hFront : frontOf spec = .ok front)
    (hFrame : IsFramed d false spec content id base) :
    (ingest spec).compile (d.withStrategy .columns) =
      (metadataOutputs d spec.idColumn
        spec.columns.metadata).map fun metadata =>
          (base.withColumns content id metadata).textsAfter d
            (front.map (Statement.text d)) := by
  rw [compile_ingest, hFront, ok_bind, bind_pure_eq_map,
    (hFrame.withStrategy .columns).insertionOf_columns rfl,
    metadataOutputs_withStrategy, map_map]
  rfl

theorem compile_ingest_object
    (hFront : frontOf spec = .ok front)
    (hFrame : IsFramed d false spec content id base) :
    (ingest spec).compile (d.withStrategy .json) =
      (metadataMembers d spec.columns.metadata).map
        fun members =>
          (base.withObject content id members).textsAfter d
            (front.map (Statement.text d)) := by
  rw [compile_ingest, hFront, ok_bind, bind_pure_eq_map,
    (hFrame.withStrategy .json).insertionOf_object rfl,
    metadataMembers_withStrategy, map_map]
  rfl

end

/-
  Under both strategies the declared columns are selected,
  inside the same text. What compiles as an object but not
  as columns has a metadata key whose name is taken.
-/
theorem compile_ingest_strategies
    (d : Dialect)
    (spec : Ingestion)
    (hDistinct : (Keyed.keys spec.columns.metadata).Nodup) :
    spec.StrategiesAgree d
      ((ingest spec).compile (d.withStrategy .columns))
      ((ingest spec).compile (d.withStrategy .json)) := by
  -- Without a front and a frame both strategies fail. With
  -- them the results differ in the metadata alone.
  by_cases hParts :
      ∃ front content id base,
        frontOf spec = .ok front ∧
          IsFramed d false spec content id base
  · rcases hParts with
      ⟨front, content, id, base, hFront, hFrame⟩
    rw [compile_ingest_columns hFront hFrame,
      compile_ingest_object hFront hFrame]
    cases hMembers :
        metadataMembers d spec.columns.metadata with
    | error problem =>
        cases hMetadata :
            metadataOutputs d spec.idColumn
              spec.columns.metadata with
        | error other => exact trivial
        | ok metadata =>
            -- Columns are checked at least as strictly.
            have hNamed := isNamed_of_metadataOutputs hMetadata
            rcases exists_metadataMembers_iff.mpr hNamed with
              ⟨members, hFound⟩
            rw [hMembers] at hFound
            cases hFound
    | ok members =>
        have hObject :=
          Ingestion.selectsObject hFrame hMembers
        cases hMetadata :
            metadataOutputs d spec.idColumn
              spec.columns.metadata with
        | error problem =>
            have hNamed :=
              exists_metadataMembers_iff.mp ⟨members, hMembers⟩
            rcases metadataOutputs_eq_error hNamed hMetadata with
              ⟨entry, -, -, rfl⟩
            exact ⟨⟨rfl, rfl⟩, _, _, rfl, hObject⟩
        | ok metadata =>
            have hColumns :=
              Ingestion.selectsColumns hFrame hDistinct
                hMetadata
            exact
              ⟨_, _, _, rfl, rfl, hColumns, hObject, rfl⟩
  · have hFails (strategy : MetadataStrategy) :
        ∃ problem,
          (ingest spec).compile (d.withStrategy strategy) =
            .error problem := by
      cases hTexts :
          (ingest spec).compile (d.withStrategy strategy) with
      | error problem => exact ⟨problem, rfl⟩
      | ok texts =>
          exact absurd (exists_isFramed_of_compile hTexts)
            hParts
    rcases hFails .columns with ⟨first, hFirst⟩
    rcases hFails .json with ⟨second, hSecond⟩
    rw [hFirst, hSecond]
    exact trivial

/-
  Posts that are known by a column of their own, with a key
  that repeats it and a source that is a reserved word.
-/
def posts : Ingestion where
  knowledgeBase := "kb"
  source := { datasource := "warehouse", table := "posts" }
  columns :=
    { content := ["title", "body"]
      metadata :=
        [("id", "post_id"), ("author", "user"),
          ("score", "score")] }
  idColumn := "post_id"
  limit := .integer 10
  orderBy := some { column := "time" }
  ensureDatasource := false

theorem compile_ingest_strategies_posts :
    (Keyed.keys posts.columns.metadata).Nodup ∧
      (ingest posts).compile
          (Dialect.withStrategy {} .columns) =
        .ok
          ["INSERT INTO kb SELECT COALESCE(title, '')" ++
            " || ' ' || COALESCE(body, '') AS content, " ++
            "post_id AS id, \x60user\x60 AS author, score" ++
            " FROM warehouse.posts" ++
            " ORDER BY \x60time\x60 LIMIT 10;"] ∧
      (ingest posts).compile
          (Dialect.withStrategy {} .json) =
        .ok
          ["INSERT INTO kb (content, metadata, id) " ++
            "SELECT COALESCE(title, '')" ++
            " || ' ' || COALESCE(body, '') AS content, " ++
            "JSON_OBJECT('id', post_id, " ++
            "'author', \x60user\x60, 'score', score)" ++
            " AS metadata, post_id AS id" ++
            " FROM warehouse.posts" ++
            " ORDER BY \x60time\x60 LIMIT 10;"] ∧
      posts.StrategiesAgree {}
        ((ingest posts).compile
          (Dialect.withStrategy {} .columns))
        ((ingest posts).compile
          (Dialect.withStrategy {} .json)) :=
  ⟨by decide, by decide +kernel, by decide +kernel,
    compile_ingest_strategies {} posts (by decide)⟩

end Request

end KbConsole
