import KbConsole.Proofs.Keyed
import KbConsole.Proofs.Sql.Name
import KbConsole.Sql.Compile

/-
  What an ingestion inserts.

  An insertion is a frame, which does not depend on the
  strategy for metadata, around what is selected for the
  metadata: one object of all keys, or a column for each
  key, where a key whose name is taken is refused.

  Key definitions include:
    * `Output.Shows`
    * `IsNamed`, `takesName`
    * `IsFramed`
    * `Insertion.textsAfter`

  The main statements are `metadataOutputs_of_isNamed`,
  which says what becomes of metadata with safe names,
  `IsFramed.insertionOf_columns` and
  `IsFramed.insertionOf_object`, and `compile_ingest`.
-/

namespace KbConsole

namespace Sql

variable {d : Dialect}

------------------------------------------------------------
-- Outputs
------------------------------------------------------------

/- The names of the columns that a source reads. -/
def Source.columnNames : Source → List String
  | .column c => [c.name.text]
  | .joined cs => cs.map (·.name.text)
  | .object members => members.map (·.2.name.text)

namespace Output

/-
  The name of an output: its label, or the name of the
  column that it is. Backquotes are no part of it.
-/
def name? (o : Output) : Option String :=
  match o.label, o.source with
  | some label, _ => some label.name.text
  | none, .column column => some column.name.text
  | none, _ => none

/- An output is one column, under the given name. -/
structure Shows
    (o : Output)
    (name source : String) : Prop where
  name : o.name? = some name
  column :
    ∃ column : Column,
      o.source = .column column ∧ column.name.text = source

end Output

theorem exists_labelled_iff {source label : String} :
    (∃ o, labelled d source label = .ok o) ↔
      Identifier.isSafe source = true ∧
        Identifier.isSafe label = true := by
  constructor
  · rintro ⟨o, hOutput⟩
    simp only [labelled, bind_eq_ok_iff] at hOutput
    rcases hOutput with ⟨column, hColumn, hOutput⟩
    have hSource : Identifier.isSafe source = true :=
      Column.exists_ofText_iff.mp ⟨column, hColumn⟩
    by_cases hSame : source = label
    · exact ⟨hSource, hSame ▸ hSource⟩
    · simp only [if_neg hSame, bind_eq_ok_iff] at hOutput
      rcases hOutput with ⟨name, hName, -⟩
      have hLabel : Identifier.isSafe label = true :=
        Column.exists_ofText_iff.mp ⟨name, hName⟩
      exact ⟨hSource, hLabel⟩
  · rintro ⟨hSource, hLabel⟩
    rcases Column.exists_ofText_iff.mpr hSource with
      ⟨column, hColumn⟩
    rcases Column.exists_ofText_iff.mpr hLabel with
      ⟨name, hName⟩
    unfold labelled
    rw [hColumn, ok_bind]
    by_cases hSame : source = label
    · rw [if_pos hSame]
      exact ⟨_, rfl⟩
    · rw [if_neg hSame, hName]
      exact ⟨_, rfl⟩

theorem shows_of_labelled
    {source label : String}
    {o : Output}
    (hOutput : labelled d source label = .ok o) :
    o.Shows label source := by
  simp only [labelled, bind_eq_ok_iff] at hOutput
  rcases hOutput with ⟨column, hColumn, hOutput⟩
  have hSource := Column.name_of_ofText hColumn
  by_cases hSame : source = label
  · rw [if_pos hSame, pure_eq_ok_iff] at hOutput
    subst hOutput
    exact
      ⟨congrArg some (hSource.trans hSame), column, rfl,
        hSource⟩
  · simp only [if_neg hSame, bind_eq_ok_iff, pure_eq_ok_iff]
      at hOutput
    rcases hOutput with ⟨name, hName, rfl⟩
    exact
      ⟨congrArg some (Column.name_of_ofText hName), column,
        rfl, hSource⟩

------------------------------------------------------------
-- Content
------------------------------------------------------------

/- A text names some content when all its columns are safe. -/
theorem exists_contentSource_iff {columns : List String} :
    (∃ content, contentSource d columns = .ok content) ↔
      columns ≠ [] ∧
        ∀ column ∈ columns,
          Identifier.isSafe column = true := by
  have hColumns :
      (∃ found,
        columnsOf d "content column" columns = .ok found) ↔
        ∀ column ∈ columns,
          Identifier.isSafe column = true := by
    unfold columnsOf
    rw [exists_mapM_iff]
    apply forall₂_congr
    intro column _
    exact Column.exists_ofText_iff
  rw [← hColumns]
  unfold contentSource
  by_cases hNone : columns = []
  · simp [hNone]
  · have hSome : ¬ columns.isEmpty = true := by
      simpa using hNone
    simp only [if_neg hSome, bind_eq_ok_iff]
    constructor
    · rintro ⟨_, found, hFound, -⟩
      exact ⟨hNone, found, hFound⟩
    · rintro ⟨-, found, hFound⟩
      rcases found with _ | ⟨first, _ | ⟨second, rest⟩⟩
      · exact ⟨_, _, hFound, rfl⟩
      · exact ⟨_, _, hFound, rfl⟩
      · exact ⟨_, _, hFound, rfl⟩

theorem names_of_columnsOf
    {field : String}
    {names : List String}
    {columns : List Column}
    (hColumns : columnsOf d field names = .ok columns) :
    columns.map (·.name.text) = names := by
  unfold columnsOf at hColumns
  rw [mapM_eq_ok_iff] at hColumns
  induction hColumns with
  | nil => rfl
  | cons hColumn _ ih =>
      rw [List.map_cons, ih, Column.name_of_ofText hColumn]

theorem columnNames_of_contentSource
    {columns : List String}
    {content : Source}
    (hContent : contentSource d columns = .ok content) :
    content.columnNames = columns := by
  unfold contentSource at hContent
  split at hContent
  · cases hContent
  · simp only [bind_eq_ok_iff] at hContent
    rcases hContent with ⟨found, hFound, hContent⟩
    have hNames := names_of_columnsOf hFound
    split at hContent
    · cases hContent
      exact hNames
    · cases hContent
      exact hNames

------------------------------------------------------------
-- Metadata
------------------------------------------------------------

/- The key and the source of each entry are safe names. -/
def IsNamed (metadata : List (String × String)) : Prop :=
  ∀ entry ∈ metadata,
    Identifier.isSafe entry.1 = true ∧
      Identifier.isSafe entry.2 = true

/- A metadata entry takes the name of another column. -/
def takesName
    (idColumn : String)
    (entry : String × String) : Bool :=
  entry.1 = "content" ∨
    (entry.1 = "id" ∧ entry.2 ≠ idColumn)

theorem isNamed_cons
    {entry : String × String}
    {metadata : List (String × String)} :
    IsNamed (entry :: metadata) ↔
      (Identifier.isSafe entry.1 = true ∧
        Identifier.isSafe entry.2 = true) ∧
        IsNamed metadata :=
  List.forall_mem_cons

theorem exists_metadataMembers_iff
    {metadata : List (String × String)} :
    (∃ members, metadataMembers d metadata = .ok members) ↔
      IsNamed metadata := by
  unfold metadataMembers IsNamed
  rw [exists_mapM_iff]
  apply forall₂_congr
  intro entry _
  simp only [bind_eq_ok_iff, pure_eq_ok_iff]
  constructor
  · rintro ⟨_, key, hKey, column, hColumn, -⟩
    exact
      ⟨Identifier.exists_ofText_iff.mp ⟨key, hKey⟩,
        Column.exists_ofText_iff.mp ⟨column, hColumn⟩⟩
  · rintro ⟨hKey, hSource⟩
    rcases Identifier.exists_ofText_iff.mpr hKey with
      ⟨key, hKey⟩
    rcases Column.exists_ofText_iff.mpr hSource with
      ⟨column, hColumn⟩
    exact ⟨_, key, hKey, column, hColumn, rfl⟩

/- The members of the object are the declared pairs. -/
theorem map_metadataMembers
    {metadata : List (String × String)}
    {members : List (Identifier × Column)}
    (hMembers : metadataMembers d metadata = .ok members) :
    members.map (fun m => (m.1.text, m.2.name.text)) =
      metadata := by
  unfold metadataMembers at hMembers
  rw [mapM_eq_ok_iff] at hMembers
  induction hMembers with
  | nil => rfl
  | cons hEntry _ ih =>
      simp only [bind_eq_ok_iff, pure_eq_ok_iff] at hEntry
      rcases hEntry with ⟨key, hKey, column, hColumn, rfl⟩
      rw [List.map_cons, ih,
        Identifier.ofText_eq_ok_iff.mp hKey,
        Column.name_of_ofText hColumn]

theorem isNamed_of_metadataOutputs
    {idColumn : String}
    {metadata : List (String × String)}
    {outputs : List Output}
    (hOutputs :
      metadataOutputs d idColumn metadata = .ok outputs) :
    IsNamed metadata := by
  induction metadata generalizing outputs with
  | nil => exact List.forall_mem_nil _
  | cons entry metadata ih =>
      rcases entry with ⟨key, source⟩
      simp only [metadataOutputs, bind_eq_ok_iff] at hOutputs
      rcases hOutputs with ⟨_, hKey, _, hSource, hOutputs⟩
      have hRest : IsNamed metadata := by
        split at hOutputs
        · cases hOutputs
        · split at hOutputs
          · exact ih hOutputs
          · simp only [bind_eq_ok_iff] at hOutputs
            rcases hOutputs with ⟨_, _, _, hOthers, -⟩
            exact ih hOthers
      exact isNamed_cons.mpr
        ⟨⟨Identifier.exists_ofText_iff.mp ⟨_, hKey⟩,
            Identifier.exists_ofText_iff.mp ⟨_, hSource⟩⟩,
          hRest⟩

/-
  Metadata with safe names: the first entry that takes the
  name of another column is refused; if there is none, every
  key but the identifier becomes a column.
-/
theorem metadataOutputs_of_isNamed
    {idColumn : String}
    {metadata : List (String × String)}
    (hNamed : IsNamed metadata) :
    metadataOutputs d idColumn metadata =
      match metadata.find? (takesName idColumn) with
      | some entry => .error (.metadataCollision entry.1)
      | none =>
          (metadata.filter (·.1 != "id")).mapM fun entry =>
            labelled d entry.2 entry.1 := by
  induction metadata with
  | nil => rfl
  | cons entry metadata ih =>
      rcases entry with ⟨key, source⟩
      rcases isNamed_cons.mp hNamed with ⟨hEntry, hRest⟩
      rcases Identifier.exists_ofText_iff.mpr hEntry.1 with
        ⟨name, hKey⟩
      rcases Identifier.exists_ofText_iff.mpr hEntry.2 with
        ⟨column, hSource⟩
      rw [metadataOutputs, hKey, hSource, ih hRest]
      -- Three branches: a taken name, the identifier once
      -- more, and a column of its own.
      by_cases hTaken :
          key = "content" ∨ (key = "id" ∧ source ≠ idColumn)
      · have hFound :
            takesName idColumn (key, source) = true :=
          decide_eq_true hTaken
        rw [List.find?_cons_of_pos hFound]
        exact if_pos hTaken
      · have hPassed :
            takesName idColumn (key, source) = false :=
          decide_eq_false hTaken
        rw [List.find?_cons_of_neg (by simp [hPassed])]
        by_cases hId : key = "id"
        · rw [List.filter_cons_of_neg (by simp [hId])]
          exact (if_neg hTaken).trans (if_pos hId)
        · rw [List.filter_cons_of_pos (by simp [hId])]
          rcases (exists_labelled_iff (d := d)).mpr
              hEntry.symm with
            ⟨first, hFirst⟩
          rw [List.mapM_cons, hFirst, ok_bind, ok_bind,
            if_neg hTaken, if_neg hId]
          cases metadata.find? (takesName idColumn) with
          | none => rfl
          | some other => rfl

theorem exists_mapM_labelled
    {metadata : List (String × String)}
    (hNamed : IsNamed metadata) :
    ∃ outputs,
      ((metadata.filter (·.1 != "id")).mapM fun entry =>
        labelled d entry.2 entry.1) = .ok outputs := by
  rw [exists_mapM_iff]
  intro entry hEntry
  have hSafe := hNamed entry (List.mem_of_mem_filter hEntry)
  exact exists_labelled_iff.mpr hSafe.symm

/- What is selected for metadata without a collision. -/
theorem metadataOutputs_eq_ok
    {idColumn : String}
    {metadata : List (String × String)}
    {outputs : List Output}
    (hOutputs :
      metadataOutputs d idColumn metadata = .ok outputs) :
    (∀ entry ∈ metadata,
      takesName idColumn entry = false) ∧
      List.Forall₂
        (fun entry o => Output.Shows o entry.1 entry.2)
        (metadata.filter (·.1 != "id")) outputs := by
  rw [metadataOutputs_of_isNamed
    (isNamed_of_metadataOutputs hOutputs)] at hOutputs
  split at hOutputs
  · cases hOutputs
  · rename_i hNone
    constructor
    · simpa using hNone
    · rw [mapM_eq_ok_iff] at hOutputs
      exact hOutputs.imp fun _ _ => shows_of_labelled

/- Metadata with safe names can only fail by a collision. -/
theorem metadataOutputs_eq_error
    {idColumn : String}
    {metadata : List (String × String)}
    {problem : Problem}
    (hNamed : IsNamed metadata)
    (hOutputs :
      metadataOutputs d idColumn metadata =
        .error problem) :
    ∃ entry ∈ metadata,
      takesName idColumn entry = true ∧
        problem = .metadataCollision entry.1 := by
  rw [metadataOutputs_of_isNamed hNamed] at hOutputs
  split at hOutputs
  · rename_i entry hEntry
    cases hOutputs
    exact
      ⟨entry, List.mem_of_find?_eq_some hEntry,
        List.find?_some hEntry, rfl⟩
  · rcases exists_mapM_labelled (d := d) hNamed with
      ⟨outputs, hLabelled⟩
    rw [hLabelled] at hOutputs
    cases hOutputs

------------------------------------------------------------
-- Frames
------------------------------------------------------------

theorem finite_eq_ok_iff {n m : Number} :
    finite n = .ok m ↔ n.isFinite = true ∧ n = m := by
  unfold finite
  cases n.isFinite <;> simp

/-
  What both strategies select, and what stands around it.
  The outputs of `base` do not matter.
-/
structure IsFramed
    (d : Dialect)
    (incremental : Bool)
    (spec : Ingestion)
    (content : Source)
    (id : Output)
    (base : Insertion) : Prop where
  content :
    contentSource d spec.columns.content = .ok content
  idName : Identifier.isSafe spec.idColumn = true
  id : labelled d spec.idColumn "id" = .ok id
  knowledgeBase :
    Identifier.ofText "knowledge base name"
      spec.knowledgeBase = .ok base.knowledgeBase
  source : TableName.ofRef spec.source = .ok base.source
  newestBy :
    newestColumn d incremental spec.idColumn =
      .ok base.newestBy
  order : orderOf d spec.orderBy = .ok base.order
  limit : finite spec.limit = .ok base.limit

theorem exists_newestColumn
    {column : String}
    (hSafe : Identifier.isSafe column = true)
    (incremental : Bool) :
    ∃ newestBy,
      newestColumn d incremental column = .ok newestBy := by
  unfold newestColumn
  cases incremental with
  | false => exact ⟨none, rfl⟩
  | true =>
      rcases Column.exists_ofText_iff.mpr hSafe with
        ⟨found, hFound⟩
      rw [if_pos rfl, hFound]
      exact ⟨some found, rfl⟩

theorem exists_orderOf
    {order : Option OrderBy}
    (hSafe :
      ∀ found,
        order = some found →
          Identifier.isSafe found.column = true) :
    ∃ sorted, orderOf d order = .ok sorted := by
  cases order with
  | none => exact ⟨none, rfl⟩
  | some found =>
      rcases Column.exists_ofText_iff.mpr
          (hSafe found rfl) with
        ⟨column, hColumn⟩
      simp only [orderOf, bind_eq_ok_iff]
      exact ⟨_, column, hColumn, rfl⟩

/- The content of ingested rows, under its name. -/
def contentOutput (content : Source) : Output :=
  { source := content, label := some contentLabel }

/- The metadata of ingested rows as one object. -/
def objectOutput
    (members : List (Identifier × Column)) : Output :=
  { source := .object members, label := some metadataLabel }

namespace Insertion

/- What is selected instead of the outputs of `base`. -/
def selecting
    (base : Insertion)
    (targets : List String)
    (outputs : List Output) : Insertion :=
  { base with targets, outputs }

/- The insertion that selects the metadata as columns. -/
def withColumns
    (base : Insertion)
    (content : Source)
    (id : Output)
    (metadata : List Output) : Insertion :=
  base.selecting []
    (contentOutput content :: id :: metadata)

/- The insertion that selects the metadata as one object. -/
def withObject
    (base : Insertion)
    (content : Source)
    (id : Output)
    (members : List (Identifier × Column)) : Insertion :=
  base.selecting ["content", "metadata", "id"]
    [contentOutput content, objectOutput members, id]

end Insertion

namespace IsFramed

variable {incremental : Bool}
variable {spec : Ingestion}
variable {content : Source}
variable {id : Output}
variable {base : Insertion}

theorem ingestionOutputs_columns
    (hFrame : IsFramed d incremental spec content id base)
    (hStrategy : d.metadataStrategy = .columns) :
    ingestionOutputs d spec =
      (metadataOutputs d spec.idColumn
        spec.columns.metadata).map fun metadata =>
          ([], contentOutput content :: id :: metadata) := by
  rcases Identifier.exists_ofText_iff.mpr hFrame.idName with
    ⟨idName, hIdName⟩
  unfold ingestionOutputs
  rw [hFrame.content, hIdName, hFrame.id, hStrategy]
  rfl

theorem ingestionOutputs_object
    (hFrame : IsFramed d incremental spec content id base)
    (hStrategy : d.metadataStrategy = .json) :
    ingestionOutputs d spec =
      (metadataMembers d spec.columns.metadata).map
        fun members =>
          (["content", "metadata", "id"],
            [contentOutput content, objectOutput members,
              id]) := by
  rcases Identifier.exists_ofText_iff.mpr hFrame.idName with
    ⟨idName, hIdName⟩
  unfold ingestionOutputs
  rw [hFrame.content, hIdName, hFrame.id, hStrategy]
  rfl

theorem insertionOf_eq_map
    (hFrame : IsFramed d incremental spec content id base) :
    insertionOf d incremental spec =
      (ingestionOutputs d spec).map fun selected =>
        base.selecting selected.1 selected.2 := by
  unfold insertionOf
  rw [hFrame.knowledgeBase, hFrame.source, hFrame.newestBy,
    hFrame.order, hFrame.limit]
  rfl

theorem insertionOf_columns
    (hFrame : IsFramed d incremental spec content id base)
    (hStrategy : d.metadataStrategy = .columns) :
    insertionOf d incremental spec =
      (metadataOutputs d spec.idColumn
        spec.columns.metadata).map
          (base.withColumns content id) := by
  rw [hFrame.insertionOf_eq_map,
    hFrame.ingestionOutputs_columns hStrategy, map_map]
  rfl

theorem insertionOf_object
    (hFrame : IsFramed d incremental spec content id base)
    (hStrategy : d.metadataStrategy = .json) :
    insertionOf d incremental spec =
      (metadataMembers d spec.columns.metadata).map
        (base.withObject content id) := by
  rw [hFrame.insertionOf_eq_map,
    hFrame.ingestionOutputs_object hStrategy, map_map]
  rfl

end IsFramed

/- An insertion that is made has a frame. -/
theorem exists_isFramed
    {incremental : Bool}
    {spec : Ingestion}
    {insertion : Insertion}
    (hInsertion :
      insertionOf d incremental spec = .ok insertion) :
    ∃ content id base,
      IsFramed d incremental spec content id base := by
  simp only [insertionOf, ingestionOutputs, bind_eq_ok_iff,
    pure_eq_ok_iff] at hInsertion
  rcases hInsertion with
    ⟨selected,
      ⟨content, hContent, idName, hIdName, id, hId, -⟩,
      knowledgeBase, hKnowledgeBase, source, hSource,
      newestBy, hNewestBy, order, hOrder, limit, hLimit, -⟩
  exact
    ⟨content, id,
      { knowledgeBase, outputs := [], source, newestBy, order,
        limit },
      { content := hContent
        idName := Identifier.exists_ofText_iff.mp
          ⟨idName, hIdName⟩
        id := hId
        knowledgeBase := hKnowledgeBase
        source := hSource
        newestBy := hNewestBy
        order := hOrder
        limit := hLimit }⟩

------------------------------------------------------------
-- Texts
------------------------------------------------------------

namespace Insertion

/- An insertion up to its projection. -/
def headText (i : Insertion) : String :=
  "INSERT INTO " ++ i.knowledgeBase.text ++ i.targetsText ++
    " SELECT "

/- What an insertion selects. -/
def projectionText (d : Dialect) (i : Insertion) : String :=
  ", ".intercalate (i.outputs.map (Output.text d))

/- An insertion after its projection. -/
def tailText (i : Insertion) : String :=
  " FROM " ++ i.source.text ++ i.newestText ++ i.orderText ++
    " LIMIT " ++ i.limit.text

theorem text_eq (d : Dialect) (i : Insertion) :
    i.text d =
      i.headText ++ i.projectionText d ++ i.tailText := by
  unfold text headText projectionText tailText
  simp only [String.append_assoc]

theorem text_insert (d : Dialect) (i : Insertion) :
    Statement.text d (.insert i) =
      i.headText ++ i.projectionText d ++ i.tailText ++
        ";" := by
  rw [← text_eq]
  unfold Statement.text Statement.body
  rfl

/- The texts of statements of which the last one inserts. -/
def textsAfter
    (d : Dialect)
    (front : List String)
    (i : Insertion) : List String :=
  front ++
    [i.headText ++ i.projectionText d ++ i.tailText ++ ";"]

end Insertion

/-
  The statements before an insertion: the datasource is
  created if it may not be there.
-/
def frontOf
    (spec : Ingestion) : Except Problem (List Statement) :=
  if spec.ensureDatasource then
    (datasourceStatement spec.source.datasource).map ([·])
  else
    .ok []

theorem exists_datasourceStatement
    {name : String}
    (hSafe : Identifier.isSafe name = true) :
    ∃ statement, datasourceStatement name = .ok statement := by
  rcases Identifier.exists_ofText_iff.mpr hSafe with
    ⟨datasource, hDatasource⟩
  simp only [datasourceStatement, bind_eq_ok_iff]
  exact ⟨_, datasource, hDatasource, rfl⟩

theorem exists_frontOf
    {spec : Ingestion}
    (hSafe :
      Identifier.isSafe spec.source.datasource = true) :
    ∃ front, frontOf spec = .ok front := by
  rcases exists_datasourceStatement hSafe with
    ⟨statement, hStatement⟩
  unfold frontOf
  split
  · rw [hStatement]
    exact ⟨_, rfl⟩
  · exact ⟨_, rfl⟩

theorem ingestionStatements_eq_front
    (d : Dialect)
    (spec : Ingestion) :
    ingestionStatements d spec =
      (do
        let front ← frontOf spec
        let insertion ← insertionOf d false spec
        return front ++ [.insert insertion]) := by
  unfold ingestionStatements frontOf
  by_cases hEnsure : spec.ensureDatasource = true
  · rw [if_pos hEnsure, if_pos hEnsure]
    cases datasourceStatement spec.source.datasource with
    | error problem => rfl
    | ok datasource => rfl
  · rw [if_neg hEnsure, if_neg hEnsure]
    rfl

theorem compile_ingest
    (d : Dialect)
    (spec : Ingestion) :
    (Request.ingest spec).compile d =
      (do
        let front ← frontOf spec
        let insertion ← insertionOf d false spec
        return insertion.textsAfter d
          (front.map (Statement.text d))) := by
  have hCompile :
      (Request.ingest spec).compile d =
        (do
          let statements ← ingestionStatements d spec
          return statements.map (Statement.text d)) :=
    rfl
  rw [hCompile, ingestionStatements_eq_front]
  cases frontOf spec with
  | error problem => rfl
  | ok front =>
      cases insertionOf d false spec with
      | error problem => rfl
      | ok insertion =>
          simp only [ok_bind, pure_bind, List.map_append,
            List.map_cons, List.map_nil,
            Insertion.text_insert, Insertion.textsAfter]

end Sql

end KbConsole
