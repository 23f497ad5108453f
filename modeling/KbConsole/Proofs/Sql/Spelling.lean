import KbConsole.Proofs.Sql.Compiled
import KbConsole.Proofs.Sql.Creation
import KbConsole.Proofs.Sql.FilterLanguage
import KbConsole.Proofs.Sql.Ingestion

/-
  How the columns that a user names stand in a statement.

  A column stands in backquotes if the dialect reserves its
  name, and otherwise as it is. Each statement with columns
  is written out from its request, with the column in every
  place spelled like this. The column that a model predicts
  is the one exception: it never has backquotes.

  Key definitions include:
    * `Sql.Dialect.Reserves`
    * `Ingestion.insertionText`
    * `Search.IsWrittenAs`
    * `NewModel.statementText`
    * `Request.IsSpelled`

  The main statement is `Request.compile_spelling`. It rests
  on `Ingestion.text_of_insertionOf`.
-/

namespace KbConsole

open Sql

open KbConsole.Filter (columnText scalarText)

------------------------------------------------------------
-- Reserved Names
------------------------------------------------------------

namespace Sql

variable {d : Dialect}

/- A dialect reserves a name if it lists it in lower case. -/
def Dialect.Reserves (d : Dialect) (name : String) : Prop :=
  Text.lower name ∈ d.reservedWords

instance (d : Dialect) (name : String) :
    Decidable (d.Reserves name) :=
  inferInstanceAs
    (Decidable (Text.lower name ∈ d.reservedWords))

theorem columnText_of_reserves
    {name : String}
    (hReserved : d.Reserves name) :
    columnText d name = "\x60" ++ name ++ "\x60" :=
  if_pos (List.contains_iff_mem.mpr hReserved)

/- A name that is not reserved stands as it is. -/
theorem columnText_eq_self_iff {name : String} :
    columnText d name = name ↔ ¬ d.Reserves name := by
  constructor
  · intro hBare hReserved
    rw [columnText_of_reserves hReserved] at hBare
    have hLength := congrArg String.length hBare
    simp only [String.length_append] at hLength
    have hQuote : "\x60".length = 1 := rfl
    omega
  · intro hFree
    exact if_neg fun hListed =>
      hFree (List.contains_iff_mem.mp hListed)

end Sql

------------------------------------------------------------
-- Texts of Ingestions
------------------------------------------------------------

namespace Ingestion

/- A source column under a label that may be its own name. -/
def labelledText
    (d : Dialect)
    (source label : String) : String :=
  if source = label then
    columnText d source
  else
    columnText d source ++ " AS " ++ columnText d label

/-
  The content: one column as it is, or several between
  spaces, with an empty text in place of a missing value.
-/
def contentText (d : Dialect) : List String → String
  | [name] => columnText d name
  | names =>
      " || ' ' || ".intercalate
        (names.map fun name =>
          "COALESCE(" ++ columnText d name ++ ", '')")

/- A metadata key as a text, and the column of its value. -/
def memberText
    (d : Dialect)
    (entry : String × String) : String :=
  quoted d entry.1 ++ ", " ++ columnText d entry.2

/- What is selected for the metadata. -/
def metadataTexts
    (d : Dialect)
    (spec : Ingestion) : List String :=
  (spec.columns.metadata.filter (·.1 != "id")).map
    fun entry => labelledText d entry.2 entry.1

/- What is selected, following the dialect's strategy. -/
def outputTexts
    (d : Dialect)
    (spec : Ingestion) : List String :=
  let content :=
    contentText d spec.columns.content ++ " AS content"
  let id := labelledText d spec.idColumn "id"
  match d.metadataStrategy with
  | .columns => content :: id :: spec.metadataTexts d
  | .json =>
      [content,
        "JSON_OBJECT(" ++
          ", ".intercalate
            (spec.columns.metadata.map (memberText d)) ++
          ") AS metadata",
        id]

/- The target columns, where the strategy names them. -/
def targetsText (d : Dialect) : String :=
  match d.metadataStrategy with
  | .columns => ""
  | .json => " (content, metadata, id)"

/- The condition that lets only new rows pass. -/
def newestText
    (d : Dialect)
    (incremental : Bool)
    (spec : Ingestion) : String :=
  if incremental then
    " WHERE " ++ columnText d spec.idColumn ++ " > LAST"
  else
    ""

/- The sort order, if there is one. -/
def sortText (d : Dialect) (spec : Ingestion) : String :=
  match spec.orderBy with
  | none => ""
  | some { column, direction := none } =>
      " ORDER BY " ++ columnText d column
  | some { column, direction := some direction } =>
      " ORDER BY " ++ columnText d column ++ " " ++
        direction.keyword

/- An ingestion without its terminator. -/
def insertionText
    (d : Dialect)
    (incremental : Bool)
    (spec : Ingestion) : String :=
  "INSERT INTO " ++ spec.knowledgeBase ++ targetsText d ++
    " SELECT " ++ ", ".intercalate (spec.outputTexts d) ++
    " FROM " ++ spec.source.datasource ++ "." ++
    spec.source.table ++ spec.newestText d incremental ++
    spec.sortText d ++ " LIMIT " ++ spec.limit.text

/- The creation of the datasource of an ingestion. -/
def datasourceText (spec : Ingestion) : String :=
  "CREATE DATABASE " ++ spec.source.datasource ++
    " WITH ENGINE = 'hackernews';"

/- What goes before an ingestion that is run once. -/
def frontTexts (spec : Ingestion) : List String :=
  if spec.ensureDatasource then [spec.datasourceText] else []

------------------------------------------------------------
-- Outputs
------------------------------------------------------------

variable {d : Dialect}

theorem text_of_labelled
    {source label : String}
    {o : Output}
    (hOutput : labelled d source label = .ok o) :
    o.text d = labelledText d source label := by
  simp only [labelled, bind_eq_ok_iff] at hOutput
  rcases hOutput with ⟨column, hColumn, hOutput⟩
  have hSource := Filter.text_of_ofText hColumn
  unfold labelledText
  by_cases hSame : source = label
  · rw [if_pos hSame, pure_eq_ok_iff] at hOutput
    subst hOutput
    rw [if_pos hSame]
    exact hSource
  · simp only [if_neg hSame, bind_eq_ok_iff, pure_eq_ok_iff]
      at hOutput
    rcases hOutput with ⟨name, hName, rfl⟩
    rw [if_neg hSame, ← hSource,
      ← Filter.text_of_ofText hName]
    rfl

theorem texts_of_columnsOf
    {field : String}
    {names : List String}
    {columns : List Column}
    (hColumns : columnsOf d field names = .ok columns) :
    columns.map Column.text = names.map (columnText d) :=
  map_eq_of_mapM
    (fun _ _ hColumn => Filter.text_of_ofText hColumn) hColumns

/- Several columns are joined, each with an empty default. -/
theorem text_joined
    {names : List String}
    {columns : List Column}
    (hTexts :
      columns.map Column.text = names.map (columnText d)) :
    (Sql.Source.joined columns).text d =
      " || ' ' || ".intercalate
        (names.map fun name =>
          "COALESCE(" ++ columnText d name ++ ", '')") := by
  let filled (text : String) : String :=
    "COALESCE(" ++ text ++ ", '')"
  have hColumns :
      columns.map (Sql.Source.orEmpty d) =
        (columns.map Column.text).map filled := by
    rw [List.map_map]
    apply List.map_congr_left
    intro column _
    unfold Sql.Source.orEmpty
    simp only [Function.comp_apply, filled,
      String.append_assoc]
    rfl
  rw [Sql.Source.text, hColumns, hTexts, List.map_map]
  rfl

theorem text_of_contentSource
    {names : List String}
    {content : Sql.Source}
    (hContent : contentSource d names = .ok content) :
    content.text d = contentText d names := by
  unfold contentSource at hContent
  split at hContent
  · cases hContent
  · simp only [bind_eq_ok_iff] at hContent
    rcases hContent with ⟨columns, hColumns, hContent⟩
    have hTexts := texts_of_columnsOf hColumns
    have hLength := congrArg List.length hTexts
    simp only [List.length_map] at hLength
    split at hContent
    · rename_i column
      obtain rfl := Except.ok.inj hContent
      obtain ⟨name, rfl⟩ :=
        List.length_eq_one_iff.mp hLength.symm
      exact (List.cons.inj hTexts).1
    · rename_i hSeveral
      obtain rfl := Except.ok.inj hContent
      rw [text_joined hTexts]
      unfold contentText
      split
      · rename_i name
        obtain ⟨column, rfl⟩ :=
          List.length_eq_one_iff.mp hLength
        exact absurd rfl (hSeveral column)
      · rfl

theorem texts_of_metadataOutputs
    {idColumn : String}
    {metadata : List (String × String)}
    {outputs : List Output}
    (hOutputs :
      metadataOutputs d idColumn metadata = .ok outputs) :
    outputs.map (Output.text d) =
      (metadata.filter (·.1 != "id")).map fun entry =>
        labelledText d entry.2 entry.1 := by
  rw [metadataOutputs_of_isNamed
    (isNamed_of_metadataOutputs hOutputs)] at hOutputs
  split at hOutputs
  · cases hOutputs
  · exact
      map_eq_of_mapM
        (fun _ _ hOutput => text_of_labelled hOutput) hOutputs

theorem texts_of_metadataMembers
    {metadata : List (String × String)}
    {members : List (Identifier × Column)}
    (hMembers : metadataMembers d metadata = .ok members) :
    members.map (Sql.Source.memberText d) =
      metadata.map (memberText d) := by
  refine map_eq_of_mapM ?_ hMembers
  intro entry member hMember
  simp only [bind_eq_ok_iff, pure_eq_ok_iff] at hMember
  rcases hMember with ⟨key, hKey, column, hColumn, rfl⟩
  rw [memberText, ← Identifier.ofText_eq_ok_iff.mp hKey,
    ← Filter.text_of_ofText hColumn]
  rfl

------------------------------------------------------------
-- Clauses
------------------------------------------------------------

variable {spec : Ingestion}

theorem newestText_of_newestColumn
    {incremental : Bool}
    {i : Insertion}
    (hNewest :
      newestColumn d incremental spec.idColumn =
        .ok i.newestBy) :
    i.newestText = spec.newestText d incremental := by
  unfold newestText Insertion.newestText
  cases incremental with
  | false =>
      have hNone : none = i.newestBy := Except.ok.inj hNewest
      rw [← hNone]
      rfl
  | true =>
      unfold newestColumn at hNewest
      rw [if_pos rfl, map_eq_ok_iff] at hNewest
      rcases hNewest with ⟨column, hColumn, hSome⟩
      rw [← hSome, if_pos rfl, ← Filter.text_of_ofText hColumn]

theorem sortText_of_orderOf
    {i : Insertion}
    (hOrder : Sql.orderOf d spec.orderBy = .ok i.order) :
    i.orderText = spec.sortText d := by
  unfold sortText Insertion.orderText
  cases hGiven : spec.orderBy with
  | none =>
      rw [hGiven] at hOrder
      have hNone : none = i.order := Except.ok.inj hOrder
      rw [← hNone]
  | some order =>
      rcases order with ⟨name, direction⟩
      rw [hGiven] at hOrder
      simp only [Sql.orderOf, bind_eq_ok_iff, pure_eq_ok_iff]
        at hOrder
      rcases hOrder with ⟨column, hColumn, hSome⟩
      have hName := Filter.text_of_ofText hColumn
      rw [← hSome]
      cases direction with
      | none => exact congrArg (" ORDER BY " ++ ·) hName
      | some direction =>
          exact
            congrArg
              (" ORDER BY " ++ · ++ " " ++ direction.keyword)
              hName

theorem text_contentOutput
    {names : List String}
    {content : Sql.Source}
    (hContent : contentSource d names = .ok content) :
    (contentOutput content).text d =
      contentText d names ++ " AS content" := by
  have hLabel : " AS " ++ contentLabel.text = " AS content" :=
    rfl
  change content.text d ++ " AS " ++ contentLabel.text = _
  rw [String.append_assoc, hLabel,
    text_of_contentSource hContent]

theorem text_objectOutput
    {metadata : List (String × String)}
    {members : List (Identifier × Column)}
    (hMembers : metadataMembers d metadata = .ok members) :
    (objectOutput members).text d =
      "JSON_OBJECT(" ++
        ", ".intercalate (metadata.map (memberText d)) ++
        ") AS metadata" := by
  have hLabel :
      ")" ++ (" AS " ++ metadataLabel.text) =
        ") AS metadata" :=
    rfl
  change (Sql.Source.object members).text d ++ " AS " ++
    metadataLabel.text = _
  rw [Sql.Source.text, texts_of_metadataMembers hMembers]
  simp only [String.append_assoc, hLabel]

/- What is selected is written from what was asked for. -/
theorem texts_of_ingestionOutputs
    {targets : List String}
    {outputs : List Output}
    (hSelected :
      ingestionOutputs d spec = .ok (targets, outputs)) :
    outputs.map (Output.text d) = spec.outputTexts d := by
  simp only [ingestionOutputs, bind_eq_ok_iff] at hSelected
  rcases hSelected with
    ⟨content, hContent, name, -, id, hId, hSelected⟩
  have hContentText := text_contentOutput hContent
  have hIdText := text_of_labelled hId
  unfold outputTexts
  cases hStrategy : d.metadataStrategy with
  | columns =>
      simp only [hStrategy, bind_eq_ok_iff, pure_eq_ok_iff]
        at hSelected
      rcases hSelected with ⟨metadata, hMetadata, hSame⟩
      obtain ⟨-, rfl⟩ := Prod.mk.inj hSame
      have hRest := texts_of_metadataOutputs hMetadata
      rw [List.map_cons, List.map_cons, hRest, hIdText]
      exact congrArg (· :: _) hContentText
  | json =>
      simp only [hStrategy, bind_eq_ok_iff, pure_eq_ok_iff]
        at hSelected
      rcases hSelected with ⟨members, hMembers, hSame⟩
      obtain ⟨-, rfl⟩ := Prod.mk.inj hSame
      have hObject := text_objectOutput hMembers
      rw [List.map_cons, List.map_cons, List.map_cons, hIdText]
      exact congrArg₂ (fun first second => [first, second, _])
        hContentText hObject

/- The target columns depend on the strategy alone. -/
theorem targetsText_of_ingestionOutputs
    {selected : List String × List Output}
    (hSelected : ingestionOutputs d spec = .ok selected)
    {i : Insertion}
    (hTargets : i.targets = selected.1) :
    i.targetsText = targetsText d := by
  simp only [ingestionOutputs, bind_eq_ok_iff] at hSelected
  rcases hSelected with ⟨_, -, _, -, _, -, hSelected⟩
  unfold targetsText Insertion.targetsText
  rw [hTargets]
  cases hStrategy : d.metadataStrategy with
  | columns =>
      simp only [hStrategy, bind_eq_ok_iff, pure_eq_ok_iff]
        at hSelected
      rcases hSelected with ⟨_, -, rfl⟩
      rfl
  | json =>
      simp only [hStrategy, bind_eq_ok_iff, pure_eq_ok_iff]
        at hSelected
      rcases hSelected with ⟨_, -, rfl⟩
      rfl

/- An insertion is written from what was asked for. -/
theorem text_of_insertionOf
    {incremental : Bool}
    {i : Insertion}
    (hInsertion : insertionOf d incremental spec = .ok i) :
    i.text d = spec.insertionText d incremental := by
  simp only [insertionOf, bind_eq_ok_iff, pure_eq_ok_iff]
    at hInsertion
  rcases hInsertion with
    ⟨⟨targets, outputs⟩, hSelected, knowledgeBase,
      hKnowledgeBase, source, hSource, newestBy, hNewest, order,
      hOrder, limit, hLimit, hInsertion⟩
  have hTargets : i.targetsText = targetsText d :=
    targetsText_of_ingestionOutputs hSelected
      (by rw [← hInsertion])
  have hOutputs := texts_of_ingestionOutputs hSelected
  have hName := Identifier.ofText_eq_ok_iff.mp hKnowledgeBase
  rcases TableName.ofRef_eq_ok_iff.mp hSource with
    ⟨hDatasource, hTable⟩
  have hFrom :
      source.text =
        spec.source.datasource ++ "." ++ spec.source.table := by
    rw [TableName.text, hDatasource, hTable]
  have hLimit : limit.text = spec.limit.text := by
    rw [(finite_eq_ok_iff.mp hLimit).2]
  subst hInsertion
  unfold Insertion.text
  rw [newestText_of_newestColumn hNewest,
    sortText_of_orderOf hOrder, hTargets]
  simp only [hOutputs, hName, hFrom, hLimit]
  unfold insertionText
  simp only [String.append_assoc]

end Ingestion

------------------------------------------------------------
-- Texts of Searches and Models
------------------------------------------------------------

/-
  A restriction is written as a comparison with the column
  of its key, which stands in front.
-/
def Filter.IsComparedIn
    (d : Dialect)
    (entry : String × Restriction)
    (text : String) : Prop :=
  ∃ comparison value,
    comparisonOf entry.1 entry.2 = .ok (comparison, value) ∧
      text =
        columnText d entry.1 ++ " " ++ comparison.symbol ++
          " " ++ scalarText d value

theorem Filter.print_of_ofScalar
    {d : Dialect}
    {scalar : Scalar}
    {literal : Literal}
    (hLiteral : Literal.ofScalar scalar = .ok literal) :
    literal.print d = scalarText d scalar := by
  rcases ofScalar_cases d scalar with
    ⟨-, other, hOther, hPrint⟩ | ⟨n, -, -, hError⟩
  · rw [hOther] at hLiteral
    obtain rfl := Except.ok.inj hLiteral
    exact hPrint
  · rw [hError] at hLiteral
    cases hLiteral

theorem isComparedIn_of_conditionOf
    {d : Dialect}
    {entry : String × Restriction}
    {condition : Condition}
    (hCondition : conditionOf d entry = .ok condition) :
    Filter.IsComparedIn d entry (condition.text d) := by
  simp only [conditionOf, bind_eq_ok_iff, pure_eq_ok_iff]
    at hCondition
  rcases hCondition with
    ⟨column, hColumn, ⟨comparison, value⟩, hComparison,
      literal, hLiteral, rfl⟩
  refine ⟨comparison, value, hComparison, ?_⟩
  rw [Condition.text, Filter.text_of_ofText hColumn,
    Filter.print_of_ofScalar hLiteral]

/- A search as it is sent: its text and its restrictions. -/
def Search.IsWrittenAs
    (d : Dialect)
    (spec : Search)
    (text : String) : Prop :=
  ∃ conditions,
    List.Forall₂ (Filter.IsComparedIn d) spec.filter
        conditions ∧
      text =
        "SELECT * FROM " ++ spec.knowledgeBase ++ " WHERE " ++
          " AND ".intercalate
            (("content LIKE " ++ quoted d spec.text) ::
              conditions) ++
          " LIMIT " ++ spec.limit.text ++ ";"

namespace NewModel

/- The creation of a model up to the column it predicts. -/
def frontText (spec : NewModel) : String :=
  "CREATE MODEL " ++ spec.ref.qualified ++ " FROM (" ++
    withoutTerminator spec.query ++ ") PREDICT "

/- The options of a model, each of them a text. -/
def settingsText (d : Dialect) (spec : NewModel) : String :=
  " USING " ++
    ", ".intercalate
      ((modelSettings spec).map fun entry =>
        entry.1 ++ " = " ++ quoted d entry.2)

/-
  The creation of a model as it is sent, with the text that
  stands for the column it predicts.
-/
def statementText
    (d : Dialect)
    (predicted : String)
    (spec : NewModel) : String :=
  spec.frontText ++ predicted ++ spec.settingsText d ++ ";"

/- What is predicted can be told from the statement. -/
theorem statementText_inj
    {d : Dialect}
    {spec : NewModel}
    {predicted other : String} :
    spec.statementText d predicted =
        spec.statementText d other ↔
      predicted = other := by
  rw [statementText, statementText, String.append_left_inj,
    String.append_left_inj, String.append_right_inj]

end NewModel

/- A job that repeats an ingestion, as it is sent. -/
def NewIngestJob.statementText
    (d : Dialect)
    (spec : NewIngestJob) : String :=
  "CREATE JOB " ++ spec.ref.qualified ++ " (" ++
    spec.ingestion.insertionText d true ++ ") " ++
    scheduleText spec.schedule ++ ";"

------------------------------------------------------------
-- Texts of Statements
------------------------------------------------------------

namespace Sql

variable {d : Dialect}

theorem text_of_datasourceStatement
    {spec : Ingestion}
    {s : Statement}
    (hStatement :
      datasourceStatement spec.source.datasource = .ok s) :
    s.text d = spec.datasourceText := by
  simp only [datasourceStatement, bind_eq_ok_iff,
    pure_eq_ok_iff, Identifier.ofText_eq_ok_iff] at hStatement
  rcases hStatement with ⟨name, hName, rfl⟩
  have hEngine :
      " WITH ENGINE = " ++ (quoted d "hackernews" ++ ";") =
        " WITH ENGINE = 'hackernews';" :=
    rfl
  unfold Statement.text Statement.body
  unfold Ingestion.datasourceText
  simp only [String.append_assoc, hName, hEngine]

theorem texts_of_frontOf
    {spec : Ingestion}
    {front : List Statement}
    (hFront : frontOf spec = .ok front) :
    front.map (Statement.text d) = spec.frontTexts := by
  unfold frontOf at hFront
  unfold Ingestion.frontTexts
  split at hFront
  · rename_i hEnsure
    rcases map_eq_ok_iff.mp hFront with ⟨s, hStatement, rfl⟩
    rw [if_pos hEnsure,
      ← text_of_datasourceStatement hStatement]
    rfl
  · rename_i hPresent
    obtain rfl := Except.ok.inj hFront
    rw [if_neg hPresent]
    rfl

theorem texts_of_filterConditions
    {filter : Filter}
    {conditions : List Condition}
    (hConditions : filterConditions d filter = .ok conditions) :
    List.Forall₂ (Filter.IsComparedIn d) filter
      (conditions.map (Condition.text d)) := by
  rw [List.forall₂_map_right_iff]
  apply (mapM_eq_ok_iff.mp hConditions).imp
  intro _ _ hCondition
  exact isComparedIn_of_conditionOf hCondition

theorem text_of_searchStatement
    {spec : Search}
    {s : Statement}
    (hStatement : searchStatement d spec = .ok s) :
    spec.IsWrittenAs d (s.text d) := by
  simp only [searchStatement, bind_eq_ok_iff, pure_eq_ok_iff]
    at hStatement
  rcases hStatement with
    ⟨conditions, hConditions, name, hName, limit, hLimit, rfl⟩
  refine ⟨_, texts_of_filterConditions hConditions, ?_⟩
  rw [← Identifier.ofText_eq_ok_iff.mp hName,
    (finite_eq_ok_iff.mp hLimit).2]
  rfl

theorem text_of_modelStatement
    {spec : NewModel}
    {s : Statement}
    (hStatement : modelStatement spec = .ok s) :
    s.text d = spec.statementText d spec.predictColumn := by
  rcases modelStatement_eq_ok_iff.mp hStatement with
    ⟨-, -, name, predict, hName, hPredict, rfl⟩
  have hSettings :
      Assignment.listText d
          ((modelSettings spec).map textAssignment) =
        spec.settingsText d := by
    rw [Assignment.listText, List.map_map]
    rfl
  unfold NewModel.statementText NewModel.frontText
  rw [← hPredict, ← ObjectName.text_of_ofRef hName, ← hSettings]
  rfl

theorem text_createJob_insertion
    (d : Dialect)
    (name : ObjectName)
    (i : Insertion)
    (schedule : Schedule) :
    Statement.text d
        (.createJob
          { name
            body := .insertion i
            schedule := some schedule }) =
      "CREATE JOB " ++ name.text ++ " (" ++ i.text d ++ ") " ++
        scheduleText schedule ++ ";" := by
  have hClose : ")" ++ " " = ") " := rfl
  unfold Statement.text Statement.body JobDefinition.text
    JobBody.text
  simp only [JobDefinition.scheduleClause,
    JobDefinition.timeClause, JobDefinition.conditionClause,
    String.append_empty]
  rw [← String.append_assoc, Text.append_joined hClose]

theorem texts_of_ingestionJobStatements
    {spec : NewIngestJob}
    {statements : List Statement}
    (hStatements :
      ingestionJobStatements d spec = .ok statements) :
    statements.map (Statement.text d) =
      [spec.ingestion.datasourceText,
        spec.statementText d] := by
  simp only [ingestionJobStatements, bind_eq_ok_iff,
    pure_eq_ok_iff] at hStatements
  rcases hStatements with
    ⟨i, hInsertion, datasource, hDatasource, name, hName, rfl⟩
  rw [List.map_cons, List.map_cons, List.map_nil,
    text_of_datasourceStatement hDatasource,
    text_createJob_insertion]
  unfold NewIngestJob.statementText
  rw [← ObjectName.text_of_ofRef hName,
    ← Ingestion.text_of_insertionOf hInsertion]

end Sql

------------------------------------------------------------
-- Requests
------------------------------------------------------------

namespace Request

/-
  The statements of a request that names columns, each
  column as the dialect spells it. How the column that a
  model predicts is spelled is given separately.
-/
def IsSpelled
    (d : Dialect)
    (predicted : String → String) :
    Request → List String → Prop
  | ingest spec, texts =>
      texts =
        spec.frontTexts ++ [spec.insertionText d false ++ ";"]
  | createIngestJob spec, texts =>
      texts =
        [spec.ingestion.datasourceText, spec.statementText d]
  | query spec, texts =>
      ∃ text, texts = [text] ∧ spec.IsWrittenAs d text
  | createModel spec, texts =>
      texts =
        [spec.statementText d (predicted spec.predictColumn)]
  | _, _ => True

variable {d : Dialect}
variable {texts : List String}

theorem isSpelled_ingest
    {spec : Ingestion}
    (hCompile : (ingest spec).compile d = .ok texts) :
    texts =
      spec.frontTexts ++
        [spec.insertionText d false ++ ";"] := by
  simp only [compile, statements, ingestionStatements_eq_front,
    bind_eq_ok_iff, pure_eq_ok_iff] at hCompile
  rcases hCompile with
    ⟨_, ⟨front, hFront, i, hInsertion, rfl⟩, rfl⟩
  rw [List.map_append, texts_of_frontOf hFront,
    ← Ingestion.text_of_insertionOf hInsertion]
  rfl

/- Every column but the predicted one is spelled right. -/
theorem isSpelled_of_compile
    {request : Request}
    (hCompile : request.compile d = .ok texts) :
    request.IsSpelled d id texts := by
  cases request with
  | ingest spec => exact isSpelled_ingest hCompile
  | createIngestJob spec =>
      simp only [compile, statements, bind_eq_ok_iff,
        pure_eq_ok_iff] at hCompile
      rcases hCompile with ⟨_, hStatements, rfl⟩
      exact texts_of_ingestionJobStatements hStatements
  | query spec =>
      simp only [compile, statements, bind_eq_ok_iff,
        pure_eq_ok_iff] at hCompile
      rcases hCompile with ⟨_, ⟨s, hStatement, rfl⟩, rfl⟩
      exact ⟨_, rfl, text_of_searchStatement hStatement⟩
  | createModel spec =>
      simp only [compile, statements, bind_eq_ok_iff,
        pure_eq_ok_iff] at hCompile
      rcases hCompile with ⟨_, ⟨s, hStatement, rfl⟩, rfl⟩
      exact congrArg ([·]) (text_of_modelStatement hStatement)
  | _ => trivial

/- A model's statement is spelled right if its column is. -/
theorem isSpelled_createModel_iff
    {spec : NewModel}
    (hSpelled : (createModel spec).IsSpelled d id texts) :
    (createModel spec).IsSpelled d (columnText d) texts ↔
      ¬ d.Reserves spec.predictColumn := by
  have hTexts :
      texts = [spec.statementText d spec.predictColumn] :=
    hSpelled
  rw [← columnText_eq_self_iff, hTexts, eq_comm]
  change [_] = [_] ↔ _
  rw [List.singleton_inj, NewModel.statementText_inj]

/-
  Wherever a column is named, it stands in backquotes if its
  name is reserved, and as it is otherwise. The column that
  a model predicts stands as it is in any case, so that the
  statement is right exactly when its name is not reserved.
-/
theorem compile_spelling
    {request : Request}
    (hCompile : request.compile d = .ok texts) :
    request.IsSpelled d id texts ∧
      (request.IsSpelled d (columnText d) texts ↔
        ∀ spec, request = createModel spec →
          ¬ d.Reserves spec.predictColumn) := by
  have hSpelled := isSpelled_of_compile hCompile
  refine ⟨hSpelled, ?_⟩
  cases request with
  | createModel spec =>
      rw [isSpelled_createModel_iff hSpelled]
      constructor
      · rintro hFree _ ⟨⟩
        exact hFree
      · intro hFree
        exact hFree spec rfl
  | _ => exact iff_of_true hSpelled (by simp)

/- A model that predicts a column with a reserved name. -/
def timeModel : NewModel where
  ref := { name := "m" }
  engine := "openai"
  query := "SELECT 1"
  predictColumn := "time"

theorem compile_timeModel :
    (createModel timeModel).compile {} =
      .ok
        ["CREATE MODEL m FROM (SELECT 1) PREDICT time" ++
          " USING engine = 'openai';"] := by
  decide +kernel

/- Its statement names the column without backquotes. -/
theorem compile_spelling_time :
    (createModel timeModel).compile {} =
        .ok
          ["CREATE MODEL m FROM (SELECT 1) PREDICT time" ++
            " USING engine = 'openai';"] ∧
      (createModel timeModel).IsSpelled {} id
        ["CREATE MODEL m FROM (SELECT 1) PREDICT time" ++
          " USING engine = 'openai';"] ∧
      ¬ (createModel timeModel).IsSpelled {} (columnText {})
        ["CREATE MODEL m FROM (SELECT 1) PREDICT time" ++
          " USING engine = 'openai';"] := by
  obtain ⟨hSpelled, hRight⟩ :=
    compile_spelling compile_timeModel
  refine ⟨compile_timeModel, hSpelled, ?_⟩
  intro hQuoted
  exact hRight.mp hQuoted timeModel rfl (by decide)

/- Not every column with a reserved name has backquotes. -/
theorem not_isSpelled :
    ¬ ∀ (d : Dialect) (request : Request)
        (texts : List String),
      (∀ word ∈ d.reservedWords, Text.lower word = word) →
        request.compile d = .ok texts →
          request.IsSpelled d (columnText d) texts := by
  intro hAlways
  have hQuoted :=
    hAlways {} _ _ (by decide) compile_timeModel
  have hBare := isSpelled_of_compile compile_timeModel
  exact
    (isSpelled_createModel_iff hBare).mp hQuoted (by decide)

end Request

end KbConsole
