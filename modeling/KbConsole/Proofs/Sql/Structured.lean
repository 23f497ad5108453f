import KbConsole.Arguments
import KbConsole.Proofs.Json.RoundTrip
import KbConsole.Proofs.Sql.Compiled

/-
  Structured values of options are read back.

  The nested options of a statement are JSON text, one of
  the ways in which the members of an object are spaced. So
  the reader of JSON finds each of them: those of a model,
  and those of generated test data. JSON values of agents
  are quoted as well; they are read back in two steps.

  Key definitions include:
    * `Sql.jsonMembers`
    * `Sql.IsObjectOption`
    * `Model.members`, `Generation.members`
    * `Request.ReadsBack`

  The main statement is `Sql.structured_contract`. It rests
  on `Sql.parse?_membersText`.
-/

namespace KbConsole

open Sql

------------------------------------------------------------
-- Nested Options
------------------------------------------------------------

namespace Json

theorem isGap_blank : IsGap [' '] := by
  intro c hMember
  rw [List.mem_singleton.mp hMember]
  rfl

/- The blanks before the members of an object on one line. -/
def inlineGap : Nat → List Char
  | 0 => []
  | _ + 1 => [' ']

theorem isGap_inlineGap (depth : Nat) :
    IsGap (inlineGap depth) := by
  cases depth with
  | zero => exact isGap_nil
  | succ depth => exact isGap_blank

/- Everything on one line, with a blank between members. -/
def Spacing.inline : Spacing where
  gap := inlineGap
  colon := [' ']
  isGap_gap := isGap_inlineGap
  isGap_colon := isGap_blank

end Json

namespace Sql

/- Nested options as the members of a JSON object. -/
def jsonMembers
    (entries : List (String × Scalar)) :
    List (String × Json) :=
  entries.map fun entry => (entry.1, entry.2.toJson)

variable {key : String}
variable {value : Scalar}
variable {entries : List (String × Scalar)}

theorem keys_jsonMembers :
    Keyed.keys (jsonMembers entries) = Keyed.keys entries := by
  rw [Keyed.keys, jsonMembers, List.map_map]
  rfl

theorem membersExact_jsonMembers
    (hExact : ∀ entry ∈ entries, entry.2.toJson.IsExact) :
    Json.MembersExact (jsonMembers entries) := by
  rw [Json.membersExact_iff, jsonMembers, List.forall_mem_map]
  exact hExact

/- A scalar has no parts that blanks could separate. -/
theorem spaced_toJson
    (s : Json.Spacing)
    (depth : Nat)
    (value : Scalar) :
    Json.spaced s depth value.toJson = value.toJson.chars := by
  cases value <;> rfl

theorem toList_memberText (entry : String × Scalar) :
    (memberText entry).toList =
      Json.quoteChars entry.1 ++
        ':' :: ' ' :: entry.2.toJson.chars := by
  simp [memberText, Json.quote, Json.print]

/- The members after the first are spaced like those of JSON. -/
theorem spacedMembers_inline
    (entries : List (String × Scalar)) :
    Json.spacedMembers .inline 0 (jsonMembers entries) =
      (entries.map memberText).flatMap
          (fun part => ", ".toList ++ part.toList) ++
        ['\x7d'] := by
  induction entries with
  | nil => rfl
  | cons entry entries ih =>
      have hStep :
          Json.spacedMembers .inline 0
              (jsonMembers (entry :: entries)) =
            ',' :: ' ' :: (Json.quoteChars entry.1 ++
              ':' :: ' ' ::
                (Json.spaced .inline 1 entry.2.toJson ++
                  Json.spacedMembers .inline 0
                    (jsonMembers entries))) :=
        rfl
      rw [hStep, spaced_toJson, ih, List.map_cons,
        List.flatMap_cons, toList_memberText]
      simp

theorem toList_membersText_cons :
    (membersText ((key, value) :: entries)).toList =
      '\x7b' :: (Json.quoteChars key ++ ':' :: ' ' ::
        (Json.spaced .inline 1 value.toJson ++
          Json.spacedMembers .inline 0
            (jsonMembers entries))) := by
  rw [spaced_toJson, spacedMembers_inline, membersText,
    List.map_cons]
  simp only [String.toList_append,
    Text.toList_intercalate_cons, toList_memberText]
  simp

/- With a bound above twice their length they are read. -/
theorem readValue_membersText
    {bound : Nat}
    (hKept :
      Keyed.ofList (jsonMembers ((key, value) :: entries)) =
        jsonMembers ((key, value) :: entries))
    (hExact :
      Json.MembersExact (jsonMembers ((key, value) :: entries)))
    (hBound :
      2 * (membersText ((key, value) :: entries)).length ≤
        bound) :
    Json.readValue (bound + 1)
        (membersText ((key, value) :: entries)).toList =
      some (.object (jsonMembers ((key, value) :: entries)), [])
      := by
  have hLength :
      2 * ((Json.spaced .inline (0 + 1) value.toJson).length +
          (Json.spacedMembers .inline 0
            (jsonMembers entries)).length) ≤
        bound := by
    rw [← String.length_toList, toList_membersText_cons]
      at hBound
    simp only [List.length_cons, List.length_append] at hBound
    rw [Nat.zero_add]
    omega
  have hMembers :=
    (Json.reads_spaced .inline bound).2.2 key value.toJson
      (jsonMembers entries) 0 [] [] hExact.1 hExact.2
      Json.isGap_nil hLength
  rw [toList_membersText_cons]
  simp only [Json.quoteChars, List.cons_append,
    List.nil_append, List.append_nil] at hMembers ⊢
  exact Json.readValue_object Json.isGap_nil Json.isGap_nil
    hKept hMembers

/- Nested options are read back, in their order. -/
theorem parse?_membersText
    (hDistinct : (Keyed.keys entries).Nodup)
    (hNames : ∀ key ∈ Keyed.keys entries,
      Keyed.index? key = none)
    (hExact : ∀ entry ∈ entries, entry.2.toJson.IsExact) :
    Json.parse? (membersText entries) =
      some (.object (jsonMembers entries)) := by
  have hKept :
      Keyed.ofList (jsonMembers entries) =
        jsonMembers entries := by
    apply Keyed.ofList_eq_self
    · rwa [keys_jsonMembers]
    · rwa [keys_jsonMembers]
  have hValues := membersExact_jsonMembers hExact
  cases entries with
  | nil => rfl
  | cons entry entries =>
      rcases entry with ⟨key, value⟩
      let text := membersText ((key, value) :: entries)
      have hBound : 2 * text.length ≤ 2 * text.length + 1 :=
        Nat.le_succ _
      have hRead := readValue_membersText hKept hValues hBound
      rw [Json.parse?, String.length_toList, hRead]
      rfl

------------------------------------------------------------
-- Options
------------------------------------------------------------

/-
  An option as the reader of JSON finds it: a name, an
  equals sign and an object with the given members.
-/
def IsObjectOption
    (name : String)
    (members : List (String × Json))
    (option : String) : Prop :=
  ∃ literal : String,
    option = name ++ " = " ++ literal ∧
      Json.parse? literal = some (.object members)

/- An option with one of the given names. -/
def IsNamedOption
    (names : List String)
    (option : String) : Prop :=
  ∃ name ∈ names, ∃ value, option = name ++ " = " ++ value

/- A statement with a name and options. -/
def usingText
    (head name : String)
    (options : List String) : String :=
  head ++ name ++ (" USING " ++ ", ".intercalate options) ++ ";"

variable {d : Dialect}

/- Nested options are read back if their names are known. -/
theorem parse?_of_listed
    {names : List String}
    (hListed : (Keyed.keys entries).Sublist names)
    (hDistinct : names.Nodup)
    (hNames : ∀ key ∈ names, Keyed.index? key = none)
    (hExact : ∀ entry ∈ entries, entry.2.toJson.IsExact) :
    Json.parse? (membersText entries) =
      some (.object (jsonMembers entries)) :=
  parse?_membersText (hListed.nodup hDistinct)
    (fun key hKey => hNames key (hListed.subset hKey)) hExact

theorem isNamedOption_text
    {names : List String}
    {options : List Assignment}
    (hNames : ∀ option ∈ options, option.name ∈ names) :
    ∀ text ∈ options.map (Assignment.text d),
      IsNamedOption names text := by
  intro text hText
  rcases List.mem_map.mp hText with ⟨option, hOption, rfl⟩
  exact ⟨option.name, hNames option hOption, _, rfl⟩

end Sql

------------------------------------------------------------
-- Models
------------------------------------------------------------

/- The nested options of a model, as JSON. -/
def Model.members (m : Model) : List (String × Json) :=
  [("provider", .text m.provider),
    ("model_name", .text m.name)] ++
    (given? m.baseUrl).toList.map
      (fun url => ("base_url", .text url)) ++
    (given? m.apiKey).toList.map
      (fun key => ("api_key", .text key))

namespace Sql

variable {d : Dialect}

theorem textEntry_eq_map
    (key : String)
    (value : Option String) :
    textEntry key value =
      (given? value).toList.map
        (fun text => (key, .text text)) := by
  unfold textEntry
  cases given? value <;> rfl

theorem jsonMembers_modelEntries (m : Model) :
    jsonMembers (modelEntries m) = m.members := by
  unfold modelEntries Model.members
  simp only [textEntry_eq_map, jsonMembers, List.map_append,
    List.map_map]
  rfl

theorem keys_textEntry_sublist
    (key : String)
    (value : Option String) :
    (Keyed.keys (textEntry key value)).Sublist [key] := by
  unfold textEntry
  cases given? value with
  | none => exact List.nil_sublist _
  | some text => exact List.Sublist.refl _

/- The nested options of a model are told apart by name. -/
theorem keys_modelEntries_sublist (m : Model) :
    (Keyed.keys (modelEntries m)).Sublist
      ["provider", "model_name", "base_url", "api_key"] := by
  have hUrl := keys_textEntry_sublist "base_url" m.baseUrl
  have hKey := keys_textEntry_sublist "api_key" m.apiKey
  unfold modelEntries Keyed.keys
  rw [List.map_append, List.map_append]
  exact ((List.Sublist.refl _).append hUrl).append hKey

theorem isExact_of_mem_textEntry
    {key : String}
    {value : Option String}
    {entry : String × Scalar}
    (hEntry : entry ∈ textEntry key value) :
    entry.2.toJson.IsExact := by
  rw [textEntry_eq_map] at hEntry
  rcases List.mem_map.mp hEntry with ⟨text, -, rfl⟩
  trivial

theorem isExact_of_mem_modelEntries
    {m : Model}
    {entry : String × Scalar}
    (hEntry : entry ∈ modelEntries m) :
    entry.2.toJson.IsExact := by
  simp only [modelEntries, List.mem_append, List.mem_cons,
    List.not_mem_nil, or_false] at hEntry
  rcases hEntry with ((rfl | rfl) | hUrl) | hKey
  · trivial
  · trivial
  · exact isExact_of_mem_textEntry hUrl
  · exact isExact_of_mem_textEntry hKey

/- The option that describes a model is read back. -/
theorem isObjectOption_modelOption
    (d : Dialect)
    (name : String)
    (m : Model) :
    IsObjectOption name m.members
      ((modelOption name m).text d) := by
  refine ⟨_, rfl, ?_⟩
  rw [← jsonMembers_modelEntries]
  exact parse?_of_listed (keys_modelEntries_sublist m)
    (by decide) (by decide)
    (fun _ hEntry => isExact_of_mem_modelEntries hEntry)

theorem forall₂_modelOption
    (d : Dialect)
    (name : String)
    (models : List Model) :
    List.Forall₂
      (fun m => IsObjectOption name (Model.members m))
      models
      ((models.map (modelOption name)).map
        (Assignment.text d)) := by
  rw [List.map_map, List.forall₂_map_right_iff]
  exact List.forall₂_same.mpr fun m _ =>
    isObjectOption_modelOption d name m

end Sql

------------------------------------------------------------
-- Generated Data
------------------------------------------------------------

namespace Generation

/-
  The nested options of generated test data, as JSON. What
  becomes of the query is given separately.
-/
def members
    (query : String → String)
    (g : Generation) : List (String × Json) :=
  (given? g.fromSql).toList.map
      (fun sql => ("from_sql", .text (query sql))) ++
    [("count", .number g.count)]

/-
  The count is an exact integer, and a query that is given
  is more than its terminator.
-/
structure IsProper (g : Generation) : Prop where
  query :
    ∀ sql,
      given? g.fromSql = some sql → withoutTerminator sql ≠ ""
  count : (Json.number g.count).IsExact

end Generation

namespace Sql

variable {d : Dialect}

theorem generationEntries_eq_map (g : Generation) :
    generationEntries g =
      (given? g.fromSql).toList.map
          (fun sql =>
            ("from_sql", .text (withoutTerminator sql))) ++
        [("count", .number g.count)] := by
  unfold generationEntries
  cases given? g.fromSql <;> rfl

theorem jsonMembers_generationEntries (g : Generation) :
    jsonMembers (generationEntries g) =
      g.members withoutTerminator := by
  rw [generationEntries_eq_map, jsonMembers, List.map_append,
    List.map_map]
  rfl

theorem keys_generationEntries_sublist (g : Generation) :
    (Keyed.keys (generationEntries g)).Sublist
      ["from_sql", "count"] := by
  unfold generationEntries
  cases given? g.fromSql with
  | none => exact List.sublist_cons_self _ _
  | some sql => exact List.Sublist.refl _

theorem parse?_generationEntries
    {g : Generation}
    (hCount : (Json.number g.count).IsExact) :
    Json.parse? (membersText (generationEntries g)) =
      some (.object (g.members withoutTerminator)) := by
  rw [← jsonMembers_generationEntries]
  apply parse?_of_listed (keys_generationEntries_sublist g)
    (by decide) (by decide)
  intro entry hEntry
  rw [generationEntries_eq_map, List.mem_append] at hEntry
  rcases hEntry with hQuery | hLast
  · rcases List.mem_map.mp hQuery with ⟨sql, -, rfl⟩
    trivial
  · rcases List.mem_singleton.mp hLast with rfl
    exact hCount

end Sql

------------------------------------------------------------
-- Requests
------------------------------------------------------------

/- A knowledge base whose models are read back. -/
def NewKnowledgeBase.ReadsBack
    (spec : NewKnowledgeBase)
    (texts : List String) : Prop :=
  ∃ embedding reranking others,
    texts =
        [usingText "CREATE KNOWLEDGE_BASE " spec.name
          (embedding :: reranking ++ others)] ∧
      IsObjectOption "embedding_model" spec.embedding.members
        embedding ∧
      List.Forall₂
        (fun m =>
          IsObjectOption "reranking_model" (Model.members m))
        spec.reranking.toList reranking ∧
      ∀ option ∈ others,
        IsNamedOption
          ["content_columns", "metadata_columns", "id_column"]
          option

namespace Evaluation

/- The statement that generates data, which are read back. -/
def Generates
    (query : String → String)
    (spec : Evaluation)
    (judge : List String)
    (g : Generation)
    (text : String) : Prop :=
  ∃ data,
    text =
        usingText "EVALUATE KNOWLEDGE_BASE " spec.knowledgeBase
          (["test_table = " ++ (spec.testTable.datasource ++
              "." ++ spec.testTable.table),
            data, "evaluate = false"] ++ judge) ∧
      (g.IsProper →
        IsObjectOption "generate_data" (g.members query) data)

/- An evaluation whose judge and test data are read back. -/
def ReadsBack
    (query : String → String)
    (spec : Evaluation)
    (texts : List String) : Prop :=
  ∃ judge generation score,
    texts = generation ++ score ∧
      List.Forall₂
        (fun m => IsObjectOption "llm" (Model.members m))
        spec.judge.toList judge ∧
      List.Forall₂ (spec.Generates query judge)
        spec.generation.toList generation ∧
      ∀ text ∈ score, ∃ front back,
        text =
            usingText "EVALUATE KNOWLEDGE_BASE "
              spec.knowledgeBase (front ++ judge ++ back) ∧
          ∀ option ∈ front ++ back,
            IsNamedOption ["test_table", "version", "save_to"]
              option

end Evaluation

/-
  The statements of a request whose nested options are read
  back. What becomes of the query for test data is given
  separately.
-/
def Request.ReadsBack
    (query : String → String) :
    Request → List String → Prop
  | createKnowledgeBase spec, texts => spec.ReadsBack texts
  | evaluate spec, texts => spec.ReadsBack query texts
  | _, _ => True

namespace Sql

variable {d : Dialect}

theorem readsBack_knowledgeBase
    {spec : NewKnowledgeBase}
    {s : Statement}
    (hStatement : knowledgeBaseStatement spec = .ok s) :
    spec.ReadsBack [s.text d] := by
  simp only [knowledgeBaseStatement, bind_eq_ok_iff,
    pure_eq_ok_iff] at hStatement
  rcases hStatement with
    ⟨content, hContent, metadata, hMetadata, id, hId, name,
      hName, rfl⟩
  have hOthers :
      ∀ option ∈ content ++ metadata ++ id,
        option.name ∈
          ["content_columns", "metadata_columns",
            "id_column"] := by
    intro option hOption
    rw [List.mem_append, List.mem_append] at hOption
    rcases hOption with (hOption | hOption) | hOption
    · rw [name_of_columnsOption hContent option hOption]
      decide
    · rw [name_of_columnsOption hMetadata option hOption]
      decide
    · rw [name_of_idOption hId option hOption]
      decide
  refine
    ⟨_, _, (content ++ metadata ++ id).map (Assignment.text d),
      ?_, isObjectOption_modelOption d "embedding_model" _,
      forall₂_modelOption d "reranking_model" _,
      isNamedOption_text hOthers⟩
  rw [← Identifier.ofText_eq_ok_iff.mp hName,
    ← List.map_cons, ← List.map_append]
  simp only [List.append_assoc]
  rfl

/- The statement that generates data is read back. -/
theorem generates_of_evaluation
    {spec : Evaluation}
    {name : Identifier}
    {table : TableName}
    (hName : name.text = spec.knowledgeBase)
    (hTable : TableName.ofRef spec.testTable = .ok table)
    (judge : List Assignment)
    (g : Generation) :
    spec.Generates withoutTerminator
      (judge.map (Assignment.text d)) g
      (Statement.text d
        (.evaluate name
          (generationOptions table judge g))) := by
  rcases TableName.ofRef_eq_ok_iff.mp hTable with
    ⟨hDatasource, hOwn⟩
  refine
    ⟨_, ?_, fun hProper =>
      ⟨_, rfl, parse?_generationEntries hProper.count⟩⟩
  rw [← hName, ← hDatasource, ← hOwn]
  rfl

theorem readsBack_scored
    {spec : Evaluation}
    {name : Identifier}
    (hName : name.text = spec.knowledgeBase)
    {save : List Assignment}
    (hSave : saveOption spec.saveTo = .ok save)
    (table : TableName) :
    ∃ front back,
      Statement.text d
          (.evaluate name (scoreOptions spec table save)) =
        usingText "EVALUATE KNOWLEDGE_BASE " spec.knowledgeBase
          (front ++
            (spec.judge.toList.map (modelOption "llm")).map
              (Assignment.text d) ++
            back) ∧
      ∀ option ∈ front ++ back,
        IsNamedOption ["test_table", "version", "save_to"]
          option := by
  let front : List Assignment :=
    [{ name := "test_table", value := .table table },
      .literal "version" (.text spec.version.name)]
  refine
    ⟨front.map (Assignment.text d),
      save.map (Assignment.text d), ?_, ?_⟩
  · rw [← hName, ← List.map_append, ← List.map_append]
    rfl
  · rw [← List.map_append]
    apply isNamedOption_text
    intro option hOption
    rcases List.mem_append.mp hOption with hFront | hBack
    · simp only [front, List.mem_cons, List.not_mem_nil,
        or_false] at hFront
      rcases hFront with rfl | rfl
      · exact List.mem_cons_self
      · exact List.mem_cons_of_mem _ List.mem_cons_self
    · rw [name_of_saveOption hSave option hBack]
      decide

theorem readsBack_evaluation
    {spec : Evaluation}
    {statements : List Statement}
    (hStatements : evaluationStatements spec = .ok statements) :
    spec.ReadsBack withoutTerminator
      (statements.map (Statement.text d)) := by
  rcases cases_of_evaluationStatements hStatements with
    ⟨name, table, hName, hTable, hCases⟩
  let judge := spec.judge.toList.map (modelOption "llm")
  have hGeneration :
      List.Forall₂
        (spec.Generates withoutTerminator
          (judge.map (Assignment.text d)))
        spec.generation.toList
        ((generationStatements spec name table).map
          (Statement.text d)) := by
    rw [generationStatements, List.forall₂_map_right_iff,
      List.forall₂_map_right_iff, List.forall₂_same]
    intro g _
    exact generates_of_evaluation hName hTable judge g
  rcases hCases with ⟨-, rfl⟩ | ⟨-, save, hSave, rfl⟩
  · refine
      ⟨_, _, [], (List.append_nil _).symm,
        forall₂_modelOption d "llm" _, hGeneration, ?_⟩
    intro text hText
    cases hText
  · refine
      ⟨_, _, _, List.map_append,
        forall₂_modelOption d "llm" _, hGeneration, ?_⟩
    intro text hText
    rcases List.mem_singleton.mp hText with rfl
    exact readsBack_scored hName hSave table

theorem readsBack_of_compile
    {request : Request}
    {texts : List String}
    (hCompile : request.compile d = .ok texts) :
    request.ReadsBack withoutTerminator texts := by
  simp only [Request.compile, bind_eq_ok_iff, pure_eq_ok_iff]
    at hCompile
  rcases hCompile with ⟨statements, hStatements, rfl⟩
  cases request with
  | createKnowledgeBase spec =>
      simp only [Request.statements, bind_eq_ok_iff,
        pure_eq_ok_iff] at hStatements
      rcases hStatements with ⟨s, hStatement, rfl⟩
      exact readsBack_knowledgeBase hStatement
  | evaluate spec => exact readsBack_evaluation hStatements
  | _ => trivial

end Sql

------------------------------------------------------------
-- Quoted Values
------------------------------------------------------------

/- An array or an object. -/
inductive Json.IsStructured : Json → Prop
  | array (items : List Json) : IsStructured (.array items)
  | object (members : List (String × Json)) :
      IsStructured (.object members)

/- The value that a JSON option writes. -/
theorem Arguments.parseJson_eq_ok
    {text : String}
    {value : Json}
    (hParse : Json.parse? text = some value)
    (flag : String) :
    parseJson flag text = .ok value := by
  unfold parseJson
  rw [hParse]

namespace Sql

/- An array or object is written as a text, its JSON. -/
theorem ofJson_of_isStructured
    {value : Json}
    (hStructured : value.IsStructured) :
    Literal.ofJson value = .ok (.text value.print) := by
  cases hStructured with
  | array items => rfl
  | object members => rfl

/-
  Structured values are read back. Nested options give the
  object of their entries. So do those of a compiled
  request: the models have all that was said about them, and
  the test data their count and their query without its
  terminator. An array or object is read back from between
  the quotes of a dialect.
-/
theorem structured_contract :
    (∀ (flag : String) (entries : List (String × Scalar)),
      (Keyed.keys entries).Nodup →
        (∀ key ∈ Keyed.keys entries,
          Keyed.index? key = none) →
          (∀ entry ∈ entries, entry.2.toJson.IsExact) →
            Arguments.parseJson flag (membersText entries) =
              .ok (.object (jsonMembers entries))) ∧
      (∀ (d : Dialect) (request : Request)
          (texts : List String),
        request.compile d = .ok texts →
          request.ReadsBack withoutTerminator texts) ∧
      ∀ (d : Dialect) (flag : String) (value : Json),
        value.IsStructured → value.IsExact →
          ∃ literal text,
            Literal.ofJson value = .ok literal ∧
              readQuoted d (literal.print d).toList =
                some (text, []) ∧
              Arguments.parseJson flag text = .ok value := by
  refine ⟨?_, ?_, ?_⟩
  · intro flag entries hDistinct hNames hExact
    exact
      Arguments.parseJson_eq_ok
        (parse?_membersText hDistinct hNames hExact) flag
  · intro d request texts hCompile
    exact readsBack_of_compile hCompile
  · intro d flag value hStructured hExact
    exact
      ⟨_, value.print, ofJson_of_isStructured hStructured,
        readQuoted_quoted value.print,
        Arguments.parseJson_eq_ok (Json.parse?_print hExact)
          flag⟩

/- Entries of each kind, with signs that have to be escaped. -/
def hostileEntries : List (String × Scalar) :=
  [("note", .text "it's \"so\" \\ \n"),
    ("count", .number (.integer (-7))), ("on", .bool true)]

/- A request for test data from a query with a terminator. -/
def terminatedEvaluation : Evaluation where
  knowledgeBase := "kb"
  testTable := { datasource := "ds", table := "t" }
  version := .documentId
  generation :=
    some { fromSql := some "SELECT 'a';", count := .integer 5 }
  evaluates := false
  judge := some { provider := "openai", name := "o'1" }

theorem compile_terminatedEvaluation :
    (Request.evaluate terminatedEvaluation).compile {} =
      .ok
        [usingText "EVALUATE KNOWLEDGE_BASE " "kb"
          ["test_table = ds.t",
            "generate_data = " ++
              "\x7b\"from_sql\": \"SELECT 'a'\", " ++
              "\"count\": 5\x7d",
            "evaluate = false",
            "llm = \x7b\"provider\": \"openai\", " ++
              "\"model_name\": \"o'1\"\x7d"]] := by
  decide +kernel

/- An object of an array and a text. -/
def nestedValue : Json :=
  .object
    [("a", .array [.null, .number (.integer 1)]),
      ("b", .text "it's \\")]

theorem structured_contract_hostile :
    Arguments.parseJson "--params"
          (membersText hostileEntries) =
        .ok (.object (jsonMembers hostileEntries)) ∧
      (Request.evaluate terminatedEvaluation).ReadsBack
        withoutTerminator
        [usingText "EVALUATE KNOWLEDGE_BASE " "kb"
          ["test_table = ds.t",
            "generate_data = " ++
              "\x7b\"from_sql\": \"SELECT 'a'\", " ++
              "\"count\": 5\x7d",
            "evaluate = false",
            "llm = \x7b\"provider\": \"openai\", " ++
              "\"model_name\": \"o'1\"\x7d"]] ∧
      ∃ literal text,
        Literal.ofJson nestedValue = .ok literal ∧
          readQuoted { escapesBackslash := true }
              (literal.print
                { escapesBackslash := true }).toList =
            some (text, []) ∧
          Arguments.parseJson "--params" text =
            .ok nestedValue := by
  obtain ⟨hEntries, hRequests, hValues⟩ := structured_contract
  refine
    ⟨hEntries "--params" hostileEntries (by decide) (by decide)
        ?_,
      hRequests {} _ _ compile_terminatedEvaluation,
      hValues _ "--params" nestedValue (.object _) ?_⟩
  · intro entry hEntry
    simp only [hostileEntries, List.mem_cons, List.not_mem_nil,
      or_false] at hEntry
    rcases hEntry with rfl | rfl | rfl
    · trivial
    · exact ⟨-7, rfl, by decide⟩
    · trivial
  · exact
      ⟨rfl, ⟨trivial, ⟨1, rfl, by decide⟩, trivial⟩, trivial,
        trivial⟩

/- The middle one of three options can be told apart. -/
theorem eq_of_usingText
    {head name first second other last : String}
    (hSame :
      usingText head name [first, second, last] =
        usingText head name [first, other, last]) :
    second = other := by
  unfold usingText at hSame
  simp only [String.intercalate_cons_cons,
    String.intercalate_singleton, String.append_left_inj,
    String.append_right_inj] at hSame
  exact hSame

/- The query for test data is not read back as it was given. -/
theorem not_readsBack :
    ¬ ∀ (d : Dialect) (request : Request)
        (texts : List String),
      request.compile d = .ok texts →
        request.ReadsBack id texts := by
  intro hAlways
  let g : Generation :=
    { fromSql := some "SELECT 'a';", count := .integer 5 }
  let spec : Evaluation :=
    { terminatedEvaluation with judge := none }
  have hCompile :
      (Request.evaluate spec).compile {} =
        .ok
          [usingText "EVALUATE KNOWLEDGE_BASE " "kb"
            ["test_table = " ++ ("ds" ++ "." ++ "t"),
              "generate_data" ++ " = " ++
                membersText (generationEntries g),
              "evaluate = false"]] := by
    decide +kernel
  rcases hAlways {} _ _ hCompile with
    ⟨judge, generation, score, hTexts, hJudge, hGeneration, -⟩
  cases hJudge
  rcases hGeneration with _ | ⟨hGenerates, hNone⟩
  cases hNone
  rcases hGenerates with ⟨data, rfl, hRead⟩
  have hProper : g.IsProper := by
    refine ⟨?_, 5, rfl, by decide⟩
    rintro _ ⟨⟩
    decide
  rcases hRead hProper with ⟨literal, hOption, hGiven⟩
  have hData := eq_of_usingText (List.cons.inj hTexts).1
  rw [hOption, String.append_right_inj] at hData
  rw [← hData, parse?_generationEntries hProper.count]
    at hGiven
  have hMembers := Json.object.inj (Option.some.inj hGiven)
  have hQuery :=
    congrArg (List.map fun member => member.2.text?) hMembers
  exact absurd hQuery (by decide)

end Sql

end KbConsole
