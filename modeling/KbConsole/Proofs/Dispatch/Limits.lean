import KbConsole.Proofs.Dispatch.UserSql
import KbConsole.Proofs.Number.Integer
import KbConsole.Proofs.Request.IngestionJob
import KbConsole.Proofs.Sql.Structured

/-
  Limits are exact.

  The limit of an ingestion, of a search or of a job's log,
  and the count of generated test data, have one place in
  the statements, and everything around it depends on the
  other options alone. An exact count stands there as its
  own numeral; what is no count is refused.

  Key definitions include:
    * `Operation.countOption?`
    * `Arguments.AgreeExcept`
    * `Request.withLimit`
    * `LimitPlace`

  The main statement is `prepare_limit`. It rests on
  `Request.ofArguments_eq_count` and `Request.exists_place`.
-/

namespace KbConsole

open Sql

------------------------------------------------------------
-- Options
------------------------------------------------------------

/- The option of an operation that is a count, and its flag. -/
def Operation.countOption? :
    Operation → Option (String × String)
  | ingest | query | jobLogs => some ("limit", "--limit")
  | evaluate => some ("generateCount", "--generate-count")
  | _ => none

namespace Arguments

/- Two lists of arguments differ in one option at most. -/
def AgreeExcept
    (key : String)
    (args others : Arguments) : Prop :=
  ∀ other,
    other ≠ key →
      Keyed.get? other args = Keyed.get? other others

variable {key other label : String}
variable {args others : Arguments}

theorem AgreeExcept.word?
    (hAgree : AgreeExcept key args others)
    (hOther : other ≠ key) :
    args.word? other = others.word? other := by
  unfold Arguments.word?
  rw [hAgree other hOther]

theorem AgreeExcept.text?
    (hAgree : AgreeExcept key args others)
    (hOther : other ≠ key) :
    args.text? other = others.text? other := by
  unfold Arguments.text?
  rw [hAgree other hOther]

theorem AgreeExcept.word
    (hAgree : AgreeExcept key args others)
    (hOther : other ≠ key) :
    args.word other label = others.word other label := by
  unfold Arguments.word
  rw [hAgree.word? hOther]

theorem AgreeExcept.text
    (hAgree : AgreeExcept key args others)
    (hOther : other ≠ key) :
    args.text other label = others.text other label := by
  unfold Arguments.text
  rw [hAgree.text? hOther]

theorem AgreeExcept.list?
    (hAgree : AgreeExcept key args others)
    (hOther : other ≠ key) :
    args.list? other label = others.list? other label := by
  unfold Arguments.list?
  rw [hAgree.word? hOther]

theorem AgreeExcept.json?
    (hAgree : AgreeExcept key args others)
    (hOther : other ≠ key) :
    args.json? other label = others.json? other label := by
  unfold Arguments.json?
  rw [hAgree.word? hOther]

/- What a count that is given is read as. -/
theorem count_of_word?
    {word : String}
    (hWord : args.word? key = some word)
    (fallback : Nat) :
    args.count key label fallback =
      match Number.count? word with
      | none => .error (.notPositive label word)
      | some n => .ok n := by
  cases hCount : Number.count? word with
  | none => simp only [count, hWord, hCount]
  | some n => simp only [count, hWord, hCount]

end Arguments

------------------------------------------------------------
-- Requests
------------------------------------------------------------

/- A request with another limit, or count of test data. -/
def Request.withLimit (n : Number) : Request → Request
  | ingest spec => .ingest { spec with limit := n }
  | query spec => .query { spec with limit := n }
  | jobLogs ref _ => .jobLogs ref n
  | evaluate spec =>
      .evaluate
        { spec with
          generation :=
            some
              { fromSql :=
                  spec.generation.bind Generation.fromSql
                count := n } }
  | request => request

section Reading

variable {args others : Arguments}
variable {word : String}

theorem Ingestion.ofArguments_eq_count
    {spec : Ingestion}
    (hAgree : args.AgreeExcept "limit" others)
    (hSpec : ofArguments others = .ok spec) :
    ofArguments args =
      (args.count "limit" "--limit" defaultIngestLimit).map
        fun n => { spec with limit := n } := by
  have hRead := isReadFrom_of_ofArguments hSpec
  rcases hRead.content with ⟨content, hContent, hChosen⟩
  rcases hRead.metadata with ⟨map, hMap, hMetadata⟩
  have hSource : ingestionSource args = .ok spec.source := by
    rw [← hRead.source]
    unfold ingestionSource
    rw [hAgree.word? (by decide), hAgree.word? (by decide),
      hAgree.word? (by decide)]
  have hOrder : orderOf args = .ok spec.orderBy := by
    rw [← hRead.order]
    unfold orderOf
    rw [hAgree.word? (by decide)]
  rw [ofArguments_eq, hAgree.word (by decide),
    hAgree.json? (by decide), hAgree.list? (by decide),
    hAgree.word? (by decide), hAgree.word? (by decide),
    hRead.knowledgeBase, hSource, hMap, hContent]
  simp only [ok_bind, hMetadata, hOrder]
  rw [bind_pure_eq_map, ← hChosen, ← hRead.idColumn,
    ← hRead.ensureDatasource]

/- The filter that a JSON value makes, if there is one. -/
def Search.filterOf : Option Json → Except Problem Filter
  | none => .ok []
  | some json => Filter.ofJson "--metadata-filter" json

/- The parts of a search are read one after another. -/
theorem Search.ofArguments_eq (args : Arguments) :
    ofArguments args =
      (do
        let json ←
          args.json? "metadataFilter" "--metadata-filter"
        let knowledgeBase ← args.word "kbName" "kb_name"
        let text ← args.text "queryText" "query_text"
        let filter ← filterOf json
        let limit ←
          args.count "limit" "--limit" defaultQueryLimit
        return { knowledgeBase, text, filter, limit }) := by
  unfold ofArguments
  apply bind_congr
  intro json
  cases json <;> rfl

theorem Search.ofArguments_eq_count
    {spec : Search}
    (hAgree : args.AgreeExcept "limit" others)
    (hSpec : ofArguments others = .ok spec) :
    ofArguments args =
      (args.count "limit" "--limit" defaultQueryLimit).map
        fun n => { spec with limit := n } := by
  simp only [ofArguments_eq, bind_eq_ok_iff, pure_eq_ok_iff]
    at hSpec
  rcases hSpec with
    ⟨json, hJson, name, hName, text, hText, filter, hFilter, _,
      -, rfl⟩
  rw [ofArguments_eq, hAgree.json? (by decide),
    hAgree.word (by decide), hAgree.text (by decide), hJson,
    hName, hText]
  simp only [ok_bind, hFilter]
  rw [bind_pure_eq_map]

/- The table that an evaluation is saved to, if it is. -/
def Evaluation.savedTo
    (args : Arguments) : Except Problem (Option TableRef) :=
  match args.word? "saveTo" with
  | none => .ok none
  | some text => (TableRef.ofText "--save-to" text).map some

/- The parts of an evaluation are read one after another. -/
theorem Evaluation.ofArguments_eq
    (args : Arguments)
    (settings : Settings) :
    ofArguments args settings =
      (do
        let version ←
          EvaluationVersion.ofText
            ((args.word? "evalVersion").getD
              EvaluationVersion.documentId.name)
        if args.isUnset "evaluate" &&
            !asksForGeneration args then
          .error .nothingToEvaluate
        else
          let knowledgeBase ← args.word "kbName" "kb_name"
          let table ← args.word "testTable" "--test-table"
          let testTable ← TableRef.ofText "--test-table" table
          let generation ← generation? args
          let saveTo ← savedTo args
          return {
            knowledgeBase
            testTable
            version
            generation
            evaluates := !args.isUnset "evaluate"
            judge := judge? args settings
            saveTo }) := by
  unfold ofArguments savedTo
  simp only [Bool.not_not]
  apply bind_congr
  intro version
  cases args.word? "saveTo" <;> rfl

theorem generation?_eq_count
    (hAgree : args.AgreeExcept "generateCount" others)
    (hWord : args.word? "generateCount" = some word) :
    asksForGeneration args = true ∧
      generation? args =
        (args.count "generateCount" "--generate-count"
          defaultTestRows).map
          fun n =>
            some
              { fromSql := others.text? "generateFromSql"
                count := n } := by
  have hAsks : asksForGeneration args = true := by
    unfold asksForGeneration
    rw [hWord, Option.isSome_some, Bool.or_true]
  refine ⟨hAsks, ?_⟩
  unfold generation?
  rw [if_pos hAsks, hAgree.text? (by decide)]
  exact bind_pure_eq_map

theorem judge?_congr
    (hAgree : args.AgreeExcept "generateCount" others)
    (settings : Settings) :
    judge? args settings = judge? others settings := by
  unfold judge?
  rw [hAgree.word? (by decide), hAgree.word? (by decide),
    hAgree.word? (by decide), hAgree.word? (by decide)]

theorem Evaluation.ofArguments_eq_count
    {spec : Evaluation}
    {settings : Settings}
    (hAgree : args.AgreeExcept "generateCount" others)
    (hWord : args.word? "generateCount" = some word)
    (hSpec : ofArguments others settings = .ok spec) :
    ofArguments args settings =
      (args.count "generateCount" "--generate-count"
        defaultTestRows).map
        fun n =>
          { spec with
            generation :=
              some
                { fromSql :=
                    spec.generation.bind Generation.fromSql
                  count := n } } := by
  have hQuery := fromSql_of_ofArguments hSpec
  rcases generation?_eq_count hAgree hWord with
    ⟨hAsks, hGeneration⟩
  have hUnset :
      args.isUnset "evaluate" = others.isUnset "evaluate" := by
    unfold Arguments.isUnset
    rw [hAgree _ (by decide)]
  have hSaved : savedTo args = savedTo others := by
    unfold savedTo
    rw [hAgree.word? (by decide)]
  simp only [ofArguments_eq, bind_eq_ok_iff] at hSpec
  rcases hSpec with ⟨version, hVersion, hSpec⟩
  split at hSpec
  · cases hSpec
  · simp only [bind_eq_ok_iff, pure_eq_ok_iff] at hSpec
    rcases hSpec with
      ⟨name, hName, table, hTable, testTable, hTestTable, _, -,
        saveTo, hSaveTo, rfl⟩
    rw [ofArguments_eq, hAsks, hUnset, hSaved,
      judge?_congr hAgree, hGeneration,
      hAgree.word? (by decide), hAgree.word (by decide),
      hAgree.word (by decide), hVersion, hName, hTable]
    simp only [ok_bind, hTestTable, hSaveTo, Bool.not_true,
      Bool.and_false, Bool.false_eq_true, if_false]
    rw [bind_pure_eq_map, map_map, hQuery]

theorem jobInProject_congr
    (hAgree : args.AgreeExcept "limit" others)
    (settings : Settings) :
    jobInProject args settings =
      jobInProject others settings := by
  unfold jobInProject
  rw [hAgree.word (by decide), hAgree.word? (by decide)]

end Reading

namespace Request

/- Only the limit is read from the option that differs. -/
theorem ofArguments_eq_count
    {op : Operation}
    {key flag word : String}
    (hOption : op.countOption? = some (key, flag))
    {args others : Arguments}
    (hAgree : args.AgreeExcept key others)
    (hWord : args.word? key = some word)
    {settings : Settings}
    {request : Request}
    (hOthers : ofArguments op others settings = .ok request) :
    ∃ fallback,
      ofArguments op args settings =
        (args.count key flag fallback).map request.withLimit
      := by
  cases op with
  | ingest =>
      cases hOption
      simp only [ofArguments, bind_eq_ok_iff, pure_eq_ok_iff]
        at hOthers ⊢
      rcases hOthers with ⟨spec, hSpec, rfl⟩
      refine ⟨defaultIngestLimit, ?_⟩
      rw [bind_pure_eq_map,
        Ingestion.ofArguments_eq_count hAgree hSpec, map_map]
      rfl
  | query =>
      cases hOption
      simp only [ofArguments, bind_eq_ok_iff, pure_eq_ok_iff]
        at hOthers ⊢
      rcases hOthers with ⟨spec, hSpec, rfl⟩
      refine ⟨defaultQueryLimit, ?_⟩
      rw [bind_pure_eq_map,
        Search.ofArguments_eq_count hAgree hSpec, map_map]
      rfl
  | jobLogs =>
      cases hOption
      simp only [ofArguments, bind_eq_ok_iff, pure_eq_ok_iff]
        at hOthers ⊢
      rcases hOthers with ⟨ref, hRef, limit, -, rfl⟩
      refine ⟨defaultLogLimit, ?_⟩
      rw [jobInProject_congr hAgree, hRef, ok_bind,
        bind_pure_eq_map]
      rfl
  | evaluate =>
      cases hOption
      simp only [ofArguments, bind_eq_ok_iff, pure_eq_ok_iff]
        at hOthers ⊢
      rcases hOthers with ⟨spec, hSpec, rfl⟩
      refine ⟨defaultTestRows, ?_⟩
      rw [bind_pure_eq_map,
        Evaluation.ofArguments_eq_count hAgree hWord hSpec,
        map_map]
      rfl
  | _ => cases hOption

end Request

------------------------------------------------------------
-- Statements
------------------------------------------------------------

/-
  The place of a limit in a list of statements: those before
  and after its own, and what stands before and after it.
-/
structure LimitPlace where
  front : List String := []
  before : String
  after : String
  rest : List String := []

namespace LimitPlace

/- The statements with a text in the place of the limit. -/
def texts (place : LimitPlace) (limit : String) : List String :=
  place.front ++
    (place.before ++ limit ++ place.after) :: place.rest

/-
  A place that fits an operation. The count of test data is
  the last nested option of the first statement; any other
  limit comes last of all, behind its keyword.
-/
def Fits (place : LimitPlace) (op : Operation) : Prop :=
  match op with
  | .evaluate =>
      place.front = [] ∧
        (∃ start,
          place.before = start ++ "\"count\": ") ∧
        ∃ close,
          place.after = "\x7d, evaluate = false" ++ close
  | _ =>
      place.rest = [] ∧
        (∃ start, place.before = start ++ " LIMIT ") ∧
        place.after = ";"

end LimitPlace

namespace Sql

variable {d : Dialect}

theorem insertionOf_withLimit
    {incremental : Bool}
    {spec : Ingestion}
    {i : Insertion}
    (hInsertion : insertionOf d incremental spec = .ok i)
    (n : Nat) :
    insertionOf d incremental
        { spec with limit := .integer n } =
      .ok { i with limit := .integer n } := by
  simp only [insertionOf, bind_eq_ok_iff, pure_eq_ok_iff]
    at hInsertion ⊢
  rcases hInsertion with
    ⟨selected, hSelected, name, hName, source, hSource, newest,
      hNewest, order, hOrder, limit, hLimit, rfl⟩
  exact
    ⟨selected, hSelected, name, hName, source, hSource, newest,
      hNewest, order, hOrder, _, rfl, rfl⟩

/- The limit of an insertion comes last. -/
theorem text_withLimit
    (i : Insertion)
    (n : Nat) :
    Statement.text d (.insert { i with limit := .integer n }) =
      i.frontText d ++ i.newestText ++ i.orderText ++
        " LIMIT " ++ toString n ++ ";" := by
  have hText :
      ({ i with limit := .integer n } : Insertion).text d =
        i.frontText d ++ i.newestText ++ i.orderText ++
          " LIMIT " ++ toString n := by
    rw [Insertion.text_eq_front, ← Number.text_natCast]
    unfold Insertion.restText
    simp only [String.append_assoc]
    rfl
  exact congrArg (· ++ ";") hText

theorem exists_place_ingest
    {spec : Ingestion}
    {texts : List String}
    (hCompile : (Request.ingest spec).compile d = .ok texts) :
    ∃ place : LimitPlace,
      place.Fits .ingest ∧
        ∀ n : Nat,
          ((Request.ingest spec).withLimit
              (.integer n)).compile d =
            .ok (place.texts (toString n)) := by
  rw [compile_ingest] at hCompile
  simp only [bind_eq_ok_iff] at hCompile
  rcases hCompile with ⟨front, hFront, i, hInsertion, -⟩
  let place : LimitPlace :=
    { front := front.map (Statement.text d)
      before :=
        i.frontText d ++ i.newestText ++ i.orderText ++
          " LIMIT "
      after := ";" }
  refine ⟨place, ⟨rfl, ⟨_, rfl⟩, rfl⟩, ?_⟩
  intro n
  have hFrontLimit :
      frontOf { spec with limit := .integer n } = .ok front :=
    hFront
  rw [Request.withLimit, compile_ingest, hFrontLimit,
    insertionOf_withLimit hInsertion]
  simp only [ok_bind, Insertion.textsAfter,
    ← Insertion.text_insert, text_withLimit]
  rfl

theorem exists_place_query
    {spec : Search}
    {texts : List String}
    (hCompile : (Request.query spec).compile d = .ok texts) :
    ∃ place : LimitPlace,
      place.Fits .query ∧
        ∀ n : Nat,
          ((Request.query spec).withLimit
              (.integer n)).compile d =
            .ok (place.texts (toString n)) := by
  simp only [Request.compile, Request.statements,
    searchStatement, bind_eq_ok_iff, pure_eq_ok_iff]
    at hCompile
  rcases hCompile with
    ⟨_, ⟨_, ⟨conditions, hConditions, name, hName, _, -, rfl⟩,
      rfl⟩, -⟩
  let place : LimitPlace :=
    { before :=
        "SELECT * FROM " ++ name.text ++ " WHERE " ++
          Statement.searchConditions d spec.text conditions ++
          " LIMIT "
      after := ";" }
  refine ⟨place, ⟨rfl, ⟨_, rfl⟩, rfl⟩, ?_⟩
  intro n
  have hStatements :
      ((Request.query spec).withLimit
          (.integer n)).statements d =
        .ok [.search name spec.text conditions (.integer n)]
      := by
    simp only [Request.withLimit, Request.statements,
      searchStatement, hConditions, hName, ok_bind]
    rfl
  rw [Request.compile_of_statements hStatements,
    ← Number.text_natCast]
  rfl

theorem exists_place_jobLogs
    {ref : ObjectRef}
    {limit : Number}
    {texts : List String}
    (hCompile :
      (Request.jobLogs ref limit).compile d = .ok texts) :
    ∃ place : LimitPlace,
      place.Fits .jobLogs ∧
        ∀ n : Nat,
          ((Request.jobLogs ref limit).withLimit
              (.integer n)).compile d =
            .ok (place.texts (toString n)) := by
  simp only [Request.compile, Request.statements,
    bind_eq_ok_iff, pure_eq_ok_iff] at hCompile
  rcases hCompile with
    ⟨_, ⟨⟨project, job⟩, hJob, _, -, rfl⟩, -⟩
  let place : LimitPlace :=
    { before :=
        "SELECT run_start, run_end, error, query FROM " ++
          JobTable.history.text project ++
          Statement.jobCondition d job ++
          " ORDER BY run_start DESC" ++ " LIMIT "
      after := ";" }
  refine ⟨place, ⟨rfl, ⟨_, rfl⟩, rfl⟩, ?_⟩
  intro n
  have hStatements :
      ((Request.jobLogs ref limit).withLimit
          (.integer n)).statements d =
        .ok [.selectRuns project job (.integer n)] := by
    simp only [Request.withLimit, Request.statements, hJob,
      ok_bind]
    rfl
  have hKeyword :
      " ORDER BY run_start DESC" ++ " LIMIT " =
        " ORDER BY run_start DESC LIMIT " :=
    rfl
  rw [Request.compile_of_statements hStatements,
    ← Number.text_natCast, LimitPlace.texts]
  simp only [place, Text.append_joined hKeyword]
  rfl

/- The count is the last of the nested options. -/
theorem exists_membersText_generation
    (fromSql : Option String) :
    ∃ start, ∀ n : Nat,
      membersText
          (generationEntries
            { fromSql, count := .integer n }) =
        start ++ "\"count\": " ++ toString n ++ "\x7d" := by
  have hCount (n : Nat) :
      memberText ("count", .number (.integer n)) =
        "\"count\": " ++ toString n := by
    have hKey : Json.quote "count" ++ ": " = "\"count\": " := by
      decide
    have hPrint :
        (Scalar.number (.integer n)).toJson.print =
          (Number.integer n).text :=
      rfl
    rw [memberText, hKey, hPrint, Number.text_natCast]
  cases hSql : given? fromSql with
  | none =>
      refine ⟨"\x7b", ?_⟩
      intro n
      simp only [membersText, generationEntries_eq_map, hSql,
        Option.toList_none, List.map_nil, List.nil_append,
        List.map_cons, String.intercalate_singleton, hCount,
        String.append_assoc]
  | some sql =>
      refine
        ⟨"\x7b" ++
          memberText
            ("from_sql", .text (withoutTerminator sql)) ++
          ", ", ?_⟩
      intro n
      simp only [membersText, generationEntries_eq_map, hSql,
        Option.toList_some, List.map_cons, List.map_nil,
        List.cons_append, List.nil_append,
        String.intercalate_cons_cons,
        String.intercalate_singleton, hCount,
        String.append_assoc]

/- The first of joined texts stands in front. -/
theorem exists_intercalate_eq_append
    (separator first : String)
    (parts : List String) :
    ∃ tail,
      separator.intercalate (first :: parts) =
        first ++ tail := by
  cases parts with
  | nil => exact ⟨"", by simp⟩
  | cons part parts =>
      refine
        ⟨separator ++ separator.intercalate (part :: parts), ?_⟩
      rw [String.intercalate_cons_cons, String.append_assoc]

theorem evaluationStatements_withLimit
    {spec : Evaluation}
    {statements : List Statement}
    (hStatements : evaluationStatements spec = .ok statements) :
    ∃ name table rest, ∀ g : Generation,
      evaluationStatements { spec with generation := some g } =
        .ok
          (.evaluate name
              (generationOptions table
                (spec.judge.toList.map (modelOption "llm"))
                g) ::
            rest) := by
  simp only [evaluationStatements, bind_eq_ok_iff]
    at hStatements
  rcases hStatements with ⟨name, hName, table, hTable, hScore⟩
  split at hScore
  · rename_i hEvaluates
    simp only [bind_eq_ok_iff, pure_eq_ok_iff] at hScore
    rcases hScore with ⟨save, hSave, -⟩
    refine
      ⟨name, table,
        [.evaluate name (scoreOptions spec table save)], ?_⟩
    intro g
    unfold evaluationStatements
    simp only [hName, hTable, ok_bind, hEvaluates, if_true,
      hSave]
    rfl
  · rename_i hEvaluates
    refine ⟨name, table, [], ?_⟩
    intro g
    unfold evaluationStatements
    simp only [hName, hTable, ok_bind, hEvaluates]
    rfl

/- The options of the statement that generates test data. -/
theorem text_generation
    (name : Identifier)
    (table : TableName)
    (judge : List Assignment)
    (g : Generation) :
    Statement.text d
        (.evaluate name (generationOptions table judge g)) =
      usingText "EVALUATE KNOWLEDGE_BASE " name.text
        (("test_table = " ++ table.text) ::
          ("generate_data = " ++
            membersText (generationEntries g)) ::
          "evaluate = false" ::
          judge.map (Assignment.text d)) :=
  rfl

theorem exists_place_evaluate
    {spec : Evaluation}
    {texts : List String}
    (hCompile : (Request.evaluate spec).compile d = .ok texts) :
    ∃ place : LimitPlace,
      place.Fits .evaluate ∧
        ∀ n : Nat,
          ((Request.evaluate spec).withLimit
              (.integer n)).compile d =
            .ok (place.texts (toString n)) := by
  simp only [Request.compile, Request.statements,
    bind_eq_ok_iff, pure_eq_ok_iff] at hCompile
  rcases hCompile with ⟨statements, hStatements, -⟩
  rcases evaluationStatements_withLimit hStatements with
    ⟨name, table, rest, hLimited⟩
  rcases exists_membersText_generation
      (spec.generation.bind Generation.fromSql) with
    ⟨start, hStart⟩
  rcases exists_intercalate_eq_append ", " "evaluate = false"
      ((spec.judge.toList.map (modelOption "llm")).map
        (Assignment.text d)) with
    ⟨tail, hTail⟩
  let place : LimitPlace :=
    { before :=
        "EVALUATE KNOWLEDGE_BASE " ++ name.text ++ " USING " ++
          ("test_table = " ++ table.text) ++ ", " ++
          "generate_data = " ++ start ++ "\"count\": "
      after := "\x7d, evaluate = false" ++ (tail ++ ";")
      rest := rest.map (Statement.text d) }
  refine ⟨place, ⟨rfl, ⟨_, rfl⟩, _, rfl⟩, ?_⟩
  intro n
  have hStatements :
      ((Request.evaluate spec).withLimit
          (.integer n)).statements d = .ok _ :=
    hLimited _
  have hNext :
      ", " ++ "evaluate = false" = ", evaluate = false" :=
    rfl
  have hClose :
      "\x7d" ++ ", evaluate = false" =
        "\x7d, evaluate = false" :=
    rfl
  rw [Request.compile_of_statements hStatements, List.map_cons,
    text_generation, usingText, String.intercalate_cons_cons,
    String.intercalate_cons_cons, hTail, hStart]
  simp only [LimitPlace.texts, place, List.nil_append,
    String.append_assoc, Text.joined_append hNext,
    Text.joined_append hClose]

end Sql

------------------------------------------------------------
-- Limits
------------------------------------------------------------

/- What is read for an operation is a request of its kind. -/
theorem Request.operation_of_ofArguments
    {op : Operation}
    {args : Arguments}
    {settings : Settings}
    {request : Request}
    (hRequest : ofArguments op args settings = .ok request) :
    request.operation = op := by
  cases op
  all_goals
    simp only [ofArguments, bind_eq_ok_iff, pure_eq_ok_iff,
      Except.ok.injEq] at hRequest
    grind [Request.operation]

/- A limit has one place in the statements of a request. -/
theorem Request.exists_place
    {op : Operation}
    {key flag : String}
    (hOption : op.countOption? = some (key, flag))
    {d : Dialect}
    {request : Request}
    (hOperation : request.operation = op)
    {texts : List String}
    (hCompile : request.compile d = .ok texts) :
    ∃ place : LimitPlace,
      place.Fits op ∧
        ∀ n : Nat,
          (request.withLimit (.integer n)).compile d =
            .ok (place.texts (toString n)) := by
  subst hOperation
  cases request with
  | ingest spec => exact exists_place_ingest hCompile
  | query spec => exact exists_place_query hCompile
  | jobLogs ref limit => exact exists_place_jobLogs hCompile
  | evaluate spec => exact exists_place_evaluate hCompile
  | _ => cases hOption

/-
  Limits are exact. All other options being given, the
  statements have one place for the limit. If the limit is
  an integer from one to the largest exact one, its own
  numeral stands in this place, and nothing else depends on
  it. If it is no integer, or one below one, it is refused
  under its flag when it is read.
-/
theorem prepare_limit
    {op : Operation}
    {key flag : String}
    (hOption : op.countOption? = some (key, flag))
    {others : Arguments}
    {settings : Settings}
    {d : Dialect}
    {prepared : Request × List String}
    (hOthers : prepare op others settings d = .ok prepared) :
    ∃ place : LimitPlace,
      place.Fits op ∧
        ∀ (args : Arguments) (limit : String),
          args.AgreeExcept key others →
            Keyed.get? key args = some (.text limit) →
              Text.isVoid limit = false →
                (∀ n : Nat,
                  Text.WritesInteger
                      (Text.trim limit).toList n →
                    1 ≤ n →
                      n ≤ 2 ^ 53 - 1 →
                        (prepare op args settings d).map
                            Prod.snd =
                          .ok (place.texts (toString n))) ∧
                  ((∀ n : Int,
                    Text.WritesInteger
                        (Text.trim limit).toList n →
                      n < 1) →
                    ∃ problem,
                      Request.ofArguments op args settings =
                          .error problem ∧
                        prepare op args settings d =
                          .error problem ∧
                        problem.kind = .invalidValue ∧
                        problem.field? = some flag) := by
  simp only [prepare, bind_eq_ok_iff, pure_eq_ok_iff]
    at hOthers
  rcases hOthers with
    ⟨request, hRequest, texts, hCompile, -⟩
  rcases Request.exists_place hOption
      (Request.operation_of_ofArguments hRequest) hCompile with
    ⟨place, hFits, hPlace⟩
  refine ⟨place, hFits, ?_⟩
  intro args limit hAgree hLimit hFilled
  have hWord : args.word? key = some (Text.trim limit) :=
    Arguments.word?_eq_some_iff.mpr
      ⟨limit, hLimit, hFilled, rfl⟩
  have hTrimmed :
      Text.trimChars (Text.trim limit).toList =
        (Text.trim limit).toList := by
    unfold Text.trim
    rw [String.toList_ofList, Text.trimChars_trimChars]
  rcases Request.ofArguments_eq_count hOption hAgree hWord
      hRequest with
    ⟨fallback, hRead⟩
  rw [Arguments.count_of_word? hWord] at hRead
  constructor
  · intro n hWrites hPositive hExact
    rw [← hTrimmed] at hWrites
    rw [Number.count?_of_writesInteger hWrites hPositive hExact]
      at hRead
    have hLimited :
        Request.ofArguments op args settings =
          .ok (request.withLimit (.integer n)) :=
      hRead
    simp only [prepare, hLimited, ok_bind, hPlace n]
    rfl
  · intro hSmall
    rw [← hTrimmed] at hSmall
    rw [Number.count?_eq_none_iff.mpr hSmall] at hRead
    have hRefused :
        Request.ofArguments op args settings =
          .error (.notPositive flag (Text.trim limit)) :=
      hRead
    refine ⟨_, hRefused, ?_, rfl, rfl⟩
    unfold prepare
    rw [hRefused]
    rfl

/- The arguments of a search with a limit. -/
def limitedSearch (limit : String) : Arguments :=
  [("kbName", .text "kb"), ("queryText", .text "q"),
    ("limit", .text limit)]

theorem agreeExcept_limitedSearch (limit other : String) :
    (limitedSearch limit).AgreeExcept "limit"
      (limitedSearch other) := by
  intro key hKey
  simp [limitedSearch, Keyed.get?, hKey.symm]

theorem writesInteger_seven :
    Text.WritesInteger (Text.trim " +007 ").toList
      (7 : Nat) := by
  have hText :
      (Text.trim " +007 ").toList = '+' :: ['0', '0', '7'] := by
    decide
  have hDigits : Text.isNumeral ['0', '0', '7'] = true := by
    decide
  rw [hText]
  exact .plus hDigits

theorem not_writesInteger_fraction (n : Int) :
    ¬ Text.WritesInteger (Text.trim "1.5").toList n := by
  have hText : (Text.trim "1.5").toList = ['1', '.', '5'] := by
    decide
  rw [hText]
  intro hWrites
  cases hWrites with
  | unsigned hDigits => exact absurd hDigits (by decide)

theorem prepare_limit_search :
    (prepare .query (limitedSearch "1") {} {}).map Prod.snd =
        .ok
          ["SELECT * FROM kb WHERE content LIKE 'q' LIMIT 1;"] ∧
      ∃ place : LimitPlace,
        place.Fits .query ∧
          (prepare .query (limitedSearch " +007 ") {} {}).map
              Prod.snd =
            .ok (place.texts "7") ∧
          ∃ problem,
            prepare .query (limitedSearch "1.5") {} {} =
                .error problem ∧
              problem.kind = .invalidValue ∧
              problem.field? = some "--limit" := by
  have hOther :
      (prepare .query (limitedSearch "1") {} {}).map Prod.snd =
        .ok
          ["SELECT * FROM kb WHERE content LIKE 'q' LIMIT 1;"]
      := by
    decide +kernel
  refine ⟨hOther, ?_⟩
  rcases map_eq_ok_iff.mp hOther with ⟨prepared, hPrepared, -⟩
  obtain ⟨place, hFits, hPlace⟩ := prepare_limit rfl hPrepared
  rcases hPlace (limitedSearch " +007 ") " +007 "
      (agreeExcept_limitedSearch _ _) rfl (by decide) with
    ⟨hAccepted, -⟩
  rcases hPlace (limitedSearch "1.5") "1.5"
      (agreeExcept_limitedSearch _ _) rfl (by decide) with
    ⟨-, hRefused⟩
  rcases hRefused (fun n hWrites =>
      absurd hWrites (not_writesInteger_fraction n)) with
    ⟨problem, -, hProblem, hKind, hField⟩
  exact
    ⟨place, hFits,
      hAccepted 7 writesInteger_seven (by decide) (by decide),
      problem, hProblem, hKind, hField⟩

end KbConsole
