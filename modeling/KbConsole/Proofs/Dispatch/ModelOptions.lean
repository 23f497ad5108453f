import KbConsole.Proofs.Dispatch.Contract
import KbConsole.Proofs.Keyed
import KbConsole.Proofs.Request.Parameter
import KbConsole.Proofs.Sql.Compiled
import KbConsole.Request.OfArguments

/-
  The parameters of a model: when they are refused, and how
  they stand in its statement.

  Each one has an option of its own, in the order in which
  they were given, and its reader finds the text that was
  written after the first equals sign. The Google key of the
  settings may follow them.

  Key definitions include:
    * `NewModel.addedKey`
    * `NewModel.IsReadFrom`

  The main statement is `Request.modelOptions_contract`. It
  rests on `NewModel.exists_ofArguments_refused_iff` and on
  `Sql.modelStatement_eq_ok_iff`.
-/

namespace KbConsole

/- A value that must be there can only be missing. -/
theorem Arguments.failsWith_demand
    {α : Type}
    (label : String)
    (value : Option α) :
    FailsWith
      (fun problem => problem.kind = .missingRequiredField)
      (demand label value) := by
  cases value with
  | none => exact .error rfl
  | some found => exact .ok found

namespace NewModel

------------------------------------------------------------
-- Added Key
------------------------------------------------------------

/-
  The parameter that is added to those given: the Google key
  of the settings, if the engine is the one of Google and no
  key is given.
-/
def addedKey
    (settings : Settings)
    (engine : String)
    (given : List (String × String)) :
    List (String × String) :=
  match given? settings.googleApiKey with
  | none => []
  | some key =>
      if engine = "google_gemini" ∧
          "api_key" ∉ Keyed.keys given then
        [("api_key", key)]
      else
        []

theorem modelParams_eq_append
    (settings : Settings)
    (engine : String)
    (given : List (String × String)) :
    modelParams settings engine given =
      given ++ addedKey settings engine given := by
  unfold modelParams addedKey
  cases given? settings.googleApiKey with
  | none => simp
  | some key =>
      by_cases hEngine : engine = "google_gemini"
      · by_cases hKey : "api_key" ∈ Keyed.keys given
        · simp [hEngine, hKey, Keyed.has_eq_true hKey]
        · simp [hEngine, hKey, Keyed.has_eq_false hKey]
      · simp [hEngine]

------------------------------------------------------------
-- Models of Arguments
------------------------------------------------------------

/- What a model takes from the arguments and settings. -/
structure IsReadFrom
    (args : Arguments)
    (settings : Settings)
    (given : List (String × String))
    (spec : NewModel) : Prop where
  params :
    List.Forall₂ Parameter.IsWrittenAs (args.repeated "param")
      given
  ref : args.objectRef "modelName" "model_name" = .ok spec.ref
  engine : spec.engine = (args.word? "engine").getD defaultEngine
  query : args.text? "selectDataQuery" = some spec.query
  predictColumn :
    args.word? "predictColumn" = some spec.predictColumn
  promptTemplate :
    spec.promptTemplate = args.text? "promptTemplate"
  allParams :
    spec.params = given ++ addedKey settings spec.engine given

variable {args : Arguments}
variable {settings : Settings}
variable {spec : NewModel}

theorem ofArguments_eq_ok_iff :
    ofArguments args settings = .ok spec ↔
      ∃ given, IsReadFrom args settings given spec := by
  simp only [ofArguments, bind_eq_ok_iff, pure_eq_ok_iff,
    Parameter.listOfTexts_eq_ok_iff, Arguments.word,
    Arguments.text, Arguments.demand_eq_ok_iff,
    modelParams_eq_append]
  constructor
  · rintro
      ⟨given, hGiven, ref, hRef, query, hQuery, column,
        hColumn, rfl⟩
    exact
      ⟨given,
        { params := hGiven
          ref := hRef
          engine := rfl
          query := hQuery
          predictColumn := hColumn
          promptTemplate := rfl
          allParams := rfl }⟩
  · rintro ⟨given, hRead⟩
    refine
      ⟨given, hRead.params, spec.ref, hRead.ref, spec.query,
        hRead.query, spec.predictColumn, hRead.predictColumn,
        ?_⟩
    rw [← hRead.engine, ← hRead.promptTemplate,
      ← hRead.allParams]

/- A malformed parameter is met before anything else. -/
theorem ofArguments_eq_error_of_listOfTexts
    {problem : Problem}
    (hParams :
      Parameter.listOfTexts (args.repeated "param") =
        .error problem)
    (settings : Settings) :
    ofArguments args settings = .error problem := by
  unfold ofArguments
  dsimp only
  rw [hParams]
  rfl

/- Without malformed parameters, only fields may be missing. -/
theorem failsWith_ofArguments
    (hParams :
      ∀ text ∈ args.repeated "param",
        ¬ Parameter.IsMalformed text)
    (settings : Settings) :
    FailsWith
      (fun problem => problem.kind = .missingRequiredField)
      (ofArguments args settings) := by
  rcases Parameter.exists_listOfTexts_iff.mpr hParams with
    ⟨params, hRead⟩
  unfold ofArguments
  dsimp only
  rw [hRead, ok_bind]
  apply FailsWith.bind
  · exact (Arguments.failsWith_demand _ _).bind_pure _
  intro ref _
  apply (Arguments.failsWith_demand _ _).bind
  intro query _
  exact (Arguments.failsWith_demand _ _).bind_pure _

/- A model has an invalid value if a parameter is malformed. -/
theorem exists_ofArguments_refused_iff
    (args : Arguments)
    (settings : Settings) :
    (∃ problem,
      ofArguments args settings = .error problem ∧
        problem.kind = .invalidValue) ↔
      ∃ text ∈ args.repeated "param",
        Parameter.IsMalformed text := by
  constructor
  · rintro ⟨problem, hProblem, hKind⟩
    by_contra hNone
    have hParams :
        ∀ text ∈ args.repeated "param",
          ¬ Parameter.IsMalformed text := by
      intro text hText hMalformed
      exact hNone ⟨text, hText, hMalformed⟩
    have hMissing :=
      (failsWith_ofArguments hParams settings).of_eq_error
        problem hProblem
    rw [hMissing] at hKind
    cases hKind
  · intro hMalformed
    rcases Parameter.exists_listOfTexts_eq_error_iff.mpr
        hMalformed with ⟨problem, hProblem⟩
    have hKind :=
      (Parameter.failsWith_listOfTexts _).of_eq_error problem
        hProblem
    exact
      ⟨problem,
        ofArguments_eq_error_of_listOfTexts hProblem settings,
        hKind⟩

/- A model is made of well-formed parameters and fields. -/
theorem exists_ofArguments
    {name text column : String}
    (hName : args.word? "modelName" = some name)
    (hQuery : args.text? "selectDataQuery" = some text)
    (hColumn : args.word? "predictColumn" = some column)
    (hParams :
      ∀ text ∈ args.repeated "param",
        ¬ Parameter.IsMalformed text)
    (settings : Settings) :
    ∃ spec, ofArguments args settings = .ok spec := by
  rcases Parameter.exists_listOfTexts_iff.mpr hParams with
    ⟨params, hRead⟩
  unfold ofArguments Arguments.objectRef Arguments.word
    Arguments.text
  rw [hRead, hName, hQuery, hColumn]
  exact ⟨_, rfl⟩

/- A model without a query is missing a field. -/
theorem exists_ofArguments_eq_missing
    (hQuery : args.text? "selectDataQuery" = none)
    (hParams :
      ∀ text ∈ args.repeated "param",
        ¬ Parameter.IsMalformed text)
    (settings : Settings) :
    ∃ problem,
      ofArguments args settings = .error problem ∧
        problem.kind = .missingRequiredField := by
  cases hModel : ofArguments args settings with
  | error problem =>
      have hKind :=
        (failsWith_ofArguments hParams settings).of_eq_error
          problem hModel
      exact ⟨problem, rfl, hKind⟩
  | ok spec =>
      rcases ofArguments_eq_ok_iff.mp hModel with
        ⟨given, hRead⟩
      have hSome := hRead.query
      rw [hQuery] at hSome
      cases hSome

end NewModel

namespace Request

open Sql

------------------------------------------------------------
-- Requests
------------------------------------------------------------

theorem ofArguments_createModel
    (args : Arguments)
    (settings : Settings) :
    ofArguments .createModel args settings =
      (NewModel.ofArguments args settings).map createModel :=
  bind_pure_eq_map

/- A model that is read and has a statement. -/
theorem prepare_createModel_eq_ok
    {args : Arguments}
    {settings : Settings}
    {d : Dialect}
    {request : Request}
    {texts : List String}
    (hPrepare :
      prepare .createModel args settings d =
        .ok (request, texts)) :
    ∃ spec s,
      NewModel.ofArguments args settings = .ok spec ∧
        modelStatement spec = .ok s ∧
        request.statements d = .ok [s] ∧
        texts = [s.text d] := by
  rcases prepare_eq_ok_iff.mp hPrepare with
    ⟨hRequest, statements, hStatements, rfl⟩
  rw [ofArguments_createModel, map_eq_ok_iff] at hRequest
  rcases hRequest with ⟨spec, hSpec, rfl⟩
  have hBuilt := hStatements
  simp only [Request.statements, bind_eq_ok_iff,
    pure_eq_ok_iff] at hBuilt
  rcases hBuilt with ⟨s, hStatement, rfl⟩
  exact ⟨spec, s, hSpec, hStatement, hStatements, rfl⟩

/-
  A model is refused for an invalid value exactly when one
  of its parameters is malformed. Otherwise, and if it has
  a statement, each parameter has one option, in the order
  given and with its text unchanged. The options of the
  engine and of a template come before them, and the key of
  the settings, if it is added, comes last.
-/
theorem modelOptions_contract
    (settings : Settings)
    (d : Dialect) :
    (∀ args,
      (∃ problem,
        ofArguments .createModel args settings =
            .error problem ∧
          problem.kind = .invalidValue) ↔
        ∃ text ∈ args.repeated "param",
          Parameter.IsMalformed text) ∧
    (∀ args name query column,
      args.word? "modelName" = some name →
        args.text? "selectDataQuery" = some query →
          args.word? "predictColumn" = some column →
            (∀ text ∈ args.repeated "param",
              ¬ Parameter.IsMalformed text) →
              ∃ request,
                ofArguments .createModel args settings =
                  .ok request) ∧
    ∀ args request texts,
      prepare .createModel args settings d =
          .ok (request, texts) →
        ∃ name query predict options given,
          let engine :=
            (args.word? "engine").getD defaultEngine
          let template :=
            (args.text? "promptTemplate").toList.map
              (fun text => ("prompt_template", text))
          request.statements d =
              .ok [.createModel name query predict options] ∧
            texts =
              ["CREATE MODEL " ++ name.text ++ " FROM (" ++
                query ++ ") PREDICT " ++ predict.text ++
                " USING " ++
                ", ".intercalate
                  (options.map (Assignment.text d)) ++ ";"] ∧
            List.Forall₂ Parameter.IsWrittenAs
              (args.repeated "param") given ∧
            List.Forall₂ (IsReadOption d)
              (("engine", engine) :: template ++
                (given ++
                  NewModel.addedKey settings engine given))
              (options.map (Assignment.text d)) := by
  refine ⟨?_, ?_, ?_⟩
  · intro args
    simp only [ofArguments_createModel, map_eq_error_iff]
    exact
      NewModel.exists_ofArguments_refused_iff args settings
  · intro args name query column hName hQuery hColumn hParams
    rcases NewModel.exists_ofArguments hName hQuery hColumn
        hParams settings with ⟨spec, hSpec⟩
    rw [ofArguments_createModel, hSpec]
    exact ⟨createModel spec, rfl⟩
  · intro args request texts hPrepare
    rcases prepare_createModel_eq_ok hPrepare with
      ⟨spec, s, hSpec, hStatement, hStatements, rfl⟩
    rcases NewModel.ofArguments_eq_ok_iff.mp hSpec with
      ⟨given, hRead⟩
    rcases modelStatement_eq_ok_iff.mp hStatement with
      ⟨-, -, name, predict, -, -, rfl⟩
    refine
      ⟨name, _, predict, _, given, hStatements, ?_,
        hRead.params, ?_⟩
    · unfold Statement.text Statement.body Assignment.listText
      simp only [String.append_assoc]
    · have hEntries := forall₂_isReadOption d
        (modelSettings spec)
      unfold modelSettings at hEntries
      rw [hRead.engine, hRead.promptTemplate,
        Arguments.given?_text?, hRead.allParams, hRead.engine]
        at hEntries
      unfold modelSettings
      rw [hRead.engine, hRead.promptTemplate,
        Arguments.given?_text?, hRead.allParams, hRead.engine]
      exact hEntries

/-
  A key is given twice, once with a value that holds quotes,
  equals signs and blanks, and the key of the settings is
  added.
-/
theorem modelOptions_contract_repeatedKey :
    let written : List String :=
      [" note = it's = \\ ", "note=b"]
    let args : Arguments :=
      [("modelName", .text "m"), ("predictColumn", .text "y"),
        ("selectDataQuery", .text "SELECT 1;"),
        ("engine", .text "google_gemini"),
        ("param", .texts written)]
    let settings : Settings := { googleApiKey := some "shared" }
    let d : Dialect := { escapesBackslash := true }
    let text :=
      "CREATE MODEL m FROM (SELECT 1) PREDICT y USING " ++
        "engine = 'google_gemini', note = ' it''s = \\\\ ', " ++
        "note = 'b', api_key = 'shared';"
    (∀ text ∈ written, ¬ Parameter.IsMalformed text) ∧
      (∃ request,
        ofArguments .createModel args settings =
          .ok request) ∧
      (prepare .createModel args settings d).map Prod.snd =
        .ok [text] ∧
      ∃ name query predict options given,
        text =
            "CREATE MODEL " ++ name ++ " FROM (" ++ query ++
              ") PREDICT " ++ predict ++ " USING " ++
              ", ".intercalate options ++ ";" ∧
          List.Forall₂ Parameter.IsWrittenAs written given ∧
          List.Forall₂ (IsReadOption d)
            (("engine", "google_gemini") ::
              (given ++
                NewModel.addedKey settings "google_gemini"
                  given))
            options := by
  intro written args settings d text
  have hRead :
      Parameter.listOfTexts written =
        .ok [("note", " it's = \\ "), ("note", "b")] := by
    decide
  have hFine :
      ∀ text ∈ written, ¬ Parameter.IsMalformed text :=
    Parameter.exists_listOfTexts_iff.mp ⟨_, hRead⟩
  have hTexts :
      (prepare .createModel args settings d).map Prod.snd =
        .ok [text] := by
    decide +kernel
  rcases modelOptions_contract settings d with
    ⟨-, hRequests, hPrepared⟩
  have hRequest :=
    hRequests args "m" "SELECT 1;" "y" (by decide +kernel)
      (by decide +kernel) (by decide +kernel) hFine
  rcases map_eq_ok_iff.mp hTexts with
    ⟨⟨request, texts⟩, hPrepare, rfl⟩
  rcases hPrepared args request _ hPrepare with
    ⟨name, query, predict, options, given, -, hText, hWritten,
      hOptions⟩
  exact
    ⟨hFine, hRequest, hTexts, name.text, query, predict.text,
      options.map (Assignment.text d), given,
      (List.cons.inj hText).1, hWritten, hOptions⟩

end Request

end KbConsole
