import KbConsole.Proofs.Sql.Name
import KbConsole.Proofs.Sql.Reader
import KbConsole.Sql.Compile

/-
  The statements of models, jobs and evaluations: when there
  are any, and what they are made of.

  In the statement of a model the engine comes first, then
  the template if there is one, and then one option for each
  parameter. All of them are texts, so that their reader
  finds what was written.

  Key definitions include:
    * `Sql.modelSettings`
    * `Sql.generationStatements`
    * `Sql.IsReadOption`

  The main statements are `Sql.modelStatement_eq_ok_iff`,
  `Sql.jobStatement_eq_ok_iff`,
  `Sql.cases_of_evaluationStatements`, and
  `Sql.forall₂_isReadOption`.
-/

namespace KbConsole

namespace Sql

------------------------------------------------------------
-- Models
------------------------------------------------------------

/- The names and texts of the options of a model. -/
def modelSettings (spec : NewModel) : List (String × String) :=
  ("engine", spec.engine) ::
    (given? spec.promptTemplate).toList.map
      (fun template => ("prompt_template", template)) ++
    spec.params

/- An option that carries a text. -/
def textAssignment (entry : String × String) : Assignment :=
  .literal entry.1 (.text entry.2)

variable {label sql : String}
variable {spec : NewModel}

/- A query is found when it is not empty. -/
theorem queryOf_eq_ok_iff {query : String} :
    queryOf label sql = .ok query ↔
      withoutTerminator sql ≠ "" ∧
        withoutTerminator sql = query := by
  unfold queryOf
  by_cases hEmpty : withoutTerminator sql = ""
  · simp [hEmpty]
  · simp [hEmpty]

theorem modelParam_eq_ok_iff
    {param : String × String}
    {option : Assignment} :
    modelParam param = .ok option ↔
      Identifier.isSafe param.1 = true ∧
        textAssignment param = option := by
  rcases param with ⟨key, value⟩
  simp only [modelParam, bind_eq_ok_iff, pure_eq_ok_iff,
    Identifier.ofText_eq_ok_iff]
  constructor
  · rintro ⟨name, rfl, rfl⟩
    exact ⟨name.safe, rfl⟩
  · rintro ⟨hSafe, rfl⟩
    exact ⟨⟨key, hSafe⟩, rfl, rfl⟩

theorem mapM_modelParam_eq_ok_iff
    {params : List (String × String)}
    {options : List Assignment} :
    params.mapM modelParam = .ok options ↔
      (∀ param ∈ params, Identifier.isSafe param.1 = true) ∧
        params.map textAssignment = options := by
  rw [mapM_eq_ok_iff]
  simp only [modelParam_eq_ok_iff]
  rw [List.forall₂_and_left, List.forall₂_map_left_iff.symm,
    List.forall₂_eq_eq_eq]

/- All that there is to the statement of a model. -/
theorem modelStatement_eq_ok_iff {s : Statement} :
    modelStatement spec = .ok s ↔
      withoutTerminator spec.query ≠ "" ∧
        (∀ param ∈ spec.params,
          Identifier.isSafe param.1 = true) ∧
        ∃ name predict,
          ObjectName.ofRef "model name" spec.ref = .ok name ∧
            predict.text = spec.predictColumn ∧
            s =
              .createModel name (withoutTerminator spec.query)
                predict
                ((modelSettings spec).map textAssignment) := by
  have hOptions :
      (modelSettings spec).map textAssignment =
        .literal "engine" (.text spec.engine) ::
          textOption "prompt_template" spec.promptTemplate ++
          spec.params.map textAssignment := by
    unfold modelSettings textOption
    cases given? spec.promptTemplate with
    | none => rfl
    | some template => rfl
  simp only [modelStatement, bind_eq_ok_iff, pure_eq_ok_iff,
    queryOf_eq_ok_iff, mapM_modelParam_eq_ok_iff,
    Identifier.ofText_eq_ok_iff, hOptions]
  constructor
  · rintro ⟨_, ⟨hQuery, rfl⟩, _, ⟨hParams, rfl⟩, name, hName,
      predict, hPredict, rfl⟩
    exact ⟨hQuery, hParams, name, predict, hName, hPredict, rfl⟩
  · rintro ⟨hQuery, hParams, name, predict, hName, hPredict,
      rfl⟩
    exact
      ⟨_, ⟨hQuery, rfl⟩, _, ⟨hParams, rfl⟩, name, hName,
        predict, hPredict, rfl⟩

------------------------------------------------------------
-- Jobs
------------------------------------------------------------

/- All that there is to the statement of a job. -/
theorem jobStatement_eq_ok_iff
    {spec : NewJob}
    {s : Statement} :
    jobStatement spec = .ok s ↔
      spec.statements ≠ [] ∧
        ∃ name,
          ObjectName.ofRef "job name" spec.ref = .ok name ∧
            s =
              .createJob {
                name
                body := .statements spec.statements
                schedule := spec.schedule
                start := given? spec.start
                finish := given? spec.finish
                condition :=
                  (given? spec.condition).map
                    withoutTerminator } := by
  unfold jobStatement
  by_cases hNone : spec.statements = []
  · simp [hNone]
  · rw [if_neg (by simpa using hNone)]
    simp only [bind_eq_ok_iff, pure_eq_ok_iff]
    constructor
    · rintro ⟨name, hName, rfl⟩
      exact ⟨hNone, name, hName, rfl⟩
    · rintro ⟨-, name, hName, rfl⟩
      exact ⟨name, hName, rfl⟩

/- The condition of a job stands between its parentheses. -/
theorem JobDefinition.conditionClause_eq_iff
    (job : JobDefinition)
    (condition : String) :
    job.conditionClause = " IF (" ++ condition ++ ")" ↔
      job.condition = some condition := by
  unfold conditionClause
  cases job.condition with
  | none =>
      simp only [reduceCtorEq, iff_false]
      intro hNone
      have hChars := congrArg String.toList hNone
      simp at hChars
  | some other =>
      simp only [Option.some.injEq]
      constructor
      · intro hSame
        exact
          (String.append_right_inj " IF (").mp
            ((String.append_left_inj ")").mp hSame)
      · rintro rfl
        rfl

------------------------------------------------------------
-- Evaluations
------------------------------------------------------------

/- The options of the statement that evaluates. -/
def scoreOptions
    (spec : Evaluation)
    (table : TableName)
    (save : List Assignment) : List Assignment :=
  [{ name := "test_table", value := .table table },
    .literal "version" (.text spec.version.name)] ++
    spec.judge.toList.map (modelOption "llm") ++ save

/- The statement that generates test data, if there is one. -/
def generationStatements
    (spec : Evaluation)
    (name : Identifier)
    (table : TableName) : List Statement :=
  spec.generation.toList.map fun g =>
    .evaluate name
      (generationOptions table
        (spec.judge.toList.map (modelOption "llm")) g)

/- Test data are generated first, and then evaluated. -/
theorem cases_of_evaluationStatements
    {spec : Evaluation}
    {statements : List Statement}
    (hStatements : evaluationStatements spec = .ok statements) :
    ∃ name table,
      name.text = spec.knowledgeBase ∧
        TableName.ofRef spec.testTable = .ok table ∧
        ((spec.evaluates = false ∧
            statements = generationStatements spec name table) ∨
          (spec.evaluates = true ∧
            ∃ save,
              saveOption spec.saveTo = .ok save ∧
                statements =
                  generationStatements spec name table ++
                    [.evaluate name
                      (scoreOptions spec table save)])) := by
  simp only [evaluationStatements, bind_eq_ok_iff,
    Identifier.ofText_eq_ok_iff] at hStatements
  rcases hStatements with
    ⟨name, hName, table, hTable, hStatements⟩
  refine ⟨name, table, hName, hTable, ?_⟩
  split at hStatements
  · rename_i hEvaluates
    simp only [bind_eq_ok_iff, pure_eq_ok_iff] at hStatements
    rcases hStatements with ⟨save, hSave, rfl⟩
    exact Or.inr ⟨hEvaluates, save, hSave, rfl⟩
  · rename_i hEvaluates
    rcases pure_eq_ok_iff.mp hStatements with rfl
    exact Or.inl ⟨Bool.eq_false_iff.mpr hEvaluates, rfl⟩

------------------------------------------------------------
-- Parts of Options
------------------------------------------------------------

section Parts

variable {name field : String}
variable {columns : Option (List String)}
variable {column : Option String}
variable {table : Option TableRef}
variable {options : List Assignment}

theorem exists_of_mem_columnsOption
    (hOptions :
      columnsOption name field columns = .ok options) :
    ∀ option ∈ options,
      ∃ names, option = .literal name (.texts names) := by
  intro option hOption
  unfold columnsOption at hOptions
  split at hOptions
  · rcases Except.ok.inj hOptions with rfl
    cases hOption
  · rcases Except.ok.inj hOptions with rfl
    cases hOption
  · simp only [bind_eq_ok_iff, pure_eq_ok_iff] at hOptions
    rcases hOptions with ⟨names, _, rfl⟩
    exact ⟨names, List.mem_singleton.mp hOption⟩

theorem exists_of_mem_idOption
    (hOptions : idOption column = .ok options) :
    ∀ option ∈ options,
      ∃ id, option = .literal "id_column" (.text id) := by
  intro option hOption
  unfold idOption at hOptions
  split at hOptions
  · rcases Except.ok.inj hOptions with rfl
    cases hOption
  · simp only [bind_eq_ok_iff, pure_eq_ok_iff] at hOptions
    rcases hOptions with ⟨id, _, rfl⟩
    exact ⟨id.text, List.mem_singleton.mp hOption⟩

theorem exists_of_mem_saveOption
    (hOptions : saveOption table = .ok options) :
    ∀ option ∈ options,
      ∃ table,
        option =
          { name := "save_to", value := .table table } := by
  intro option hOption
  unfold saveOption at hOptions
  split at hOptions
  · rcases Except.ok.inj hOptions with rfl
    cases hOption
  · simp only [bind_eq_ok_iff, pure_eq_ok_iff] at hOptions
    rcases hOptions with ⟨table, _, rfl⟩
    exact ⟨table, List.mem_singleton.mp hOption⟩

theorem name_of_columnsOption
    (hOptions :
      columnsOption name field columns = .ok options) :
    ∀ option ∈ options, option.name = name := by
  intro option hOption
  rcases exists_of_mem_columnsOption hOptions option
    hOption with ⟨names, rfl⟩
  rfl

theorem name_of_idOption
    (hOptions : idOption column = .ok options) :
    ∀ option ∈ options, option.name = "id_column" := by
  intro option hOption
  rcases exists_of_mem_idOption hOptions option hOption with
    ⟨id, rfl⟩
  rfl

theorem name_of_saveOption
    (hOptions : saveOption table = .ok options) :
    ∀ option ∈ options, option.name = "save_to" := by
  intro option hOption
  rcases exists_of_mem_saveOption hOptions option hOption with
    ⟨table, rfl⟩
  rfl

end Parts

------------------------------------------------------------
-- Texts of Options
------------------------------------------------------------

/-
  An option as its reader finds it: a name, an equals sign,
  and a text between quotes that nothing follows.
-/
def IsReadOption
    (d : Dialect)
    (entry : String × String)
    (option : String) : Prop :=
  ∃ literal : String,
    option = entry.1 ++ " = " ++ literal ∧
      readQuoted d literal.toList = some (entry.2, [])

theorem isReadOption_text
    (d : Dialect)
    (entry : String × String) :
    IsReadOption d entry ((textAssignment entry).text d) := by
  exact ⟨quoted d entry.2, rfl, readQuoted_quoted entry.2⟩

/- Each text is read from its own option. -/
theorem forall₂_isReadOption
    (d : Dialect)
    (entries : List (String × String)) :
    List.Forall₂ (IsReadOption d) entries
      ((entries.map textAssignment).map
        (Assignment.text d)) := by
  rw [List.map_map, List.forall₂_map_right_iff]
  exact List.forall₂_same.mpr fun entry _ =>
    isReadOption_text d entry

end Sql

end KbConsole
