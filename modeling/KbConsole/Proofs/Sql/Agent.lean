import KbConsole.Proofs.Keyed
import KbConsole.Proofs.Sql.Name
import KbConsole.Request.OfArguments
import KbConsole.Sql.Compile

/-
  The statement of an agent: when there is one, and which
  options it has.

  The options with names of their own come first, and then
  one for each parameter.

  Key definitions include:
    * `Sql.namedOptions`
    * `Sql.IsOptionOf`
    * `Sql.IsCompilable`

  The main statements are `Sql.agentStatement_eq_ok_iff` and
  `Sql.exists_agentStatement_iff`.
-/

namespace KbConsole

/- A table, qualified by its datasource. -/
def TableRef.qualified (ref : TableRef) : String :=
  ref.datasource ++ "." ++ ref.table

namespace Sql

------------------------------------------------------------
-- Names of Options
------------------------------------------------------------

/- An option that lists tables, unless there are none. -/
def listedTables (tables : List TableRef) : List Assignment :=
  if tables.isEmpty then
    []
  else
    [.literal "include_tables"
      (.texts (tables.map TableRef.qualified))]

/- The options of an agent that have names of their own. -/
def namedOptions (spec : NewAgent) : List Assignment :=
  .literal "model" (.text spec.model) ::
    textOption "google_api_key" spec.googleApiKey ++
    [.literal "include_knowledge_bases"
      (.texts spec.knowledgeBases)] ++
    listedTables spec.tables ++
    textOption "prompt_template" spec.promptTemplate

/- An option with the key and the value of a parameter. -/
def IsOptionOf
    (param : String × Json)
    (option : Assignment) : Prop :=
  ∃ value,
    Literal.ofJson param.2 = .ok value ∧
      option = .literal param.1 value

variable {spec : NewAgent}
variable {params : List (String × Json)}
variable {options : List Assignment}

theorem names_textOption
    (name : String)
    (value : Option String) :
    ((textOption name value).map Assignment.name).Sublist
      [name] := by
  unfold textOption
  split
  · exact List.nil_sublist [name]
  · exact List.Sublist.refl [name]

theorem names_listedTables (tables : List TableRef) :
    ((listedTables tables).map Assignment.name).Sublist
      ["include_tables"] := by
  unfold listedTables
  split
  · exact List.nil_sublist ["include_tables"]
  · exact List.Sublist.refl ["include_tables"]

theorem mem_namedOptions_iff {option : Assignment} :
    option ∈ namedOptions spec ↔
      option = .literal "model" (.text spec.model) ∨
        option ∈
          textOption "google_api_key" spec.googleApiKey ∨
        option =
          .literal "include_knowledge_bases"
            (.texts spec.knowledgeBases) ∨
        option ∈ listedTables spec.tables ∨
        option ∈
          textOption "prompt_template" spec.promptTemplate := by
  simp only [namedOptions, List.mem_append, List.mem_cons,
    List.not_mem_nil, or_false, or_assoc]

theorem mem_textOption_iff
    {name : String}
    {value : Option String}
    {option : Assignment} :
    option ∈ textOption name value ↔
      ∃ text,
        given? value = some text ∧
          option = .literal name (.text text) := by
  unfold textOption
  cases given? value with
  | none => simp
  | some text => simp

theorem mem_listedTables_iff
    {tables : List TableRef}
    {option : Assignment} :
    option ∈ listedTables tables ↔
      tables ≠ [] ∧
        option =
          .literal "include_tables"
            (.texts (tables.map TableRef.qualified)) := by
  unfold listedTables
  by_cases hNone : tables = []
  · simp [hNone]
  · simp [hNone]

/- An option that may be left out is there for its value. -/
theorem given_of_mem_namedOptions
    {option : Assignment}
    (hOption : option ∈ namedOptions spec) :
    (option.name = "google_api_key" →
      given? spec.googleApiKey ≠ none) ∧
    (option.name = "prompt_template" →
      given? spec.promptTemplate ≠ none) ∧
    (option.name = "include_tables" → spec.tables ≠ []) := by
  rcases mem_namedOptions_iff.mp hOption with
    rfl | hKey | rfl | hTables | hTemplate
  · simp [Assignment.literal]
  · rcases mem_textOption_iff.mp hKey with ⟨text, hText, rfl⟩
    simp [Assignment.literal, hText]
  · simp [Assignment.literal]
  · rcases mem_listedTables_iff.mp hTables with ⟨hSome, rfl⟩
    simp [Assignment.literal, hSome]
  · rcases mem_textOption_iff.mp hTemplate with
      ⟨text, hText, rfl⟩
    simp [Assignment.literal, hText]

/- The named options have reserved names, in their order. -/
theorem names_namedOptions (spec : NewAgent) :
    ((namedOptions spec).map Assignment.name).Sublist
      reservedParams := by
  have hKey :=
    names_textOption "google_api_key" spec.googleApiKey
  have hBases := List.Sublist.refl ["include_knowledge_bases"]
  have hTables := names_listedTables spec.tables
  have hTemplate :=
    names_textOption "prompt_template" spec.promptTemplate
  unfold namedOptions
  simp only [List.map_append, List.map_cons, List.cons_append]
  exact (((hKey.append hBases).append hTables).append
    hTemplate).cons_cons "model"

theorem names_params
    (hOptions : List.Forall₂ IsOptionOf params options) :
    options.map Assignment.name = Keyed.keys params := by
  induction hOptions with
  | nil => rfl
  | cons hOption _ ih =>
      rcases hOption with ⟨value, -, rfl⟩
      rw [List.map_cons, Keyed.keys_cons, ih]
      rfl

------------------------------------------------------------
-- Compiled Options
------------------------------------------------------------

/- Names are left as they are, and all of them are safe. -/
theorem namesOf_eq_ok_iff
    {field : String}
    {names found : List String} :
    namesOf field names = .ok found ↔
      (∀ name ∈ names, Identifier.isSafe name = true) ∧
        names = found := by
  have hName (name other : String) :
      (Identifier.ofText field name).map Identifier.text =
          .ok other ↔
        Identifier.isSafe name = true ∧ name = other := by
    rw [map_eq_ok_iff]
    simp only [Identifier.ofText_eq_ok_iff]
    constructor
    · rintro ⟨own, rfl, rfl⟩
      exact ⟨own.safe, rfl⟩
    · rintro ⟨hSafe, rfl⟩
      exact ⟨⟨name, hSafe⟩, rfl, rfl⟩
  rw [namesOf, mapM_eq_ok_iff]
  simp only [hName]
  rw [List.forall₂_and_left, List.forall₂_eq_eq_eq]

theorem TableName.texts_of_mapM
    {tables : List TableRef}
    {names : List TableName}
    (hNames : tables.mapM TableName.ofRef = .ok names) :
    names.map TableName.text =
      tables.map TableRef.qualified := by
  rw [mapM_eq_ok_iff] at hNames
  induction hNames with
  | nil => rfl
  | @cons ref name _ _ hName _ ih =>
      rcases TableName.ofRef_eq_ok_iff.mp hName with
        ⟨hDatasource, hTable⟩
      have hText : name.text = ref.qualified := by
        rw [TableName.text, TableRef.qualified, hDatasource,
          hTable]
      rw [List.map_cons, List.map_cons, hText, ih]

/- Tables are listed when all of their parts are safe. -/
theorem tablesOption_eq_ok_iff
    {tables : List TableRef} :
    tablesOption tables = .ok options ↔
      (∀ table ∈ tables,
        Identifier.isSafe table.datasource = true ∧
          Identifier.isSafe table.table = true) ∧
        listedTables tables = options := by
  simp only [← TableName.exists_ofRef_iff, ← exists_mapM_iff]
  unfold tablesOption listedTables
  by_cases hEmpty : tables.isEmpty = true
  · obtain rfl := List.isEmpty_iff.mp hEmpty
    simp [pure_eq_ok_iff]
  · rw [if_neg hEmpty, if_neg hEmpty]
    simp only [bind_eq_ok_iff, pure_eq_ok_iff]
    constructor
    · rintro ⟨names, hNames, rfl⟩
      rw [TableName.texts_of_mapM hNames]
      exact ⟨⟨names, hNames⟩, rfl⟩
    · rintro ⟨⟨names, hNames⟩, rfl⟩
      refine ⟨names, hNames, ?_⟩
      rw [TableName.texts_of_mapM hNames]

theorem agentParam_eq_ok_iff
    {param : String × Json}
    {option : Assignment} :
    agentParam param = .ok option ↔
      Identifier.isSafe param.1 = true ∧
        IsOptionOf param option := by
  rcases param with ⟨key, json⟩
  simp only [agentParam, bind_eq_ok_iff, pure_eq_ok_iff,
    Identifier.ofText_eq_ok_iff]
  constructor
  · rintro ⟨name, rfl, value, hValue, rfl⟩
    exact ⟨name.safe, value, hValue, rfl⟩
  · rintro ⟨hSafe, value, hValue, rfl⟩
    exact ⟨⟨key, hSafe⟩, rfl, value, hValue, rfl⟩

/- Each parameter has an option when it can be written. -/
theorem mapM_agentParam_eq_ok_iff :
    params.mapM agentParam = .ok options ↔
      (∀ param ∈ params, Identifier.isSafe param.1 = true) ∧
        List.Forall₂ IsOptionOf params options := by
  rw [mapM_eq_ok_iff]
  simp only [agentParam_eq_ok_iff]
  exact List.forall₂_and_left _ _

------------------------------------------------------------
-- Statements
------------------------------------------------------------

/-
  What is asked of an agent for there to be a statement: a
  knowledge base, safe names, and values that are literals.
-/
structure IsCompilable (spec : NewAgent) : Prop where
  notEmpty : spec.knowledgeBases ≠ []
  knowledgeBases :
    ∀ name ∈ spec.knowledgeBases,
      Identifier.isSafe name = true
  tables :
    ∀ table ∈ spec.tables,
      Identifier.isSafe table.datasource = true ∧
        Identifier.isSafe table.table = true
  params :
    ∀ param ∈ spec.params,
      Identifier.isSafe param.1 = true ∧
        ∃ value, Literal.ofJson param.2 = .ok value
  name : Identifier.isSafe spec.name = true

/- All that there is to the statement of an agent. -/
theorem agentStatement_eq_ok_iff {s : Statement} :
    agentStatement spec = .ok s ↔
      spec.knowledgeBases ≠ [] ∧
        (∀ name ∈ spec.knowledgeBases,
          Identifier.isSafe name = true) ∧
        (∀ table ∈ spec.tables,
          Identifier.isSafe table.datasource = true ∧
            Identifier.isSafe table.table = true) ∧
        ∃ options,
          spec.params.mapM agentParam = .ok options ∧
            ∃ name : Identifier,
              name.text = spec.name ∧
                s =
                  .createAgent name
                    (namedOptions spec ++ options) := by
  unfold agentStatement
  split
  · rename_i hEmpty
    simp [List.isEmpty_iff.mp hEmpty]
  · rename_i hEmpty
    rw [List.isEmpty_iff] at hEmpty
    simp only [bind_eq_ok_iff, pure_eq_ok_iff,
      namesOf_eq_ok_iff, tablesOption_eq_ok_iff,
      Identifier.ofText_eq_ok_iff]
    constructor
    · rintro ⟨_, ⟨hBases, rfl⟩, _, ⟨hTables, rfl⟩, options,
        hOptions, name, hName, rfl⟩
      exact
        ⟨hEmpty, hBases, hTables, options, hOptions, name,
          hName, rfl⟩
    · rintro ⟨-, hBases, hTables, options, hOptions, name,
        hName, rfl⟩
      exact
        ⟨_, ⟨hBases, rfl⟩, _, ⟨hTables, rfl⟩, options,
          hOptions, name, hName, rfl⟩

/- There is a statement when all of it can be written. -/
theorem exists_agentStatement_iff :
    (∃ s, agentStatement spec = .ok s) ↔
      IsCompilable spec := by
  have hParam (param : String × Json) :
      (∃ option, agentParam param = .ok option) ↔
        Identifier.isSafe param.1 = true ∧
          ∃ value, Literal.ofJson param.2 = .ok value := by
    simp [agentParam_eq_ok_iff, IsOptionOf]
  have hName :
      (∃ name : Identifier, name.text = spec.name) ↔
        Identifier.isSafe spec.name = true := by
    have hText :
        (∃ name, Identifier.ofText "" spec.name = .ok name) ↔
          Identifier.isSafe spec.name = true :=
      Identifier.exists_ofText_iff
    simpa only [Identifier.ofText_eq_ok_iff] using hText
  simp only [agentStatement_eq_ok_iff]
  constructor
  · rintro ⟨_, hEmpty, hBases, hTables, options, hOptions,
      name, hText, -⟩
    have hEach := exists_mapM_iff.mp ⟨options, hOptions⟩
    exact
      { notEmpty := hEmpty
        knowledgeBases := hBases
        tables := hTables
        params := fun param hMember =>
          (hParam param).mp (hEach param hMember)
        name := hName.mp ⟨name, hText⟩ }
  · intro hSpec
    rcases exists_mapM_iff.mpr fun param hMember =>
      (hParam param).mpr (hSpec.params param hMember) with
        ⟨options, hOptions⟩
    rcases hName.mpr hSpec.name with ⟨name, hText⟩
    exact
      ⟨_, hSpec.notEmpty, hSpec.knowledgeBases, hSpec.tables,
        options, hOptions, name, hText, rfl⟩

end Sql

end KbConsole
