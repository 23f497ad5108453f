import KbConsole.Proofs.Arguments
import KbConsole.Proofs.Json.RoundTrip
import KbConsole.Request.OfArguments

/-
  The parameters of an agent, taken all together.

  They are taken one after another, and each one finds what
  the earlier ones have filled. But the keys of an object
  are distinct, and a parameter fills no option but the one
  of its key. So it is as if all of them were taken at once:
  each option looks up its own key, and the rest is filtered
  out. Their order is then no matter.

  Key definitions include:
    * `NewAgent.filled`
    * `NewAgent.paramMembers`
    * `NewAgent.IsRearranged`

  One more parameter is `NewAgent.filled_cons`, and all of
  them are `NewAgent.takeParams_eq`. The main statements are
  `NewAgent.ofArguments_eq` and
  `NewAgent.ofArguments_rearranged`.
-/

namespace KbConsole

namespace NewAgent

------------------------------------------------------------
-- Filled Options
------------------------------------------------------------

/- Whether a value fills a text that is not given yet. -/
def fillsText
    (given : Option String)
    (value : Json) : Bool :=
  (given? given).isNone && value.text?.isSome

/- Whether a parameter fills an option of its own. -/
def fills
    (agent : NewAgent)
    (param : String × Json) : Bool :=
  if param.1 = "google_api_key" then
    fillsText agent.googleApiKey param.2
  else if param.1 = "prompt_template" then
    fillsText agent.promptTemplate param.2
  else if param.1 = "include_tables" then
    (agent.tableTexts? param.2).isSome
  else
    false

/- A parameter without a named option of its own. -/
def isFree (param : String × Json) : Bool :=
  !reservedParams.contains param.1

/- A parameter that has an option and does not fill it. -/
def isIgnored
    (agent : NewAgent)
    (param : String × Json) : Bool :=
  !isFree param && !agent.fills param

/- The text that an option has when all are taken. -/
def filledText
    (given : Option String)
    (key : String)
    (members : List (String × Json)) : Option String :=
  if (given? given).isSome then
    given
  else
    ((Keyed.get? key members).bind Json.text?).or given

/- The tables that an agent has when all are taken. -/
def filledTables
    (agent : NewAgent)
    (members : List (String × Json)) :
    Except Problem (List TableRef) :=
  match
    (Keyed.get? "include_tables" members).bind
      agent.tableTexts? with
  | none => .ok agent.tables
  | some texts =>
      TableRef.listOfTexts "--params include_tables" texts

/- The agent that has taken all parameters at once. -/
def filled
    (agent : NewAgent)
    (members : List (String × Json))
    (tables : List TableRef) : NewAgent :=
  { agent with
    googleApiKey :=
      filledText agent.googleApiKey "google_api_key" members
    promptTemplate :=
      filledText agent.promptTemplate "prompt_template"
        members
    tables
    params := agent.params ++ members.filter isFree
    ignoredParams :=
      agent.ignoredParams ++
        Keyed.keys (members.filter agent.isIgnored) }

variable {agent : NewAgent}
variable {key : String}
variable {value : Json}
variable {members : List (String × Json)}

theorem filledText_of_given
    {text : String}
    (hText : text ≠ "")
    (key : String)
    (members : List (String × Json)) :
    filledText (some text) key members = some text := by
  rw [filledText, given?_of_ne hText, Option.isSome_some,
    if_pos rfl]

theorem filledTables_of_ne_nil
    (hTables : agent.tables ≠ [])
    (members : List (String × Json)) :
    agent.filledTables members = .ok agent.tables := by
  have hNone (value : Json) : agent.tableTexts? value = none := by
    rw [tableTexts?, if_neg]
    rwa [List.isEmpty_iff]
  unfold filledTables
  cases Keyed.get? "include_tables" members with
  | none => rfl
  | some value =>
      simp only [Option.bind_some, hNone]

@[simp] theorem filledText_nil
    (given : Option String)
    (key : String) :
    filledText given key [] = given := by
  simp [filledText, Keyed.get?]

@[simp] theorem filledTables_nil :
    agent.filledTables [] = .ok agent.tables :=
  rfl

@[simp] theorem filled_nil :
    agent.filled [] agent.tables = agent := by
  simp [filled, Keyed.keys]

------------------------------------------------------------
-- One Parameter
------------------------------------------------------------

theorem filledText_single
    (given : Option String)
    (key name : String)
    (value : Json) :
    filledText given key [(name, value)] =
      if name = key ∧ fillsText given value = true then
        value.text?
      else
        given := by
  unfold filledText fillsText
  by_cases hKey : name = key
  · cases hGiven : given? given <;>
      cases hText : value.text? <;>
        simp [Keyed.get?, hKey, hText]
  · simp [Keyed.get?, hKey]

theorem fillsText_eq_true_iff
    {given : Option String} :
    fillsText given value = true ↔
      given? given = none ∧ ∃ text, value = .text text := by
  cases value <;> simp [fillsText, Json.text?]

theorem fillsText_eq_false
    {given : Option String}
    (hFills : fillsText given value = false)
    (hGiven : given? given = none)
    (text : String) :
    value ≠ .text text := by
  rintro rfl
  simp [fillsText, hGiven, Json.text?] at hFills

/- An agent without tables takes those that are listed. -/
theorem tableTexts?_of_nil
    (hNone : agent.tables = [])
    (value : Json) :
    agent.tableTexts? value = value.items?.bind textItems? := by
  rw [tableTexts?, hNone, List.isEmpty_nil, if_pos rfl]

/- A parameter that fills an option, and which one. -/
inductive Fills
    (agent : NewAgent) : String × Json → Prop where
  | googleApiKey
      {text : String}
      (hNone : given? agent.googleApiKey = none) :
      Fills agent ("google_api_key", .text text)
  | promptTemplate
      {text : String}
      (hNone : given? agent.promptTemplate = none) :
      Fills agent ("prompt_template", .text text)
  | tables
      {value : Json}
      {texts : List String}
      (hNone : agent.tables = [])
      (hTexts : value.items?.bind textItems? = some texts) :
      Fills agent ("include_tables", value)

theorem fills_eq_true_iff {param : String × Json} :
    agent.fills param = true ↔ Fills agent param := by
  constructor
  · intro hFills
    rcases param with ⟨key, value⟩
    unfold fills at hFills
    split at hFills
    · rename_i hKey
      obtain rfl : key = "google_api_key" := hKey
      rcases fillsText_eq_true_iff.mp hFills with
        ⟨hNone, text, hText⟩
      obtain rfl : value = .text text := hText
      exact .googleApiKey hNone
    · split at hFills
      · rename_i hKey
        obtain rfl : key = "prompt_template" := hKey
        rcases fillsText_eq_true_iff.mp hFills with
          ⟨hNone, text, hText⟩
        obtain rfl : value = .text text := hText
        exact .promptTemplate hNone
      · split at hFills
        · rename_i hKey
          obtain rfl : key = "include_tables" := hKey
          rcases Option.isSome_iff_exists.mp hFills with
            ⟨texts, hTexts⟩
          unfold tableTexts? at hTexts
          split at hTexts
          · rename_i hNone
            exact .tables (List.isEmpty_iff.mp hNone) hTexts
          · cases hTexts
        · cases hFills
  · intro hFills
    cases hFills with
    | googleApiKey hNone =>
        rw [fills, if_pos rfl, fillsText_eq_true_iff]
        exact ⟨hNone, _, rfl⟩
    | promptTemplate hNone =>
        rw [fills, if_neg (by simp), if_pos rfl,
          fillsText_eq_true_iff]
        exact ⟨hNone, _, rfl⟩
    | tables hNone hTexts =>
        rw [fills, if_neg (by simp), if_neg (by simp),
          if_pos rfl, tableTexts?_of_nil hNone, hTexts,
          Option.isSome_some]

/- A parameter is kept. -/
theorem takeParam_of_free
    (hFree : key ∉ reservedParams)
    (value : Json) :
    agent.takeParam key value =
      .ok { agent with
        params := agent.params ++ [(key, value)] } := by
  have hReserved : (!reservedParams.contains key) = true := by
    simpa using hFree
  unfold takeParam
  rw [if_pos hReserved]

/- A parameter is ignored. -/
theorem takeParam_of_ignored
    (hKey : key ∈ reservedParams)
    (hFills : agent.fills (key, value) = false) :
    agent.takeParam key value = .ok (agent.ignore key) := by
  have hReserved : (!reservedParams.contains key) ≠ true := by
    simpa using hKey
  unfold fills at hFills
  unfold takeParam
  rw [if_neg hReserved]
  split
  · rename_i hName
    rw [if_pos hName] at hFills
    split
    · rename_i text hGiven
      exact absurd rfl (fillsText_eq_false hFills hGiven text)
    · rfl
  · rename_i hName
    rw [if_neg hName] at hFills
    split
    · rename_i hName
      rw [if_pos hName] at hFills
      split
      · rename_i text hGiven
        exact absurd rfl
          (fillsText_eq_false hFills hGiven text)
      · rfl
    · rename_i hName
      rw [if_neg hName] at hFills
      split
      · rename_i hName
        rw [if_pos hName] at hFills
        have hNone : agent.tableTexts? value = none := by
          simpa using hFills
        rw [hNone]
      · rfl

/- The tables, as one parameter leaves them. -/
theorem filledTables_single_of_ne
    (hKey : key ≠ "include_tables")
    (value : Json) :
    agent.filledTables [(key, value)] = .ok agent.tables := by
  rw [filledTables, Keyed.get?, if_neg hKey]
  rfl

/- A parameter that is kept fills no option. -/
theorem filled_single_of_free
    (hFree : key ∉ reservedParams)
    (value : Json) :
    agent.filled [(key, value)] agent.tables =
      { agent with
        params := agent.params ++ [(key, value)] } := by
  have hKey (name : String) (hName : name ∈ reservedParams) :
      key ≠ name :=
    fun hSame => hFree (hSame ▸ hName)
  have hKept : isFree (key, value) = true := by
    simpa [isFree] using hFree
  have hIgnored : agent.isIgnored (key, value) = false := by
    simp [isIgnored, hKept]
  have hText
      (given : Option String)
      (name : String)
      (hName : name ∈ reservedParams) :
      filledText given name [(key, value)] = given := by
    rw [filledText_single, if_neg]
    exact fun h => hKey name hName h.1
  rw [filled, hText _ _ (by decide), hText _ _ (by decide),
    List.filter_cons_of_pos hKept,
    List.filter_cons_of_neg (by simp [hIgnored])]
  simp only [List.filter_nil, Keyed.keys, List.map_nil,
    List.append_nil]

/- A parameter that is ignored fills no option either. -/
theorem filled_single_of_ignored
    (hKey : key ∈ reservedParams)
    (hFills : agent.fills (key, value) = false) :
    agent.filledTables [(key, value)] = .ok agent.tables ∧
      agent.filled [(key, value)] agent.tables =
        agent.ignore key := by
  have hFree : isFree (key, value) = false := by
    simpa [isFree] using hKey
  have hIgnored : agent.isIgnored (key, value) = true := by
    simp [isIgnored, hFree, hFills]
  have hGoogle :
      filledText agent.googleApiKey "google_api_key"
          [(key, value)] =
        agent.googleApiKey := by
    rw [filledText_single, if_neg]
    rintro ⟨rfl, hText⟩
    rw [fills, if_pos rfl, hText] at hFills
    cases hFills
  have hTemplate :
      filledText agent.promptTemplate "prompt_template"
          [(key, value)] =
        agent.promptTemplate := by
    rw [filledText_single, if_neg]
    rintro ⟨rfl, hText⟩
    simp [fills, hText] at hFills
  constructor
  · by_cases hTables : key = "include_tables"
    · subst hTables
      have hNone : agent.tableTexts? value = none := by
        simpa [fills] using hFills
      unfold filledTables
      rw [Keyed.get?, if_pos rfl, Option.bind_some, hNone]
    · exact filledTables_single_of_ne hTables value
  · rw [filled, hGoogle, hTemplate,
      List.filter_cons_of_neg (by simp [hFree]),
      List.filter_cons_of_pos hIgnored]
    simp only [List.filter_nil, Keyed.keys, List.map_cons,
      List.map_nil, List.append_nil]
    rfl

/- A parameter that fills an option is not kept otherwise. -/
theorem filled_single_of_fills
    (hKey : key ∈ reservedParams)
    (hFills : agent.fills (key, value) = true)
    (tables : List TableRef) :
    agent.filled [(key, value)] tables =
      { agent with
        googleApiKey :=
          filledText agent.googleApiKey "google_api_key"
            [(key, value)]
        promptTemplate :=
          filledText agent.promptTemplate "prompt_template"
            [(key, value)]
        tables } := by
  have hFree : isFree (key, value) = false := by
    simpa [isFree] using hKey
  have hIgnored : agent.isIgnored (key, value) = false := by
    simp [isIgnored, hFills]
  rw [filled, List.filter_cons_of_neg (by simp [hFree]),
    List.filter_cons_of_neg (by simp [hIgnored])]
  simp only [List.filter_nil, Keyed.keys, List.map_nil,
    List.append_nil]

/- A parameter fills the option of its key. -/
theorem takeParam_of_fills
    (hFills : agent.fills (key, value) = true) :
    agent.takeParam key value =
      (agent.filledTables [(key, value)]).map fun tables =>
        { agent with
          googleApiKey :=
            filledText agent.googleApiKey "google_api_key"
              [(key, value)]
          promptTemplate :=
            filledText agent.promptTemplate "prompt_template"
              [(key, value)]
          tables } := by
  cases fills_eq_true_iff.mp hFills with
  | @googleApiKey text hNone =>
      have hText :
          fillsText agent.googleApiKey (.text text) = true :=
        fillsText_eq_true_iff.mpr ⟨hNone, text, rfl⟩
      rw [filledTables_single_of_ne (by decide), ok_map,
        filledText_single, if_pos ⟨rfl, hText⟩,
        filledText_single, if_neg (by simp)]
      unfold takeParam
      rw [if_neg (by decide), if_pos rfl, hNone]
      rfl
  | @promptTemplate text hNone =>
      have hText :
          fillsText agent.promptTemplate (.text text) = true :=
        fillsText_eq_true_iff.mpr ⟨hNone, text, rfl⟩
      rw [filledTables_single_of_ne (by decide), ok_map,
        filledText_single, if_neg (by simp),
        filledText_single, if_pos ⟨rfl, hText⟩]
      unfold takeParam
      rw [if_neg (by decide), if_neg (by decide), if_pos rfl,
        hNone]
      rfl
  | @tables value texts hNone hTexts =>
      have hFound : agent.tableTexts? value = some texts := by
        rw [tableTexts?_of_nil hNone, hTexts]
      rw [filledText_single, if_neg (by simp),
        filledText_single, if_neg (by simp)]
      unfold takeParam filledTables
      rw [if_neg (by decide), if_neg (by decide),
        if_neg (by decide), if_pos rfl, Keyed.get?,
        if_pos rfl, Option.bind_some, hFound]
      exact bind_pure_eq_map

/- Taking a parameter is taking all of a list of one. -/
theorem takeParam_eq
    (agent : NewAgent)
    (key : String)
    (value : Json) :
    agent.takeParam key value =
      (agent.filledTables [(key, value)]).map
        (agent.filled [(key, value)]) := by
  by_cases hKey : key ∈ reservedParams
  · cases hFills : agent.fills (key, value) with
    | false =>
        rcases filled_single_of_ignored hKey hFills with
          ⟨hTables, hFilled⟩
        rw [takeParam_of_ignored hKey hFills, hTables, ok_map,
          hFilled]
    | true =>
        rw [funext (filled_single_of_fills hKey hFills)]
        exact takeParam_of_fills hFills
  · rw [takeParam_of_free hKey, filledTables_single_of_ne,
      ok_map, filled_single_of_free hKey]
    rintro rfl
    exact hKey (by decide)

------------------------------------------------------------
-- All Parameters
------------------------------------------------------------

section Cons

variable {tables : List TableRef}

theorem get?_eq_none_of_notMem
    (hNew : key ∉ Keyed.keys members) :
    Keyed.get? key members = none := by
  rw [Option.eq_none_iff_forall_ne_some]
  intro value hValue
  exact hNew (Keyed.mem_keys_iff.mpr ⟨value, hValue⟩)

theorem filledText_cons
    {name : String}
    (hNew : name ∉ Keyed.keys members)
    (given : Option String)
    (key : String)
    (value : Json) :
    filledText given key ((name, value) :: members) =
      filledText (filledText given key [(name, value)]) key
        members := by
  by_cases hKey : name = key
  · subst hKey
    have hNone := get?_eq_none_of_notMem hNew
    have hLater (filled : Option String) :
        filledText filled name members = filled := by
      simp [filledText, hNone]
    rw [hLater, filledText, filledText, Keyed.get?,
      Keyed.get?]
    simp only [if_pos]
  · rw [filledText_single, if_neg (fun h => hKey h.1),
      filledText, filledText, Keyed.get?, if_neg hKey]

theorem filledTables_cons
    (hNew : key ∉ Keyed.keys members)
    (value : Json) :
    agent.filledTables ((key, value) :: members) =
      agent.filledTables [(key, value)] >>= fun tables =>
        filledTables { agent with tables } members := by
  by_cases hKey : key = "include_tables"
  · subst hKey
    have hNone := get?_eq_none_of_notMem hNew
    have hLater (tables : List TableRef) :
        filledTables { agent with tables } members =
          pure tables := by
      rw [filledTables, hNone]
      rfl
    simp only [hLater, bind_pure]
    rw [filledTables, filledTables, Keyed.get?, Keyed.get?,
      if_pos rfl, if_pos rfl]
  · rw [filledTables_single_of_ne hKey, ok_bind, filledTables,
      filledTables, Keyed.get?, if_neg hKey]

/- A parameter has no effect on those of another key. -/
theorem fills_filled_single
    (hTables :
      agent.filledTables [(key, value)] = .ok tables)
    {param : String × Json}
    (hOther : param.1 ≠ key) :
    (agent.filled [(key, value)] tables).fills param =
      agent.fills param := by
  have hText
      {name : String}
      (hName : key ≠ name)
      (given : Option String) :
      filledText given name [(key, value)] = given := by
    rw [filledText_single, if_neg (fun h => hName h.1)]
  unfold fills
  split
  · rename_i hName
    have hKey : key ≠ "google_api_key" := hName ▸ hOther.symm
    rw [filled, hText hKey]
  · split
    · rename_i hName
      have hKey : key ≠ "prompt_template" :=
        hName ▸ hOther.symm
      rw [filled, hText hKey]
    · split
      · rename_i hName
        have hKey : key ≠ "include_tables" :=
          hName ▸ hOther.symm
        rw [filledTables_single_of_ne hKey] at hTables
        obtain rfl := Except.ok.inj hTables
        rfl
      · rfl

/- One parameter is taken first, and then the others. -/
theorem filled_cons
    (hNew : key ∉ Keyed.keys members)
    (hTables :
      agent.filledTables [(key, value)] = .ok tables)
    (others : List TableRef) :
    (agent.filled [(key, value)] tables).filled members
        others =
      agent.filled ((key, value) :: members) others := by
  have hIgnored :
      members.filter
          (agent.filled [(key, value)] tables).isIgnored =
        members.filter agent.isIgnored := by
    apply List.filter_congr
    intro param hParam
    have hOther : param.1 ≠ key := by
      rintro rfl
      exact hNew (List.mem_map_of_mem hParam)
    unfold isIgnored
    rw [fills_filled_single hTables hOther]
  have hFilter (p : String × Json → Bool) :
      ((key, value) :: members).filter p =
        [(key, value)].filter p ++ members.filter p := by
    rw [← List.filter_append]
    rfl
  rw [filled, hIgnored]
  simp only [filled, filledText_cons hNew, hFilter,
    List.append_assoc, Keyed.keys, List.map_append]

end Cons

/- Parameters with distinct keys are taken all at once. -/
theorem takeParams_eq
    (hDistinct : (Keyed.keys members).Nodup) :
    agent.takeParams members =
      (agent.filledTables members).map
        (agent.filled members) := by
  induction members generalizing agent with
  | nil =>
      rw [filledTables_nil, ok_map, filled_nil]
      rfl
  | cons member members ih =>
      rcases member with ⟨key, value⟩
      rw [Keyed.keys_cons, List.nodup_cons] at hDistinct
      rw [takeParams, takeParam_eq,
        filledTables_cons hDistinct.1]
      cases hTables : agent.filledTables [(key, value)] with
      | error problem => rfl
      | ok tables =>
          rw [ok_map, ok_bind, ok_bind, ih hDistinct.2,
            funext (filled_cons hDistinct.1 hTables)]
          rfl

------------------------------------------------------------
-- Agents of Arguments
------------------------------------------------------------

/- The members of the parameters, if any are given. -/
def paramMembers
    (args : Arguments) :
    Except Problem (List (String × Json)) := do
  let params ← args.json? "params" "--params"
  match params with
  | none => return []
  | some (.object members) => return members
  | some _ => .error (.notObject "--params")

variable {args : Arguments}
variable {settings : Settings}

theorem paramMembers_of_parse?
    {text : String}
    (hText : args.word? "params" = some text)
    (hParse : Json.parse? text = some (.object members)) :
    paramMembers args = .ok members := by
  have hParams :
      args.json? "params" "--params" =
        .ok (some (.object members)) :=
    Arguments.json?_eq_ok_iff.mpr ⟨text, hText, hParse⟩
  rw [paramMembers, hParams]
  rfl

/- The members of an object that is given as it is printed. -/
theorem paramMembers_of_print
    (hText :
      args.word? "params" = some (Json.object members).print)
    (hDistinct : (Keyed.keys members).Nodup)
    (hNames :
      ∀ key ∈ Keyed.keys members, Keyed.index? key = none)
    (hExact : Json.MembersExact members) :
    paramMembers args = .ok members := by
  have hKeys : Keyed.ofList members = members :=
    Keyed.ofList_eq_self hDistinct hNames
  exact
    paramMembers_of_parse? hText
      (Json.parse?_print ⟨hKeys, hExact⟩)

/- Members are none at all, or those of a parsed object. -/
theorem exists_parse?_of_paramMembers
    (hMembers : paramMembers args = .ok members) :
    members = [] ∨
      ∃ text, Json.parse? text = some (.object members) := by
  simp only [paramMembers, bind_eq_ok_iff] at hMembers
  rcases hMembers with ⟨params, hParams, hMembers⟩
  split at hMembers
  · exact Or.inl (pure_eq_ok_iff.mp hMembers).symm
  · obtain rfl := pure_eq_ok_iff.mp hMembers
    rcases Arguments.json?_eq_ok_iff.mp hParams with
      ⟨text, -, hParse⟩
    exact Or.inr ⟨text, hParse⟩
  · cases hMembers

theorem nodup_keys_of_paramMembers
    (hMembers : paramMembers args = .ok members) :
    (Keyed.keys members).Nodup := by
  rcases exists_parse?_of_paramMembers hMembers with
    rfl | ⟨text, hParse⟩
  · exact List.nodup_nil
  · exact Json.nodup_keys_of_parse? hParse

theorem pairwise_precedes_of_paramMembers
    (hMembers : paramMembers args = .ok members) :
    (Keyed.keys members).Pairwise Keyed.Precedes := by
  rcases exists_parse?_of_paramMembers hMembers with
    rfl | ⟨text, hParse⟩
  · exact List.Pairwise.nil
  · exact Json.pairwise_precedes_of_parse? hParse

/-
  An agent is read from the named options, and then takes
  all of the parameters at once.
-/
theorem ofArguments_eq
    (args : Arguments)
    (settings : Settings) :
    ofArguments args settings = do
      let agent ← ofOptions args settings
      let members ← paramMembers args
      let tables ← agent.filledTables members
      return agent.filled members tables := by
  have hTake (agent : NewAgent) :
      (do
        let params ← args.json? "params" "--params"
        match params with
        | none => return agent
        | some (.object members) => agent.takeParams members
        | some _ => .error (.notObject "--params")) =
        paramMembers args >>= agent.takeParams := by
    unfold paramMembers
    cases args.json? "params" "--params" with
    | error problem => rfl
    | ok params =>
        rcases params with _ | _ | _ | _ | _ | _ | members <;>
          rfl
  unfold ofArguments
  congr 1
  funext agent
  refine (hTake agent).trans ?_
  cases hMembers : paramMembers args with
  | error problem => rfl
  | ok members =>
      rw [ok_bind, ok_bind, bind_pure_eq_map]
      exact takeParams_eq (nodup_keys_of_paramMembers hMembers)

theorem ofArguments_eq_ok_iff :
    ofArguments args settings = .ok agent ↔
      ∃ named members tables,
        ofOptions args settings = .ok named ∧
          paramMembers args = .ok members ∧
          named.filledTables members = .ok tables ∧
          named.filled members tables = agent := by
  simp only [ofArguments_eq, bind_eq_ok_iff, pure_eq_ok_iff]
  constructor
  · rintro ⟨named, hNamed, members, hMembers, tables, hRest⟩
    exact ⟨named, members, tables, hNamed, hMembers, hRest⟩
  · rintro ⟨named, members, tables, hNamed, hMembers, hRest⟩
    exact ⟨named, hNamed, members, hMembers, tables, hRest⟩

------------------------------------------------------------
-- Rearranged Parameters
------------------------------------------------------------

/- Agents that differ in the order of parameters alone. -/
structure IsRearranged (agent other : NewAgent) : Prop where
  name : agent.name = other.name
  model : agent.model = other.model
  googleApiKey : agent.googleApiKey = other.googleApiKey
  knowledgeBases : agent.knowledgeBases = other.knowledgeBases
  tables : agent.tables = other.tables
  promptTemplate : agent.promptTemplate = other.promptTemplate
  params : agent.params.Perm other.params
  ignoredParams : agent.ignoredParams.Perm other.ignoredParams

theorem IsRearranged.symm
    {other : NewAgent}
    (hAgents : agent.IsRearranged other) :
    other.IsRearranged agent where
  name := hAgents.name.symm
  model := hAgents.model.symm
  googleApiKey := hAgents.googleApiKey.symm
  knowledgeBases := hAgents.knowledgeBases.symm
  tables := hAgents.tables.symm
  promptTemplate := hAgents.promptTemplate.symm
  params := hAgents.params.symm
  ignoredParams := hAgents.ignoredParams.symm

section Rearranged

variable {others : List (String × Json)}

theorem filledText_perm
    (hPerm : members.Perm others)
    (hDistinct : (Keyed.keys members).Nodup)
    (given : Option String)
    (key : String) :
    filledText given key members =
      filledText given key others := by
  unfold filledText
  rw [Keyed.get?_perm hPerm hDistinct]

theorem filledTables_perm
    (hPerm : members.Perm others)
    (hDistinct : (Keyed.keys members).Nodup) :
    agent.filledTables members = agent.filledTables others := by
  unfold filledTables
  rw [Keyed.get?_perm hPerm hDistinct]

theorem isRearranged_filled
    (hPerm : members.Perm others)
    (hDistinct : (Keyed.keys members).Nodup)
    (tables : List TableRef) :
    IsRearranged (agent.filled members tables)
      (agent.filled others tables) where
  name := rfl
  model := rfl
  googleApiKey := filledText_perm hPerm hDistinct _ _
  knowledgeBases := rfl
  tables := rfl
  promptTemplate := filledText_perm hPerm hDistinct _ _
  params := (hPerm.filter isFree).append_left _
  ignoredParams :=
    ((hPerm.filter agent.isIgnored).map _).append_left _

/-
  Arguments that are the same, except that the members of
  the parameters may come in another order.
-/
structure RearrangesParams (args other : Arguments) : Prop where
  same :
    ∀ key, key ≠ "params" →
      Keyed.get? key other = Keyed.get? key args
  params :
    ∃ members others,
      paramMembers args = .ok members ∧
        paramMembers other = .ok others ∧
        members.Perm others

theorem ofOptions_congr
    {other : Arguments}
    (hSame :
      ∀ key, key ≠ "params" →
        Keyed.get? key other = Keyed.get? key args)
    (settings : Settings) :
    ofOptions other settings = ofOptions args settings := by
  have hWord (key : String) (hKey : key ≠ "params") :
      other.word? key = args.word? key := by
    unfold Arguments.word?
    rw [hSame key hKey]
  have hText :
      other.text? "promptTemplate" =
        args.text? "promptTemplate" := by
    unfold Arguments.text?
    rw [hSame "promptTemplate" (by decide)]
  unfold ofOptions Arguments.word Arguments.list?
  rw [hWord "agentName" (by decide),
    hWord "knowledgeBases" (by decide),
    hWord "tables" (by decide), hWord "model" (by decide),
    hWord "googleApiKey" (by decide), hText]

/-
  However the parameters are arranged, the same problem is
  met, or else the agents differ in their order alone.
-/
theorem ofArguments_rearranged
    {other : Arguments}
    (hOther : RearrangesParams args other)
    (settings : Settings) :
    (∃ problem,
      ofArguments args settings = .error problem ∧
        ofArguments other settings = .error problem) ∨
    ∃ agent agent',
      ofArguments args settings = .ok agent ∧
        ofArguments other settings = .ok agent' ∧
        agent.IsRearranged agent' := by
  rcases hOther.params with
    ⟨members, others, hMembers, hOthers, hPerm⟩
  have hDistinct := nodup_keys_of_paramMembers hMembers
  rw [ofArguments_eq, ofArguments_eq,
    ofOptions_congr hOther.same, hMembers, hOthers]
  cases ofOptions args settings with
  | error problem => exact Or.inl ⟨problem, rfl, rfl⟩
  | ok agent =>
      rw [ok_bind, ok_bind, ok_bind, ok_bind,
        ← filledTables_perm hPerm hDistinct]
      cases agent.filledTables members with
      | error problem => exact Or.inl ⟨problem, rfl, rfl⟩
      | ok tables =>
          exact Or.inr
            ⟨_, _, rfl, rfl,
              isRearranged_filled hPerm hDistinct tables⟩

end Rearranged

end NewAgent

end KbConsole
