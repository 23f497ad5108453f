import KbConsole.Proofs.Dispatch.AgentOptions
import KbConsole.Proofs.Dispatch.Contract

/-
  Where the parameters of an agent are accounted for: in its
  statement, or in a warning.

  A parameter that has a named option of its own fills it,
  unless the option has a value. But an empty text, or an
  empty list of tables, fills an option that is then left
  out of the statement, and there is no warning.

  Key definitions include:
    * `NewAgent.Carries`
    * `NewAgent.IsEmptyFill`

  The main statement is `Request.accountedParams_contract`.
  It rests on `NewAgent.accounted_iff`.
-/

namespace KbConsole

namespace NewAgent

open Sql

------------------------------------------------------------
-- Carried Parameters
------------------------------------------------------------

/-
  An option with the key and the value of a parameter. The
  tables that a parameter lists stand in it one by one.
-/
inductive Carries : String × Json → Assignment → Prop where
  | value
      {param : String × Json}
      {option : Assignment}
      (hOption : IsOptionOf param option) :
      Carries param option
  | tables
      {value : Json}
      {texts : List String}
      {tables : List TableRef}
      (hTexts : value.items?.bind textItems? = some texts)
      (hTables :
        TableRef.listOfTexts "--params include_tables" texts =
          .ok tables) :
      Carries ("include_tables", value)
        (.literal "include_tables"
          (.texts (tables.map TableRef.qualified)))

/- A value that gives nothing to the option it fills. -/
def IsEmptyValue (value : Json) : Prop :=
  value = .text "" ∨ value = .array []

theorem isEmptyValue_text {text : String} :
    IsEmptyValue (.text text) ↔ text = "" := by
  simp [IsEmptyValue]

/- Only an empty list has no texts. -/
theorem texts_eq_nil_iff
    {value : Json}
    {texts : List String}
    (hTexts : value.items?.bind textItems? = some texts) :
    texts = [] ↔ value = .array [] := by
  cases value with
  | array items =>
      rcases items with _ | ⟨first, rest⟩
      · obtain rfl : [] = texts := Option.some.inj hTexts
        simp
      · have hSome : texts ≠ [] := by
          rintro rfl
          cases first <;>
            simp [Json.items?, textItems?] at hTexts
        simp [hSome]
  | _ => cases hTexts

theorem isEmptyValue_iff_of_textItems?
    {value : Json}
    {texts : List String}
    (hTexts : value.items?.bind textItems? = some texts) :
    IsEmptyValue value ↔ texts = [] := by
  rw [texts_eq_nil_iff hTexts]
  constructor
  · rintro (rfl | rfl)
    · cases hTexts
    · rfl
  · rintro rfl
    exact Or.inr rfl

variable {agent : NewAgent}
variable {members : List (String × Json)}
variable {tables : List TableRef}
variable {param : String × Json}
variable {option : Assignment}

theorem Carries.name_eq (hCarries : Carries param option) :
    option.name = param.1 := by
  cases hCarries with
  | value hOption =>
      rcases hOption with ⟨value, -, rfl⟩
      rfl
  | tables hTexts hTables => rfl

------------------------------------------------------------
-- Filled Options
------------------------------------------------------------

/- What fills an option is what it has in the end. -/
theorem filledText_of_get?
    {given : Option String}
    {key text : String}
    (hNone : given? given = none)
    (hText : Keyed.get? key members = some (.text text)) :
    filledText given key members = some text := by
  rw [filledText, hNone, hText]
  rfl

/- The tables that are listed for an agent without any. -/
theorem listOfTexts_of_get?
    {value : Json}
    {texts : List String}
    (hNone : agent.tables = [])
    (hTexts : value.items?.bind textItems? = some texts)
    (hValue :
      Keyed.get? "include_tables" members = some value)
    (hTables : agent.filledTables members = .ok tables) :
    TableRef.listOfTexts "--params include_tables" texts =
      .ok tables := by
  rw [filledTables, hValue, Option.bind_some,
    tableTexts?_of_nil hNone, hTexts] at hTables
  exact hTables

/- A value that is not empty is in the statement. -/
theorem Fills.exists_carries
    (hFills : Fills agent param)
    (hValue : Keyed.get? param.1 members = some param.2)
    (hTables : agent.filledTables members = .ok tables)
    (hSome : ¬ IsEmptyValue param.2) :
    ∃ option ∈ namedOptions (agent.filled members tables),
      Carries param option := by
  simp only [mem_namedOptions_iff]
  cases hFills with
  | @googleApiKey text hNone =>
      rw [isEmptyValue_text] at hSome
      refine
        ⟨.literal "google_api_key" (.text text),
          Or.inr (Or.inl ?_), .value ⟨_, rfl, rfl⟩⟩
      rw [filled, filledText_of_get? hNone hValue]
      exact mem_textOption_iff.mpr
        ⟨text, given?_of_ne hSome, rfl⟩
  | @promptTemplate text hNone =>
      rw [isEmptyValue_text] at hSome
      refine
        ⟨.literal "prompt_template" (.text text),
          Or.inr (Or.inr (Or.inr (Or.inr ?_))),
          .value ⟨_, rfl, rfl⟩⟩
      rw [filled, filledText_of_get? hNone hValue]
      exact mem_textOption_iff.mpr
        ⟨text, given?_of_ne hSome, rfl⟩
  | @tables value texts hNone hTexts =>
      have hListed :=
        listOfTexts_of_get? hNone hTexts hValue hTables
      rw [isEmptyValue_iff_of_textItems? hTexts] at hSome
      refine
        ⟨_, Or.inr (Or.inr (Or.inr (Or.inl ?_))),
          .tables hTexts hListed⟩
      exact mem_listedTables_iff.mpr
        ⟨listOfTexts_ne_nil hSome hListed, rfl⟩

/- A value that is empty leaves its option without one. -/
theorem Fills.name_ne
    (hFills : Fills agent param)
    (hValue : Keyed.get? param.1 members = some param.2)
    (hTables : agent.filledTables members = .ok tables)
    (hEmpty : IsEmptyValue param.2)
    (hOption :
      option ∈ namedOptions (agent.filled members tables)) :
    option.name ≠ param.1 := by
  intro hName
  rcases given_of_mem_namedOptions hOption with
    ⟨hKey, hTemplate, hListed⟩
  cases hFills with
  | @googleApiKey text hNone =>
      obtain rfl := isEmptyValue_text.mp hEmpty
      apply hKey hName
      rw [filled, filledText_of_get? hNone hValue]
      rfl
  | @promptTemplate text hNone =>
      obtain rfl := isEmptyValue_text.mp hEmpty
      apply hTemplate hName
      rw [filled, filledText_of_get? hNone hValue]
      rfl
  | @tables value texts hNone hTexts =>
      have hFound :=
        listOfTexts_of_get? hNone hTexts hValue hTables
      obtain rfl :=
        (isEmptyValue_iff_of_textItems? hTexts).mp hEmpty
      obtain rfl : [] = tables := Except.ok.inj hFound
      exact hListed hName rfl

theorem Fills.not_free (hFills : Fills agent param) :
    isFree param = false := by
  cases hFills <;> rfl

/-
  A parameter is in the statement or ignored, unless it
  fills its option with nothing.
-/
theorem accounted_iff
    {extra : List Assignment}
    (hIgnored : agent.ignoredParams = [])
    (hDistinct : (Keyed.keys members).Nodup)
    (hTables : agent.filledTables members = .ok tables)
    (hExtra :
      List.Forall₂ IsOptionOf (members.filter isFree) extra)
    (hParam : param ∈ members) :
    ((∃ option ∈
        namedOptions (agent.filled members tables) ++ extra,
        Carries param option) ∨
      param.1 ∈ (agent.filled members tables).ignoredParams) ↔
      ¬ (Fills agent param ∧ IsEmptyValue param.2) := by
  have hValue : Keyed.get? param.1 members = some param.2 :=
    (Keyed.get?_eq_some_iff hDistinct).mpr hParam
  have hReported :
      param.1 ∈ (agent.filled members tables).ignoredParams ↔
        agent.isIgnored param = true := by
    rw [filled, hIgnored, List.nil_append]
    exact Keyed.mem_keys_filter_iff hDistinct hParam _
  rw [hReported]
  constructor
  · rintro hAccounted ⟨hFills, hEmpty⟩
    rcases hAccounted with ⟨option, hOption, hCarries⟩ | hKey
    -- The option has the key as its name. The one it fills is
    -- left out, and no free parameter has a reserved key.
    · have hName := hCarries.name_eq
      rcases List.mem_append.mp hOption with hNamed | hLater
      · exact hFills.name_ne hValue hTables hEmpty hNamed hName
      · have hKey : param.1 ∈ extra.map Assignment.name :=
          List.mem_map.mpr ⟨option, hLater, hName⟩
        rw [names_params hExtra,
          Keyed.mem_keys_filter_iff hDistinct hParam,
          hFills.not_free] at hKey
        cases hKey
    · rw [isIgnored, fills_eq_true_iff.mpr hFills,
        Bool.not_true, Bool.and_false] at hKey
      cases hKey
  · intro hSome
    -- A free parameter has an option after the named ones. Of
    -- the others, those that fill no option are ignored.
    cases hFree : isFree param with
    | true =>
        rcases exists_of_mem_forall₂ hExtra
            (List.mem_filter.mpr ⟨hParam, hFree⟩) with
          ⟨option, hOption, hOwn⟩
        exact
          Or.inl
            ⟨option, List.mem_append_right _ hOption,
              .value hOwn⟩
    | false =>
        cases hFills : agent.fills param with
        | true =>
            rw [fills_eq_true_iff] at hFills
            rcases hFills.exists_carries hValue hTables
                (fun hEmpty => hSome ⟨hFills, hEmpty⟩) with
              ⟨option, hOption, hCarries⟩
            exact
              Or.inl
                ⟨option, List.mem_append_left _ hOption,
                  hCarries⟩
        | false =>
            apply Or.inr
            rw [isIgnored, hFree, hFills]
            rfl

------------------------------------------------------------
-- Empty Values
------------------------------------------------------------

/-
  A parameter that fills an option with nothing: there is no
  other value for the option, and that of the parameter is
  an empty text or an empty list.
-/
inductive IsEmptyFill
    (args : Arguments)
    (settings : Settings) : String × Json → Prop where
  | googleApiKey
      (hNone :
        given?
            ((args.word? "googleApiKey").or
              settings.googleApiKey) =
          none) :
      IsEmptyFill args settings ("google_api_key", .text "")
  | promptTemplate
      (hNone : args.text? "promptTemplate" = none) :
      IsEmptyFill args settings ("prompt_template", .text "")
  | tables
      (hNone : args.word? "tables" = none) :
      IsEmptyFill args settings ("include_tables", .array [])

variable {args : Arguments}
variable {settings : Settings}

/- The values that an agent has before its parameters. -/
theorem values_of_ofOptions
    (hAgent : ofOptions args settings = .ok agent) :
    agent.googleApiKey =
        (args.word? "googleApiKey").or settings.googleApiKey ∧
      agent.promptTemplate = args.text? "promptTemplate" ∧
      (agent.tables = [] ↔ args.word? "tables" = none) := by
  simp only [ofOptions, bind_eq_ok_iff, pure_eq_ok_iff]
    at hAgent
  rcases hAgent with
    ⟨_, -, _, -, listed, hListed, tables, hTables, _, -, rfl⟩
  refine ⟨rfl, rfl, ?_⟩
  rw [← Arguments.list?_eq_none_iff hListed]
  cases listed with
  | none =>
      obtain rfl : [] = tables := Except.ok.inj hTables
      simp
  | some texts =>
      have hSome :=
        listOfTexts_ne_nil
          (Arguments.isProper_of_list? hListed).notEmpty
          hTables
      simp [hSome]

theorem isEmptyFill_iff
    (hAgent : ofOptions args settings = .ok agent) :
    IsEmptyFill args settings param ↔
      Fills agent param ∧ IsEmptyValue param.2 := by
  rcases values_of_ofOptions hAgent with
    ⟨hKey, hTemplate, hTables⟩
  constructor
  · intro hEmpty
    cases hEmpty with
    | googleApiKey hNone =>
        rw [← hKey] at hNone
        exact ⟨.googleApiKey hNone, Or.inl rfl⟩
    | promptTemplate hNone =>
        rw [← hTemplate] at hNone
        refine ⟨.promptTemplate ?_, Or.inl rfl⟩
        rw [hNone]
        rfl
    | tables hNone =>
        exact
          ⟨.tables (hTables.mpr hNone) rfl, Or.inr rfl⟩
  · rintro ⟨hFills, hEmpty⟩
    cases hFills with
    | googleApiKey hNone =>
        rw [hKey] at hNone
        obtain rfl := isEmptyValue_text.mp hEmpty
        exact .googleApiKey hNone
    | promptTemplate hNone =>
        rw [hTemplate, Arguments.given?_text?] at hNone
        obtain rfl := isEmptyValue_text.mp hEmpty
        exact .promptTemplate hNone
    | tables hNone hTexts =>
        obtain rfl :=
          (isEmptyValue_iff_of_textItems? hTexts).mp hEmpty
        obtain rfl := (texts_eq_nil_iff hTexts).mp rfl
        exact .tables (hTables.mp hNone)

/- What is accounted for, as seen from the arguments. -/
theorem accounted_iff_of_ofArguments
    {spec : NewAgent}
    {extra : List Assignment}
    (hSpec : ofArguments args settings = .ok spec)
    (hMembers : paramMembers args = .ok members)
    (hExtra : List.Forall₂ IsOptionOf spec.params extra)
    (hParam : param ∈ members) :
    ((∃ option ∈ namedOptions spec ++ extra,
        Carries param option) ∨
      param.1 ∈ spec.ignoredParams) ↔
      ¬ IsEmptyFill args settings param := by
  rw [params_of_ofArguments hSpec hMembers] at hExtra
  rcases ofArguments_eq_ok_iff.mp hSpec with
    ⟨agent, found, tables, hAgent, hFound, hTables, rfl⟩
  rw [hMembers] at hFound
  obtain rfl := Except.ok.inj hFound
  rw [isEmptyFill_iff hAgent]
  exact
    accounted_iff (isProper_of_ofOptions hAgent).2.2
      (nodup_keys_of_paramMembers hMembers) hTables hExtra
      hParam

end NewAgent

namespace Request

open Sql

------------------------------------------------------------
-- Requests
------------------------------------------------------------

/- The warning about the parameters that were ignored. -/
def ignoredWarning (keys : List String) : String :=
  "Ignored --params keys already set by named " ++
    "options: " ++ ", ".intercalate keys

/- Parameters that were ignored are all in one warning. -/
theorem ignoredWarning_mem
    {spec : NewAgent}
    (hIgnored : spec.ignoredParams ≠ []) :
    ignoredWarning spec.ignoredParams ∈
      (createAgent spec).warnings := by
  have hWarnings :
      (createAgent spec).warnings = agentWarnings spec :=
    rfl
  rw [hWarnings, agentWarnings,
    if_neg (by rwa [List.isEmpty_iff])]
  exact List.mem_append_left _ (List.mem_singleton_self _)

/-
  The value of each parameter is in the statement, or its key
  is in a warning, unless the parameter fills an option with
  nothing: only then it is in neither of them.
-/
theorem accountedParams_contract
    {args : Arguments}
    {settings : Settings}
    {d : Dialect}
    {request : Request}
    {texts : List String}
    (hPrepare :
      prepare .createAgent args settings d =
        .ok (request, texts)) :
    ∃ spec name members options,
      request = createAgent spec ∧
        args.word? "agentName" = some name.text ∧
        NewAgent.paramMembers args = .ok members ∧
        request.statements d =
          .ok [.createAgent name options] ∧
        texts =
          ["CREATE AGENT " ++ name.text ++ " USING " ++
            ", ".intercalate
              (options.map (Assignment.text d)) ++ ";"] ∧
        (spec.ignoredParams ≠ [] →
          ignoredWarning spec.ignoredParams ∈
            request.warnings) ∧
        ∀ param ∈ members,
          ((∃ option ∈ options,
              NewAgent.Carries param option) ∨
            param.1 ∈ spec.ignoredParams) ↔
            ¬ NewAgent.IsEmptyFill args settings param := by
  rcases exists_options_of_prepare hPrepare with
    ⟨spec, name, extra, hSpec, rfl, hName, hExtra,
      hStatements, hTexts⟩
  rcases NewAgent.ofArguments_eq_ok_iff.mp hSpec with
    ⟨_, members, _, -, hMembers, -, -⟩
  rw [← hName] at hTexts
  refine
    ⟨spec, name, members, _, rfl, ?_, hMembers, hStatements,
      hTexts, ignoredWarning_mem, ?_⟩
  · rw [hName]
    exact NewAgent.word?_of_ofArguments hSpec
  · intro param hParam
    exact
      NewAgent.accounted_iff_of_ofArguments hSpec hMembers hExtra
        hParam

/-
  One parameter is kept, one is ignored, one fills its
  option, and the last one is lost.
-/
theorem accountedParams_contract_lostTemplate :
    let lost : String × Json := ("prompt_template", .text "")
    let members : List (String × Json) :=
      [("top", .bool true), ("model", .text "m"),
        ("include_tables", .array [.text "hn.stories"]), lost]
    let args : Arguments :=
      [("agentName", .text "a"),
        ("knowledgeBases", .text "kb"),
        ("params", .text (Json.object members).print)]
    let text :=
      "CREATE AGENT a USING model = 'gemini-2.0-flash', " ++
        "include_knowledge_bases = ['kb'], " ++
        "include_tables = ['hn.stories'], top = true;"
    (prepare .createAgent args {} {}).map Prod.snd =
        .ok [text] ∧
      ∃ (spec : NewAgent) (options : List Assignment),
        text =
            "CREATE AGENT a USING " ++
              ", ".intercalate
                (options.map (Assignment.text {})) ++ ";" ∧
          (∀ param ∈ members, param.1 ≠ lost.1 →
            (∃ option ∈ options,
              NewAgent.Carries param option) ∨
              param.1 ∈ spec.ignoredParams) ∧
          (∀ option ∈ options,
            ¬ NewAgent.Carries lost option) ∧
          lost.1 ∉ spec.ignoredParams := by
  intro lost members args text
  have hMembers :
      NewAgent.paramMembers args = .ok members :=
    NewAgent.paramMembers_of_print (by decide +kernel)
      (by decide) (by decide)
      ⟨trivial, trivial, ⟨trivial, trivial⟩, trivial, trivial⟩
  have hTexts :
      (prepare .createAgent args {} {}).map Prod.snd =
        .ok [text] := by
    decide +kernel
  rcases map_eq_ok_iff.mp hTexts with
    ⟨⟨request, texts⟩, hPrepare, rfl⟩
  rcases accountedParams_contract hPrepare with
    ⟨spec, name, _, options, -, hName, hFound, -, hText, -,
      hAccounted⟩
  have hSame : some "a" = some name.text := hName
  rw [← Option.some.inj hSame] at hText
  rw [hMembers] at hFound
  obtain rfl := Except.ok.inj hFound
  have hLost : NewAgent.IsEmptyFill args {} lost :=
    .promptTemplate (by decide)
  have hNeither :=
    mt (hAccounted lost (by simp [members])).mp
      (not_not_intro hLost)
  refine
    ⟨hTexts, spec, options, (List.cons.inj hText).1, ?_, ?_,
      ?_⟩
  · intro param hParam hKept
    apply (hAccounted param hParam).mpr
    intro hEmpty
    cases hEmpty with
    | googleApiKey => simp [members, lost] at hParam
    | promptTemplate => exact hKept rfl
    | tables => simp [members, lost] at hParam
  · intro option hOption hCarries
    exact hNeither (Or.inl ⟨option, hOption, hCarries⟩)
  · intro hKey
    exact hNeither (Or.inr hKey)

/- A parameter may be lost without a warning. -/
theorem not_accountedParams :
    ¬ ∀ (args : Arguments) (settings : Settings)
        (d : Dialect) (request : Request)
        (texts : List String) (spec : NewAgent)
        (name : Identifier) (members : List (String × Json))
        (options : List Assignment),
      prepare .createAgent args settings d =
          .ok (request, texts) →
        request = createAgent spec →
        NewAgent.paramMembers args = .ok members →
        request.statements d =
            .ok [.createAgent name options] →
          ∀ param ∈ members,
            (∃ option ∈ options,
              NewAgent.Carries param option) ∨
              param.1 ∈ spec.ignoredParams := by
  intro hEach
  let lost : String × Json := ("prompt_template", .text "")
  let args : Arguments :=
    [("agentName", .text "a"), ("knowledgeBases", .text "kb"),
      ("params", .text (Json.object [lost]).print)]
  have hMembers : NewAgent.paramMembers args = .ok [lost] :=
    NewAgent.paramMembers_of_print (by decide +kernel)
      (by decide) (by decide) ⟨trivial, trivial⟩
  have hTexts :
      (prepare .createAgent args {} {}).map Prod.snd =
        .ok
          ["CREATE AGENT a USING model = " ++
            "'gemini-2.0-flash', " ++
            "include_knowledge_bases = ['kb'];"] := by
    decide +kernel
  rcases map_eq_ok_iff.mp hTexts with
    ⟨⟨request, texts⟩, hPrepare, -⟩
  rcases exists_options_of_prepare hPrepare with
    ⟨spec, name, extra, hSpec, hRequest, -, hExtra,
      hStatements, -⟩
  have hLost : lost ∈ [lost] := List.mem_singleton_self lost
  have hAccounted :=
    hEach args {} {} request texts spec name [lost] _ hPrepare
      hRequest hMembers hStatements lost hLost
  have hEmpty : NewAgent.IsEmptyFill args {} lost :=
    .promptTemplate (by decide)
  exact
    (NewAgent.accounted_iff_of_ofArguments hSpec hMembers hExtra
      hLost).mp hAccounted hEmpty

end Request

end KbConsole
