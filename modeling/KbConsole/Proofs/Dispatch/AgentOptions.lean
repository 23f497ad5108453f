import KbConsole.Proofs.Dispatch.Contract
import KbConsole.Proofs.Request.Agent
import KbConsole.Proofs.Sql.Agent

/-
  The options of an agent: which there are in its statement,
  where their values come from, and what the order of its
  parameters changes.

  Key definitions include:
    * `NewAgent.IsGiven`
    * `NewAgent.HasOptions`

  The main statement is `Request.agentOptions_contract`. It
  rests on `Sql.nodup_names_options`, on
  `NewAgent.IsGiven.mem_namedOptions`, and for the order of
  parameters on `NewAgent.ofArguments_rearranged` and
  `Sql.IsCompilable.rearranged`.
-/

namespace KbConsole

namespace Sql

------------------------------------------------------------
-- Names and Order
------------------------------------------------------------

variable {spec : NewAgent}
variable {options : List Assignment}

/- No two options of an agent have the same name. -/
theorem nodup_names_options
    (hSpec : spec.IsProper)
    (hOptions : List.Forall₂ IsOptionOf spec.params options) :
    ((namedOptions spec ++ options).map
      Assignment.name).Nodup := by
  have hNamed := names_namedOptions spec
  rw [List.map_append, names_params hOptions]
  apply List.Nodup.append
  · exact List.Nodup.sublist hNamed (by decide)
  · exact hSpec.distinctParams
  · intro name hName hParam
    exact hSpec.freeParams name hParam (hNamed.subset hName)

/- A statement is found for every order of parameters. -/
theorem IsCompilable.rearranged
    {other : NewAgent}
    (hSpec : IsCompilable spec)
    (hOther : spec.IsRearranged other) :
    IsCompilable other where
  notEmpty := hOther.knowledgeBases ▸ hSpec.notEmpty
  knowledgeBases := hOther.knowledgeBases ▸ hSpec.knowledgeBases
  tables := hOther.tables ▸ hSpec.tables
  params := fun param hParam =>
    hSpec.params param (hOther.params.mem_iff.mpr hParam)
  name := hOther.name ▸ hSpec.name

end Sql

namespace NewAgent

open Sql

------------------------------------------------------------
-- Given Options
------------------------------------------------------------

/-
  An option that an argument of its own gives a value to.
  Parameters are not looked at.
-/
inductive IsGiven (args : Arguments) : Assignment → Prop where
  | model
      {text : String}
      (hText : args.word? "model" = some text) :
      IsGiven args (.literal "model" (.text text))
  | googleApiKey
      {text : String}
      (hText : args.word? "googleApiKey" = some text) :
      IsGiven args (.literal "google_api_key" (.text text))
  | knowledgeBases
      {names : List String}
      (hNames :
        args.list? "knowledgeBases" "kb_names" =
          .ok (some names)) :
      IsGiven args
        (.literal "include_knowledge_bases" (.texts names))
  | tables
      {texts : List String}
      {tables : List TableRef}
      (hTexts :
        args.list? "tables" "--tables" = .ok (some texts))
      (hTables :
        TableRef.listOfTexts "--tables" texts = .ok tables) :
      IsGiven args
        (.literal "include_tables"
          (.texts (tables.map TableRef.qualified)))
  | promptTemplate
      {text : String}
      (hText : args.text? "promptTemplate" = some text) :
      IsGiven args (.literal "prompt_template" (.text text))

variable {args : Arguments}
variable {settings : Settings}
variable {spec : NewAgent}

/- A text that is given stays, whatever is looked up. -/
theorem mem_textOption_filledText
    {text : String}
    (hText : text ≠ "")
    (name : String)
    (members : List (String × Json)) :
    Assignment.literal name (.text text) ∈
      textOption name
        (filledText (some text) name members) := by
  rw [filledText_of_given hText]
  exact mem_textOption_iff.mpr ⟨text, given?_of_ne hText, rfl⟩

theorem listOfTexts_ne_nil
    {label : String}
    {texts : List String}
    {tables : List TableRef}
    (hTexts : texts ≠ [])
    (hTables : TableRef.listOfTexts label texts = .ok tables) :
    tables ≠ [] := by
  cases texts with
  | nil => exact absurd rfl hTexts
  | cons text texts =>
      simp only [TableRef.listOfTexts, bind_eq_ok_iff,
        pure_eq_ok_iff] at hTables
      rcases hTables with ⟨first, -, others, -, rfl⟩
      exact List.cons_ne_nil first others

/- An option that is given is in the statement as given. -/
theorem IsGiven.mem_namedOptions
    {option : Assignment}
    (hGiven : IsGiven args option)
    (hSpec : ofArguments args settings = .ok spec) :
    option ∈ namedOptions spec := by
  rcases ofArguments_eq_ok_iff.mp hSpec with
    ⟨named, members, tables, hNamed, -, hFilled, rfl⟩
  simp only [ofOptions, bind_eq_ok_iff, pure_eq_ok_iff]
    at hNamed
  rcases hNamed with
    ⟨name, -, listed, hListed, listedTexts, hListedTexts,
      refs, hRefs, bases, hBases, rfl⟩
  rw [Arguments.demand_eq_ok_iff] at hBases
  subst hBases
  apply mem_namedOptions_iff.mpr
  cases hGiven with
  | model hText =>
      apply Or.inl
      rw [filled, hText, Option.getD_some]
  | @googleApiKey text hText =>
      refine Or.inr (Or.inl ?_)
      rw [filled, hText, Option.some_or]
      exact mem_textOption_filledText
        (Arguments.isTrimmed_of_word? hText).notEmpty _ _
  | knowledgeBases hNames =>
      refine Or.inr (Or.inr (Or.inl ?_))
      rw [hListed] at hNames
      obtain rfl := Option.some.inj (Except.ok.inj hNames)
      rfl
  | @tables texts given hTexts hTables =>
      refine Or.inr (Or.inr (Or.inr (Or.inl ?_)))
      rw [hListedTexts] at hTexts
      obtain rfl := Except.ok.inj hTexts
      rw [Option.getD_some, hTables] at hRefs
      obtain rfl := Except.ok.inj hRefs
      have hSome :=
        listOfTexts_ne_nil
          (Arguments.isProper_of_list? hListedTexts).notEmpty
          hTables
      rw [filledTables_of_ne_nil hSome] at hFilled
      obtain rfl := Except.ok.inj hFilled
      exact mem_listedTables_iff.mpr ⟨hSome, rfl⟩
  | @promptTemplate text hText =>
      refine Or.inr (Or.inr (Or.inr (Or.inr ?_)))
      rw [filled, hText]
      exact mem_textOption_filledText
        (Arguments.ne_empty_of_text? hText) _ _

theorem word?_of_ofArguments
    (hSpec : ofArguments args settings = .ok spec) :
    args.word? "agentName" = some spec.name := by
  rcases ofArguments_eq_ok_iff.mp hSpec with
    ⟨named, _, _, hNamed, -, -, rfl⟩
  simp only [ofOptions, bind_eq_ok_iff, pure_eq_ok_iff]
    at hNamed
  rcases hNamed with
    ⟨name, hName, _, -, _, -, _, -, _, -, rfl⟩
  exact Arguments.demand_eq_ok_iff.mp hName

/- What is kept of the parameters are the free ones. -/
theorem params_of_ofArguments
    {members : List (String × Json)}
    (hSpec : ofArguments args settings = .ok spec)
    (hMembers : paramMembers args = .ok members) :
    spec.params = members.filter isFree := by
  rcases ofArguments_eq_ok_iff.mp hSpec with
    ⟨named, found, tables, hNamed, hFound, -, rfl⟩
  rw [hMembers] at hFound
  obtain rfl := Except.ok.inj hFound
  have hNone := (isProper_of_ofOptions hNamed).2.1
  rw [filled, hNone, List.nil_append]

/-
  The options of an agent. No two have the same name; those
  that have an argument of their own come first and keep its
  value; and the free parameters follow in their own order,
  in which indexes come first.
-/
structure HasOptions
    (args : Arguments)
    (members : List (String × Json))
    (named extra : List Assignment) : Prop where
  distinct : ((named ++ extra).map Assignment.name).Nodup
  given : ∀ option, IsGiven args option → option ∈ named
  reserved :
    (named.map Assignment.name).Sublist reservedParams
  names :
    extra.map Assignment.name =
      (Keyed.keys members).filter
        (fun key => !reservedParams.contains key)
  values :
    List.Forall₂ IsOptionOf (members.filter isFree) extra
  order : (Keyed.keys members).Pairwise Keyed.Precedes

theorem hasOptions_of_forall₂
    {members : List (String × Json)}
    {options : List Assignment}
    (hSpec : ofArguments args settings = .ok spec)
    (hMembers : paramMembers args = .ok members)
    (hOptions : List.Forall₂ IsOptionOf spec.params options) :
    HasOptions args members (namedOptions spec) options := by
  have hParams := params_of_ofArguments hSpec hMembers
  have hProper := isProper_of_ofArguments hSpec
  refine
    { distinct := nodup_names_options hProper hOptions
      given := fun option hGiven =>
        hGiven.mem_namedOptions hSpec
      reserved := names_namedOptions spec
      names := ?_
      values := hParams ▸ hOptions
      order := pairwise_precedes_of_paramMembers hMembers }
  rw [names_params hOptions, hParams, Keyed.keys, Keyed.keys,
    List.filter_map]
  rfl

end NewAgent

namespace Request

open Sql

------------------------------------------------------------
-- Requests
------------------------------------------------------------

variable {args : Arguments}
variable {settings : Settings}
variable {d : Dialect}

theorem ofArguments_createAgent_eq_ok_iff
    {request : Request} :
    ofArguments .createAgent args settings = .ok request ↔
      ∃ spec,
        NewAgent.ofArguments args settings = .ok spec ∧
          createAgent spec = request := by
  simp only [ofArguments, bind_eq_ok_iff, pure_eq_ok_iff]

theorem statements_createAgent_eq_ok_iff
    {spec : NewAgent}
    {statements : List Statement} :
    (createAgent spec).statements d = .ok statements ↔
      ∃ s, agentStatement spec = .ok s ∧ [s] = statements := by
  simp only [Request.statements, bind_eq_ok_iff,
    pure_eq_ok_iff]

/- An agent that is read and has a statement. -/
theorem prepare_createAgent_eq_ok_iff
    {request : Request}
    {texts : List String} :
    prepare .createAgent args settings d =
        .ok (request, texts) ↔
      ∃ spec s,
        NewAgent.ofArguments args settings = .ok spec ∧
          agentStatement spec = .ok s ∧
          createAgent spec = request ∧
          [s.text d] = texts := by
  rw [prepare_eq_ok_iff, ofArguments_createAgent_eq_ok_iff]
  constructor
  · rintro ⟨⟨spec, hSpec, rfl⟩, statements, hStatements, rfl⟩
    rcases statements_createAgent_eq_ok_iff.mp hStatements with
      ⟨s, hStatement, rfl⟩
    exact ⟨spec, s, hSpec, hStatement, rfl, rfl⟩
  · rintro ⟨spec, s, hSpec, hStatement, rfl, rfl⟩
    exact
      ⟨⟨spec, hSpec, rfl⟩, [s],
        statements_createAgent_eq_ok_iff.mpr
          ⟨s, hStatement, rfl⟩, rfl⟩

theorem exists_prepare_createAgent_iff :
    (∃ prepared,
      prepare .createAgent args settings d = .ok prepared) ↔
      ∃ spec,
        NewAgent.ofArguments args settings = .ok spec ∧
          IsCompilable spec := by
  simp only [Prod.exists, prepare_createAgent_eq_ok_iff,
    ← exists_agentStatement_iff]
  constructor
  · rintro ⟨_, _, spec, s, hSpec, hStatement, -, -⟩
    exact ⟨spec, hSpec, s, hStatement⟩
  · rintro ⟨spec, hSpec, s, hStatement⟩
    exact ⟨_, _, spec, s, hSpec, hStatement, rfl, rfl⟩

/- The options of an agent that can be prepared. -/
theorem exists_options_of_prepare
    {request : Request}
    {texts : List String}
    (hPrepare :
      prepare .createAgent args settings d =
        .ok (request, texts)) :
    ∃ spec name extra,
      NewAgent.ofArguments args settings = .ok spec ∧
        request = createAgent spec ∧
        name.text = spec.name ∧
        List.Forall₂ IsOptionOf spec.params extra ∧
        request.statements d =
          .ok [.createAgent name (namedOptions spec ++ extra)] ∧
        texts =
          ["CREATE AGENT " ++ spec.name ++ " USING " ++
            ", ".intercalate
              ((namedOptions spec ++ extra).map
                (Assignment.text d)) ++ ";"] := by
  rcases prepare_createAgent_eq_ok_iff.mp hPrepare with
    ⟨spec, s, hSpec, hStatement, rfl, rfl⟩
  have hStatements :
      (createAgent spec).statements d = .ok [s] :=
    statements_createAgent_eq_ok_iff.mpr ⟨s, hStatement, rfl⟩
  rcases agentStatement_eq_ok_iff.mp hStatement with
    ⟨-, -, -, extra, hExtra, name, hName, rfl⟩
  refine
    ⟨spec, name, extra, hSpec, rfl, hName,
      (mapM_agentParam_eq_ok_iff.mp hExtra).2, hStatements, ?_⟩
  rw [← hName]
  unfold Statement.text Statement.body Assignment.listText
  simp only [String.append_assoc]

/-
  The options in the statement of an agent have distinct
  names. A named option that an argument gives keeps its
  value, and each free parameter has one option after the
  named ones. When the members of the parameters come in
  another order, the same requests can be prepared, and they
  differ in the order of parameters alone.
-/
theorem agentOptions_contract
    (settings : Settings)
    (d : Dialect) :
    (∀ args request texts,
      prepare .createAgent args settings d =
          .ok (request, texts) →
        ∃ name members named extra,
          args.word? "agentName" = some name ∧
            NewAgent.paramMembers args = .ok members ∧
            NewAgent.HasOptions args members named extra ∧
            texts =
              ["CREATE AGENT " ++ name ++ " USING " ++
                ", ".intercalate
                  ((named ++ extra).map (Assignment.text d)) ++
                ";"]) ∧
    ∀ args other, NewAgent.RearrangesParams args other →
      ((∃ request,
          ofArguments .createAgent args settings =
            .ok request) ↔
        ∃ request,
          ofArguments .createAgent other settings =
            .ok request) ∧
      ((∃ prepared,
          prepare .createAgent args settings d =
            .ok prepared) ↔
        ∃ prepared,
          prepare .createAgent other settings d =
            .ok prepared) ∧
      ∀ request request',
        ofArguments .createAgent args settings = .ok request →
          ofArguments .createAgent other settings =
              .ok request' →
            ∃ spec spec',
              request = createAgent spec ∧
                request' = createAgent spec' ∧
                spec.IsRearranged spec' := by
  constructor
  · intro args request texts hPrepare
    rcases exists_options_of_prepare hPrepare with
      ⟨spec, _, extra, hSpec, rfl, -, hOptions, -, hTexts⟩
    rcases NewAgent.ofArguments_eq_ok_iff.mp hSpec with
      ⟨_, members, _, -, hMembers, -, -⟩
    exact
      ⟨spec.name, members, namedOptions spec, extra,
        NewAgent.word?_of_ofArguments hSpec, hMembers,
        NewAgent.hasOptions_of_forall₂ hSpec hMembers hOptions,
        hTexts⟩
  · intro args other hOther
    simp only [ofArguments_createAgent_eq_ok_iff,
      exists_prepare_createAgent_iff]
    rcases NewAgent.ofArguments_rearranged hOther settings with
      ⟨problem, hFirst, hSecond⟩ |
        ⟨spec, spec', hFirst, hSecond, hSpecs⟩
    · simp [hFirst, hSecond]
    · simp only [hFirst, hSecond, Except.ok.injEq,
        exists_eq_left']
      refine
        ⟨⟨fun _ => ⟨_, rfl⟩, fun _ => ⟨_, rfl⟩⟩,
          ⟨fun h => h.rearranged hSpecs,
            fun h => h.rearranged hSpecs.symm⟩, ?_⟩
      rintro _ _ rfl rfl
      exact ⟨spec, spec', rfl, rfl, hSpecs⟩

/-
  A template that is given is kept, tables are filled in, and
  the parameters may come in the other order.
-/
theorem agentOptions_contract_keptTemplate :
    let members : List (String × Json) :=
      [("prompt_template", .text "x"),
        ("include_tables", .array [.text "hn.stories"]),
        ("top", .bool true)]
    let given : Arguments :=
      [("agentName", .text "a"),
        ("knowledgeBases", .text "kb"),
        ("promptTemplate", .text "Answer.")]
    let args : List (String × Json) → Arguments :=
      fun members =>
        given ++ [("params", .text (Json.object members).print)]
    let text :=
      "CREATE AGENT a USING model = 'gemini-2.0-flash', " ++
        "include_knowledge_bases = ['kb'], " ++
        "include_tables = ['hn.stories'], " ++
        "prompt_template = 'Answer.', top = true;"
    (prepare .createAgent (args members) {} {}).map
          Prod.snd =
        .ok [text] ∧
      (∃ named extra,
        NewAgent.HasOptions (args members) members named
            extra ∧
          text =
            "CREATE AGENT a USING " ++
              ", ".intercalate
                ((named ++ extra).map (Assignment.text {})) ++
              ";") ∧
      NewAgent.RearrangesParams (args members)
        (args members.reverse) ∧
      ∃ spec spec',
        ofArguments .createAgent (args members) {} =
            .ok (createAgent spec) ∧
          ofArguments .createAgent (args members.reverse) {} =
              .ok (createAgent spec') ∧
            spec.IsRearranged spec' := by
  intro members given args text
  have hMembers :
      NewAgent.paramMembers (args members) = .ok members :=
    NewAgent.paramMembers_of_print (by decide +kernel)
      (by decide) (by decide)
      ⟨trivial, ⟨trivial, trivial⟩, trivial, trivial⟩
  have hReverse :
      NewAgent.paramMembers (args members.reverse) =
        .ok members.reverse :=
    NewAgent.paramMembers_of_print (by decide +kernel)
      (by decide) (by decide)
      ⟨trivial, ⟨trivial, trivial⟩, trivial, trivial⟩
  have hTexts :
      (prepare .createAgent (args members) {} {}).map
          Prod.snd =
        .ok [text] := by
    decide +kernel
  have hOther :
      NewAgent.RearrangesParams (args members)
        (args members.reverse) := by
    refine ⟨?_, members, members.reverse, hMembers, hReverse,
      (List.reverse_perm members).symm⟩
    intro key hKey
    have hNone (value : Argument) :
        Keyed.get? key [("params", value)] = none :=
      if_neg (Ne.symm hKey)
    change
      Keyed.get? key (given ++ [("params", _)]) =
        Keyed.get? key (given ++ [("params", _)])
    rw [Keyed.get?_append, Keyed.get?_append, hNone, hNone]
  rcases agentOptions_contract {} {} with
    ⟨hPrepared, hRearranged⟩
  rcases map_eq_ok_iff.mp hTexts with
    ⟨⟨request, texts⟩, hPrepare, rfl⟩
  rcases hPrepared _ _ _ hPrepare with
    ⟨name, found, named, extra, hName, hFound, hOptions,
      hText⟩
  obtain rfl : "a" = name := Option.some.inj hName
  rw [hMembers] at hFound
  obtain rfl := Except.ok.inj hFound
  rcases hRearranged _ _ hOther with ⟨hRequests, -, hSpecs⟩
  have hRequest :
      ∃ request,
        ofArguments .createAgent (args members) {} =
          .ok request := by
    rcases bind_eq_ok_iff.mp hPrepare with
      ⟨request, hRequest, -⟩
    exact ⟨request, hRequest⟩
  rcases hRequest with ⟨first, hFirst⟩
  rcases hRequests.mp ⟨first, hFirst⟩ with ⟨second, hSecond⟩
  rcases hSpecs first second hFirst hSecond with
    ⟨spec, spec', rfl, rfl, hSpecs⟩
  exact
    ⟨hTexts, ⟨named, extra, hOptions, (List.cons.inj hText).1⟩,
      hOther, spec, spec', hFirst, hSecond, hSpecs⟩

end Request

end KbConsole
