import KbConsole.Proofs.Dispatch.Contract
import KbConsole.Proofs.Keyed

/-
  What an operation sees of the settings.

  No operation sees the address of the server, the user and
  the password: only the runner does. The Google key is seen
  by the two operations that fall back on it, and only if
  they were not given a key of their own.

  Key definitions include:
    * `Operation.TakesKey`
    * `Settings.seenBy`

  The main statement is `dispatch_secrecy`. It rests on
  `Request.ofArguments_seenBy`: a request is made of what
  its operation sees.
-/

namespace KbConsole

------------------------------------------------------------
-- Given Keys
------------------------------------------------------------

/- The key of a parameter, if the parameter can be read. -/
def Parameter.key? (text : String) : Option String :=
  (Parameter.ofText text).toOption.map Prod.fst

/- Parameters that can be read have the keys of their texts. -/
theorem Parameter.keys_of_listOfTexts
    {texts : List String}
    {params : List (String × String)}
    (hParams : listOfTexts texts = .ok params) :
    Keyed.keys params = texts.filterMap key? := by
  induction texts generalizing params with
  | nil =>
      cases hParams
      rfl
  | cons text texts ih =>
      simp only [listOfTexts, bind_eq_ok_iff, pure_eq_ok_iff]
        at hParams
      rcases hParams with
        ⟨first, hFirst, others, hOthers, rfl⟩
      have hKey : key? text = some first.1 := by
        rw [key?, hFirst]
        rfl
      rw [List.filterMap_cons_some hKey, ← ih hOthers]
      rfl

/-
  Whether an operation falls back on the Google key of the
  settings: an agent without a key, or a model of the Google
  engine without a parameter for it.
-/
def Operation.TakesKey (args : Arguments) : Operation → Prop
  | createAgent => args.word? "googleApiKey" = none
  | createModel =>
      args.word? "engine" = some "google_gemini" ∧
        "api_key" ∉
          (args.repeated "param").filterMap Parameter.key?
  | _ => False

instance (args : Arguments) (op : Operation) :
    Decidable (op.TakesKey args) := by
  unfold Operation.TakesKey
  split
  · infer_instance
  · infer_instance
  · infer_instance

------------------------------------------------------------
-- Seen Settings
------------------------------------------------------------

/- The settings that the request of an operation is made of. -/
def Settings.seenBy
    (settings : Settings)
    (op : Operation)
    (args : Arguments) : Settings :=
  { settings with
    serverUrl := ""
    user := none
    password := none
    googleApiKey :=
      if op.TakesKey args then settings.googleApiKey else none }

section Seen

variable (settings : Settings)
variable (args : Arguments)

theorem NewAgent.ofArguments_seenBy :
    NewAgent.ofArguments args
        (settings.seenBy .createAgent args) =
      NewAgent.ofArguments args settings := by
  have hKey :
      (args.word? "googleApiKey").or
          (settings.seenBy .createAgent args).googleApiKey =
        (args.word? "googleApiKey").or
          settings.googleApiKey := by
    cases hGiven : args.word? "googleApiKey" with
    | some key => rfl
    | none =>
        have hTakes : Operation.createAgent.TakesKey args :=
          hGiven
        rw [Settings.seenBy, if_pos hTakes]
  simp only [NewAgent.ofArguments, NewAgent.ofOptions, hKey]
  rfl

/- Where no key is to be added, none is looked up. -/
theorem modelParams_eq_self
    {engine : String}
    {params : List (String × String)}
    (hOwn :
      engine = "google_gemini" →
        "api_key" ∈ Keyed.keys params) :
    modelParams settings engine params = params := by
  have hNotAdded :
      (engine = "google_gemini" &&
        !Keyed.has "api_key" params) = false := by
    by_cases hEngine : engine = "google_gemini"
    · rw [Keyed.has_eq_true (hOwn hEngine), Bool.not_true,
        Bool.and_false]
    · rw [decide_eq_false hEngine, Bool.false_and]
  unfold modelParams
  split
  · rw [hNotAdded]
    rfl
  · rfl

theorem modelParams_seenBy
    {params : List (String × String)}
    (hParams :
      Parameter.listOfTexts (args.repeated "param") =
        .ok params) :
    let engine := (args.word? "engine").getD defaultEngine
    modelParams (settings.seenBy .createModel args) engine
        params =
      modelParams settings engine params := by
  intro engine
  by_cases hTakes : Operation.createModel.TakesKey args
  · rw [modelParams, Settings.seenBy, if_pos hTakes]
    rfl
  · have hOwn :
        engine = "google_gemini" →
          "api_key" ∈ Keyed.keys params := by
      intro hEngine
      rw [Parameter.keys_of_listOfTexts hParams]
      by_contra hNone
      refine hTakes ⟨?_, hNone⟩
      -- the default engine is not the one of Google
      cases hGiven : args.word? "engine" with
      | some given =>
          simp only [engine, hGiven, Option.getD_some]
            at hEngine
          rw [hEngine]
      | none =>
          simp only [engine, hGiven, Option.getD_none]
            at hEngine
          revert hEngine
          decide
    rw [modelParams_eq_self _ hOwn, modelParams_eq_self _ hOwn]

theorem NewModel.ofArguments_seenBy :
    NewModel.ofArguments args
        (settings.seenBy .createModel args) =
      NewModel.ofArguments args settings := by
  rw [NewModel.ofArguments, NewModel.ofArguments]
  cases hParams :
      Parameter.listOfTexts (args.repeated "param") with
  | error problem => rfl
  | ok params =>
      have hSame := modelParams_seenBy settings args hParams
      simp only [ok_bind, hSame]

/- A request is made of what its operation sees. -/
theorem Request.ofArguments_seenBy (op : Operation) :
    Request.ofArguments op args (settings.seenBy op args) =
      Request.ofArguments op args settings := by
  cases op with
  | createAgent =>
      simp only [Request.ofArguments,
        NewAgent.ofArguments_seenBy]
  | createModel =>
      simp only [Request.ofArguments,
        NewModel.ofArguments_seenBy]
  | _ => rfl

end Seen

------------------------------------------------------------
-- Dispatches
------------------------------------------------------------

section Dispatches

variable {settings other : Settings}
variable {name : String}
variable {args : Arguments}

/- Settings that look alike to an operation prepare the same. -/
theorem prepare_congr
    {op : Operation}
    (hSeen : settings.seenBy op args = other.seenBy op args)
    (d : Sql.Dialect) :
    prepare op args settings d = prepare op args other d := by
  unfold prepare
  rw [← Request.ofArguments_seenBy settings, hSeen,
    Request.ofArguments_seenBy other]

/- Settings that look alike to an operation dispatch the same. -/
theorem dispatch_congr
    (hSeen :
      ∀ op, Operation.ofName? name = some op →
        settings.seenBy op args = other.seenBy op args)
    {σ : Type}
    (runner : Runner σ)
    (d : Sql.Dialect)
    (dryRun : Bool)
    (state : σ) :
    dispatch runner settings d dryRun name args state =
      dispatch runner other d dryRun name args state := by
  unfold dispatch
  cases hName : Operation.ofName? name with
  | none => rfl
  | some op =>
      simp only
      rw [prepare_congr (hSeen op hName)]

end Dispatches

/-
  Whatever runs the statements, the report and all that is
  asked of the runner do not depend on the address of the
  server, the user and the password, nor on the Google key
  unless the operation falls back on it.
-/
theorem dispatch_secrecy
    {σ : Type}
    (runner : Runner σ)
    (settings : Settings)
    (d : Sql.Dialect)
    (dryRun : Bool)
    (name : String)
    (args : Arguments)
    (state : σ) :
    (∀ serverUrl user password,
      let other := { settings with serverUrl, user, password }
      dispatch runner other d dryRun name args state =
          dispatch runner settings d dryRun name args state ∧
        dispatchActs runner other d dryRun name args state =
          dispatchActs runner settings d dryRun name args
            state) ∧
      ((∀ op, Operation.ofName? name = some op →
          ¬ op.TakesKey args) →
        ∀ googleApiKey,
          let other := { settings with googleApiKey }
          dispatch runner other d dryRun name args state =
              dispatch runner settings d dryRun name args
                state ∧
            dispatchActs runner other d dryRun name args
                state =
              dispatchActs runner settings d dryRun name args
                state) := by
  constructor
  · intro serverUrl user password other
    have hSeen :
        ∀ op, Operation.ofName? name = some op →
          other.seenBy op args = settings.seenBy op args :=
      fun _ _ => rfl
    refine ⟨dispatch_congr hSeen runner d dryRun state, ?_⟩
    unfold dispatchActs
    rw [dispatch_congr hSeen]
  · intro hKey googleApiKey other
    have hSeen :
        ∀ op, Operation.ofName? name = some op →
          other.seenBy op args = settings.seenBy op args := by
      intro op hName
      rw [Settings.seenBy, Settings.seenBy,
        if_neg (hKey op hName), if_neg (hKey op hName)]
    refine ⟨dispatch_congr hSeen runner d dryRun state, ?_⟩
    unfold dispatchActs
    rw [dispatch_congr hSeen]

/-
  A model of the Google engine with a key of its own has no
  use for the key of the settings; without one it is given
  that key.
-/
theorem dispatch_secrecy_ownKey :
    let runner : Runner (List String) :=
      { announce := fun _ sent => sent
        execute := fun sql sent =>
          (.error (.other "no such engine"), sent ++ [sql]) }
    let named : Arguments :=
      [("modelName", .text "m"), ("predictColumn", .text "y"),
        ("selectDataQuery", .text "SELECT 1"),
        ("engine", .text " google_gemini ")]
    let keyed : Arguments :=
      ("param", .texts ["api_key=own"]) :: named
    let settings : Settings := { googleApiKey := some "shared" }
    dispatch runner settings {} false "ai.create-model" keyed
          [] =
        dispatch runner {} {} false "ai.create-model" keyed
          [] ∧
      dispatch runner settings {} false "ai.create-model" named
          [] ≠
        dispatch runner {} {} false "ai.create-model" named
          [] := by
  intro runner named keyed settings
  have hOwn :
      ∀ op, Operation.ofName? "ai.create-model" = some op →
        ¬ op.TakesKey keyed := by
    intro op hName
    rcases Option.some.inj hName with rfl
    decide +kernel
  refine ⟨?_, ?_⟩
  · exact ((dispatch_secrecy runner {} {} false
      "ai.create-model" keyed []).2 hOwn (some "shared")).1
  · decide +kernel

end KbConsole
