import KbConsole.Proofs.Dispatch.Contract
import KbConsole.Proofs.NormalUrl
import KbConsole.Proofs.Sql.BaseUrls

/-
  The base addresses of models, from the options and the
  settings to the statements.

  Each address that is given is stripped, and written unless
  nothing is left of it. It is in normal form unless a blank
  stood before the slashes at its end.

  Key definitions include:
    * `Operation.baseUrls`

  The main statement is `Request.baseUrls_contract`. It
  rests on `Request.baseUrls_of_prepare`.
-/

namespace KbConsole

open Sql

------------------------------------------------------------
-- Given Addresses
------------------------------------------------------------

/-
  The address that is given for a model: that of its option,
  or that of the settings for the local provider.
-/
def givenUrl
    (args : Arguments)
    (settings : Settings)
    (provider url : String) : List String :=
  (given?
    (baseUrlOf settings
      ((args.word? provider).getD defaultProvider)
      (args.word? url))).toList

/- The addresses that are given for the models of a request. -/
def Operation.baseUrls
    (args : Arguments)
    (settings : Settings) : Operation → List String
  | createKnowledgeBase =>
      givenUrl args settings "embeddingProvider"
          "embeddingBaseUrl" ++
        if (rerankingName? args settings).isSome then
          givenUrl args settings "rerankingProvider"
            "rerankingBaseUrl"
        else
          []
  | evaluate =>
      if (args.word? "llmModel").isSome then
        givenUrl args settings "llmProvider" "llmBaseUrl"
      else
        []
  | _ => []

theorem Model.baseUrls_cons (m : Model) (models : List Model) :
    baseUrls (m :: models) =
      baseUrls [m] ++ baseUrls models := by
  rw [baseUrls, baseUrls, baseUrls, List.flatMap_cons,
    List.flatMap_cons, List.flatMap_nil, List.append_nil]

theorem Model.baseUrls_ofOptions
    (args : Arguments)
    (settings : Settings)
    (provider url name : String)
    (key : Option String) :
    Model.baseUrls
        [Model.ofOptions settings
          ((args.word? provider).getD defaultProvider) name
          (args.word? url) key] =
      Url.normalizeAll
        (givenUrl args settings provider url) := by
  unfold Model.baseUrls Model.ofOptions Url.normalizeAll
    givenUrl
  generalize
    given?
      (baseUrlOf settings
        ((args.word? provider).getD defaultProvider)
        (args.word? url)) = given
  cases given with
  | none => rfl
  | some raw =>
      by_cases hNone : Url.normalize raw = ""
      · simp [hNone, given?]
      · simp [hNone, given?]

/- A ranking model has an address only if it has a name. -/
theorem Model.baseUrls_reranking
    {args : Arguments}
    {settings : Settings}
    {reranking : Option Model}
    (hReranking :
      rerankingModel? args settings = .ok reranking) :
    Model.baseUrls reranking.toList =
      Url.normalizeAll
        (if (rerankingName? args settings).isSome then
          givenUrl args settings "rerankingProvider"
            "rerankingBaseUrl"
        else
          []) := by
  unfold rerankingModel? at hReranking
  cases hName : rerankingName? args settings with
  | none =>
      simp only [hName] at hReranking
      split at hReranking
      · cases hReranking
      · obtain rfl := Except.ok.inj hReranking
        rfl
  | some name =>
      simp only [hName] at hReranking
      obtain rfl := Except.ok.inj hReranking
      rw [Option.isSome_some, if_pos rfl]
      exact
        baseUrls_ofOptions args settings "rerankingProvider"
          "rerankingBaseUrl" name _

theorem NewKnowledgeBase.baseUrls_of_ofArguments
    {args : Arguments}
    {settings : Settings}
    {spec : NewKnowledgeBase}
    (hSpec : ofArguments args settings = .ok spec) :
    Model.baseUrls
        (spec.embedding :: spec.reranking.toList) =
      Url.normalizeAll
        (Operation.createKnowledgeBase.baseUrls args
          settings) := by
  simp only [ofArguments, bind_eq_ok_iff, pure_eq_ok_iff]
    at hSpec
  rcases hSpec with
    ⟨reranking, hReranking, _, -, _, -, _, -, rfl⟩
  rw [Operation.baseUrls, Url.normalizeAll_append,
    ← Model.baseUrls_reranking hReranking,
    Model.baseUrls_cons, embeddingModel,
    Model.baseUrls_ofOptions]

theorem Evaluation.baseUrls_of_ofArguments
    {args : Arguments}
    {settings : Settings}
    {spec : Evaluation}
    (hSpec : ofArguments args settings = .ok spec) :
    Model.baseUrls spec.judge.toList =
      Url.normalizeAll
        (Operation.evaluate.baseUrls args settings) := by
  rcases tasks_of_ofArguments hSpec with ⟨-, -, hJudge, -⟩
  rw [hJudge, judge?, Operation.baseUrls]
  cases args.word? "llmModel" with
  | none => rfl
  | some name =>
      rw [Option.isSome_some, if_pos rfl]
      exact
        Model.baseUrls_ofOptions args settings "llmProvider"
          "llmBaseUrl" name _

------------------------------------------------------------
-- Prepared Statements
------------------------------------------------------------

namespace Request

variable {op : Operation}
variable {args : Arguments}
variable {settings : Settings}
variable {d : Dialect}
variable {request : Request}
variable {texts : List String}

theorem baseUrls_of_ofArguments
    (hRequest : ofArguments op args settings = .ok request) :
    Model.baseUrls request.models =
      Url.normalizeAll (op.baseUrls args settings) := by
  cases op with
  | createKnowledgeBase =>
      simp only [ofArguments, bind_eq_ok_iff, pure_eq_ok_iff]
        at hRequest
      rcases hRequest with ⟨spec, hSpec, rfl⟩
      exact NewKnowledgeBase.baseUrls_of_ofArguments hSpec
  | evaluate =>
      simp only [ofArguments, bind_eq_ok_iff, pure_eq_ok_iff]
        at hRequest
      rcases hRequest with ⟨spec, hSpec, rfl⟩
      exact Evaluation.baseUrls_of_ofArguments hSpec
  | _ =>
      -- No other request has models.
      have hNone : request.models = [] := by
        simp only [ofArguments, bind_eq_ok_iff, pure_eq_ok_iff]
          at hRequest
        grind [Request.models]
      rw [hNone]
      rfl

/- The addresses in the prepared statements. -/
theorem baseUrls_of_prepare
    (hPrepare :
      prepare op args settings d = .ok (request, texts)) :
    ∃ statements,
      request.statements d = .ok statements ∧
        statements.map (Statement.text d) = texts ∧
        ∀ s ∈ statements,
          s.baseUrls =
            Url.normalizeAll (op.baseUrls args settings) := by
  rcases prepare_eq_ok_iff.mp hPrepare with
    ⟨hRequest, statements, hStatements, hTexts⟩
  refine ⟨statements, hStatements, hTexts, ?_⟩
  intro s hMember
  rw [baseUrls_of_statements hStatements s hMember,
    baseUrls_of_ofArguments hRequest]

------------------------------------------------------------
-- Contract
------------------------------------------------------------

/-
  An address is stripped of its margins and of the slashes
  at its end. The result is in normal form, and stays as it
  is when it is stripped again, exactly if the address has
  no spaced slash.

  The addresses in the statements of a request are those
  that were given by options and settings, stripped, without
  the empty ones. All of them are in normal form exactly if
  no spaced slash was given.
-/
theorem baseUrls_contract
    (settings : Settings)
    (d : Dialect) :
    (∀ raw,
      Url.IsStrippedFrom raw (Url.normalize raw) ∧
        (Url.IsNormal (Url.normalize raw) ↔
          ¬ Url.HasSpacedSlash raw) ∧
        (Url.normalize (Url.normalize raw) =
            Url.normalize raw ↔
          ¬ Url.HasSpacedSlash raw)) ∧
    ∀ op args request texts,
      prepare op args settings d = .ok (request, texts) →
        ∃ statements,
          request.statements d = .ok statements ∧
            statements.map (Statement.text d) = texts ∧
            ∀ s ∈ statements,
              s.baseUrls =
                  Url.normalizeAll
                    (op.baseUrls args settings) ∧
                ((∀ url ∈ s.baseUrls, Url.IsNormal url) ↔
                  ∀ raw ∈ op.baseUrls args settings,
                    ¬ Url.HasSpacedSlash raw) := by
  constructor
  · intro raw
    exact
      ⟨Url.isStrippedFrom_normalize raw,
        Url.isNormal_normalize_iff,
        Url.normalize_eq_self_iff.trans
          Url.isNormal_normalize_iff⟩
  · intro op args request texts hPrepare
    rcases baseUrls_of_prepare hPrepare with
      ⟨statements, hStatements, hTexts, hUrls⟩
    refine ⟨statements, hStatements, hTexts, ?_⟩
    intro s hMember
    rw [hUrls s hMember]
    exact ⟨rfl, Url.forall_normalizeAll_iff⟩

/-
  A knowledge base with an address of each kind: one with a
  spaced slash from an option, for the model that embeds,
  and one with slashes only from the settings, for the model
  that ranks.
-/
theorem baseUrls_contract_spaced :
    let args : Arguments :=
      [("kbName", .text "kb"), ("withReranking", .flag true),
        ("embeddingBaseUrl", .text "http://gpu:11434 /")]
    let settings : Settings :=
      { ollamaBaseUrl := " http://127.0.0.1:11434// " }
    ∃ request texts,
      prepare .createKnowledgeBase args settings {} =
          .ok (request, texts) ∧
        ∃ statements : List Statement,
          statements.map (Statement.text {}) = texts ∧
            ∀ s ∈ statements,
              s.baseUrls =
                  ["http://gpu:11434 ",
                    "http://127.0.0.1:11434"] ∧
                ¬ ∀ url ∈ s.baseUrls, Url.IsNormal url := by
  intro args settings
  have hReady :
      (prepare .createKnowledgeBase args settings {}).isOk =
        true := by
    decide +kernel
  have hUrls :
      Url.normalizeAll
          (Operation.createKnowledgeBase.baseUrls args
            settings) =
        ["http://gpu:11434 ", "http://127.0.0.1:11434"] := by
    decide +kernel
  cases hPrepare :
    prepare .createKnowledgeBase args settings {} with
  | error problem =>
      rw [hPrepare] at hReady
      cases hReady
  | ok prepared =>
      rcases (baseUrls_contract settings {}).2
          .createKnowledgeBase args prepared.1 prepared.2
          hPrepare with
        ⟨statements, -, hTexts, hWritten⟩
      refine
        ⟨prepared.1, prepared.2, rfl, statements, hTexts, ?_⟩
      intro s hMember
      have hNames := (hWritten s hMember).1
      rw [hUrls] at hNames
      refine ⟨hNames, ?_⟩
      rw [hNames]
      decide +kernel

/-
  The blank before the last slash is written, and is only
  gone when the address is stripped once more.
-/
theorem not_isNormal_baseUrl :
    let raw := "http://localhost:11434 /"
    let args : Arguments :=
      [("kbName", .text "kb"), ("embeddingBaseUrl", .text raw)]
    (prepare .createKnowledgeBase args {} {}).map Prod.snd =
        .ok
          ["CREATE KNOWLEDGE_BASE kb USING " ++
            "embedding_model = \x7b" ++
            "\"provider\": \"ollama\", " ++
            "\"model_name\": \"nomic-embed-text\", " ++
            "\"base_url\": \"http://localhost:11434 \"" ++
            "\x7d;"] ∧
      Url.normalize raw = "http://localhost:11434 " ∧
      ¬ Url.IsNormal (Url.normalize raw) ∧
      Url.normalize (Url.normalize raw) =
        "http://localhost:11434" := by
  decide +kernel

end Request

end KbConsole
