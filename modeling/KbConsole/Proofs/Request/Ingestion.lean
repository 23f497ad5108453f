import KbConsole.Proofs.Result
import KbConsole.Request.OfArguments

/-
  What an ingestion is read from, part by part.

  Key definitions include:
    * `Ingestion.metadataOf`, `Ingestion.orderOf`
    * `Ingestion.IsReadFrom`

  The main statement is
  `Ingestion.isReadFrom_of_ofArguments`.
-/

namespace KbConsole

namespace Ingestion

variable {args : Arguments}

/- The metadata of a map, or those of a table by default. -/
def metadataOf
    (table : String) :
    Option Json → Except Problem (List (String × String))
  | none => .ok (defaultColumns table).metadata
  | some json => metadataMap "--metadata-map" json

/- The sort order, if one is given. -/
def orderOf
    (args : Arguments) : Except Problem (Option OrderBy) :=
  match args.word? "orderBy" with
  | none => .ok none
  | some text => (OrderBy.ofText text).map some

/- Each part of an ingestion, and what it is read from. -/
structure IsReadFrom
    (spec : Ingestion)
    (args : Arguments) : Prop where
  knowledgeBase :
    args.word "kbName" "kb_name" = .ok spec.knowledgeBase
  source : ingestionSource args = .ok spec.source
  content :
    ∃ content,
      args.list? "contentColumns" "--content-columns" =
          .ok content ∧
        spec.columns.content =
          content.getD (defaultColumns spec.source.table).content
  metadata :
    ∃ map,
      args.json? "metadataMap" "--metadata-map" = .ok map ∧
        metadataOf spec.source.table map =
          .ok spec.columns.metadata
  idColumn : spec.idColumn = (args.word? "idColumn").getD "id"
  limit :
    args.count "limit" "--limit" defaultIngestLimit =
      .ok spec.limit
  order : orderOf args = .ok spec.orderBy
  ensureDatasource :
    spec.ensureDatasource =
      (args.word? "fromHackernews").isSome

/- The parts are read one after another. -/
theorem ofArguments_eq (args : Arguments) :
    ofArguments args =
      (do
        let knowledgeBase ← args.word "kbName" "kb_name"
        let source ← ingestionSource args
        let map ← args.json? "metadataMap" "--metadata-map"
        let content ←
          args.list? "contentColumns" "--content-columns"
        let metadata ← metadataOf source.table map
        let limit ←
          args.count "limit" "--limit" defaultIngestLimit
        let orderBy ← orderOf args
        return {
          knowledgeBase
          source
          columns :=
            { content :=
                content.getD
                  (defaultColumns source.table).content
              metadata }
          idColumn := (args.word? "idColumn").getD "id"
          limit
          orderBy
          ensureDatasource :=
            (args.word? "fromHackernews").isSome }) := by
  unfold ofArguments
  apply bind_congr
  intro knowledgeBase
  apply bind_congr
  intro source
  apply bind_congr
  intro map
  apply bind_congr
  intro content
  -- What follows an option is the same whether it is there
  -- or not.
  unfold metadataOf orderOf
  cases map <;> cases args.word? "orderBy" <;> rfl

theorem isReadFrom_of_ofArguments
    {spec : Ingestion}
    (hSpec : ofArguments args = .ok spec) :
    spec.IsReadFrom args := by
  simp only [ofArguments_eq, bind_eq_ok_iff, pure_eq_ok_iff]
    at hSpec
  rcases hSpec with
    ⟨knowledgeBase, hKnowledgeBase, source, hSource, map, hMap,
      content, hContent, metadata, hMetadata, limit, hLimit,
      orderBy, hOrder, rfl⟩
  exact
    { knowledgeBase := hKnowledgeBase
      source := hSource
      content := ⟨content, hContent, rfl⟩
      metadata := ⟨map, hMap, hMetadata⟩
      idColumn := rfl
      limit := hLimit
      order := hOrder
      ensureDatasource := rfl }

end Ingestion

end KbConsole
