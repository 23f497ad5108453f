import KbConsole.Proofs.Json.RoundTrip
import KbConsole.Proofs.Sql.Search

/-
  Metadata filters as restrictions of a search: which
  members of the filter's JSON object are conditions of the
  statement.

  Each member is one condition, with one exception: a member
  under the hidden key is checked and then left out, and so
  is an operator of that name.

  Key definitions include:
    * `Filter.IsConditionOf`
    * `Filter.RestrictsFully`

  The main statement is
  `Request.compile_query_conditions`. That the exception is
  one is `Request.not_restrictsFully_of_accepted`.
-/

namespace KbConsole

open Sql

namespace Filter

------------------------------------------------------------
-- Members and Restrictions
------------------------------------------------------------

/- The restriction that a member of a filter states. -/
inductive IsStatedBy :
    String × Json → String × Restriction → Prop
  | equals
      (key : String)
      {value : Json}
      {scalar : Scalar}
      (hScalar : Scalar.ofJson? value = some scalar) :
      IsStatedBy (key, value) (key, .equals scalar)
  | compares
      (key : String)
      {members : List (String × Json)}
      {operators : Keyed Scalar}
      (hOperators :
        List.Forall₂
          (fun member operator =>
            member.1 = operator.1 ∧
              Scalar.ofJson? member.2 = some operator.2)
          members operators) :
      IsStatedBy (key, .object members)
        (key, .compares (visible operators))

theorem forall₂_operands
    {flag key : String}
    {members : List (String × Json)}
    {operators : Keyed Scalar}
    (hOperators :
      operands flag key members = .ok operators) :
    List.Forall₂
      (fun member operator =>
        member.1 = operator.1 ∧
          Scalar.ofJson? member.2 = some operator.2)
      members operators := by
  induction members generalizing operators with
  | nil =>
      obtain rfl := Except.ok.inj hOperators
      exact List.Forall₂.nil
  | cons member members ih =>
      unfold operands at hOperators
      split at hOperators
      · cases hOperators
      · rename_i value hValue
        simp only [bind_eq_ok_iff, pure_eq_ok_iff]
          at hOperators
        rcases hOperators with ⟨others, hOthers, rfl⟩
        exact List.Forall₂.cons ⟨rfl, hValue⟩ (ih hOthers)

theorem isStatedBy_of_restriction
    {flag key : String}
    {value : Json}
    {stated : Restriction}
    (hStated : restriction flag key value = .ok stated) :
    IsStatedBy (key, value) (key, stated) := by
  unfold restriction at hStated
  split at hStated
  · rename_i hScalar
    obtain rfl := Except.ok.inj hStated
    exact IsStatedBy.equals key hScalar
  · simp only [bind_eq_ok_iff, pure_eq_ok_iff] at hStated
    rcases hStated with ⟨operators, hOperators, rfl⟩
    exact IsStatedBy.compares key
      (forall₂_operands hOperators)
  · cases hStated

theorem forall₂_restrictions
    {flag : String}
    {members : List (String × Json)}
    {filter : Filter}
    (hFilter : restrictions flag members = .ok filter) :
    List.Forall₂ IsStatedBy members filter := by
  induction members generalizing filter with
  | nil =>
      obtain rfl := Except.ok.inj hFilter
      exact List.Forall₂.nil
  | cons member members ih =>
      simp only [restrictions, bind_eq_ok_iff,
        pure_eq_ok_iff] at hFilter
      rcases hFilter with
        ⟨first, hFirst, others, hOthers, rfl⟩
      exact List.Forall₂.cons
        (isStatedBy_of_restriction hFirst) (ih hOthers)

/- Entries with the same keys are visible together. -/
theorem forall₂_visible
    {α β : Type}
    {R : String × α → String × β → Prop}
    (hKeys : ∀ a b, R a b → a.1 = b.1)
    {entries : Keyed α}
    {others : Keyed β}
    (hEntries : List.Forall₂ R entries others) :
    List.Forall₂ R (visible entries) (visible others) := by
  induction hEntries with
  | nil => exact List.Forall₂.nil
  | @cons entry other entries others hEntry _ ih =>
      have hKey : entry.1 = other.1 := hKeys entry other hEntry
      unfold visible at ih ⊢
      by_cases hHidden : other.1 = hiddenKey
      · simpa [hKey, hHidden] using ih
      · simpa [hKey, hHidden] using List.Forall₂.cons hEntry ih

/- A filter states the visible members of its object. -/
theorem ofJson_eq_ok
    {flag : String}
    {json : Json}
    {filter : Filter}
    (hFilter : ofJson flag json = .ok filter) :
    ∃ members,
      json = .object members ∧
        List.Forall₂ IsStatedBy (visible members) filter := by
  unfold ofJson at hFilter
  split at hFilter
  · rename_i members
    simp only [bind_eq_ok_iff, pure_eq_ok_iff] at hFilter
    rcases hFilter with ⟨entries, hEntries, rfl⟩
    refine ⟨members, rfl, ?_⟩
    apply forall₂_visible _ (forall₂_restrictions hEntries)
    intro member entry hStated
    cases hStated <;> rfl
  · cases hFilter

------------------------------------------------------------
-- Members and Conditions
------------------------------------------------------------

/-
  The condition that a member of a filter becomes: equality
  with a scalar, or a comparison by its one visible operator.
-/
inductive IsConditionOf :
    String × Json → ConditionReading → Prop
  | equals
      (column : String)
      {value : Json}
      {scalar : Scalar}
      (hScalar : Scalar.ofJson? value = some scalar) :
      IsConditionOf (column, value)
        { column
          comparison := .equal
          operand := .ofScalar scalar }
  | compares
      (column : String)
      {members : List (String × Json)}
      {operator : String}
      {operand : Json}
      {scalar : Scalar}
      {comparison : Comparison}
      (hOnly : visible members = [(operator, operand)])
      (hOperator :
        Comparison.ofOperator? operator = some comparison)
      (hScalar : Scalar.ofJson? operand = some scalar) :
      IsConditionOf (column, .object members)
        { column
          comparison
          operand := .ofScalar scalar }

theorem IsConditionOf.column_eq
    {member : String × Json}
    {reading : ConditionReading}
    (hCondition : IsConditionOf member reading) :
    reading.column = member.1 := by
  cases hCondition <;> rfl

/- Operators are read as a condition only if there is one. -/
theorem eq_singleton_of_isReadAs
    {key : String}
    {operators : Keyed Scalar}
    {reading : ConditionReading}
    (hRead : IsReadAs (key, .compares operators) reading) :
    ∃ operator scalar comparison,
      operators = [(operator, scalar)] ∧
        Comparison.ofOperator? operator = some comparison ∧
          reading =
            { column := key
              comparison
              operand := .ofScalar scalar } := by
  cases hRead with
  | compares column hOperator hWritable =>
      exact ⟨_, _, _, rfl, hOperator, rfl⟩

theorem IsStatedBy.isConditionOf
    {member : String × Json}
    {entry : String × Restriction}
    {reading : ConditionReading}
    (hStated : IsStatedBy member entry)
    (hRead : IsReadAs entry reading) :
    IsConditionOf member reading := by
  cases hStated with
  | equals key hScalar =>
      cases hRead with
      | equals column hWritable =>
          exact IsConditionOf.equals key hScalar
  | compares key hOperators =>
      rcases eq_singleton_of_isReadAs hRead with
        ⟨operator, scalar, comparison, hOnly, hOperator, rfl⟩
      have hVisible :=
        forall₂_visible (fun _ _ h => h.1) hOperators
      rw [hOnly, List.forall₂_cons_right_iff] at hVisible
      rcases hVisible with
        ⟨member, none, ⟨hName, hScalar⟩, hNone, hMembers⟩
      rw [List.forall₂_nil_right_iff] at hNone
      rw [hNone] at hMembers
      obtain rfl : member.1 = operator := hName
      exact IsConditionOf.compares key hMembers hOperator
        hScalar

/- Members that are stated and read are conditions. -/
theorem forall₂_isConditionOf
    {members : List (String × Json)}
    {filter : Filter}
    {readings : List ConditionReading}
    (hStated : List.Forall₂ IsStatedBy members filter)
    (hRead : List.Forall₂ IsReadAs filter readings) :
    List.Forall₂ IsConditionOf members readings := by
  induction hStated generalizing readings with
  | nil =>
      rw [List.forall₂_nil_left_iff] at hRead
      subst hRead
      exact List.Forall₂.nil
  | cons hMember _ ih =>
      rw [List.forall₂_cons_left_iff] at hRead
      rcases hRead with ⟨first, rest, hFirst, hRest, rfl⟩
      exact List.Forall₂.cons (hMember.isConditionOf hFirst)
        (ih hRest)

theorem map_column_eq
    {members : List (String × Json)}
    {readings : List ConditionReading}
    (hConditions :
      List.Forall₂ IsConditionOf members readings) :
    readings.map ConditionReading.column =
      Keyed.keys members := by
  induction hConditions with
  | nil => rfl
  | cons hCondition _ ih =>
      rw [List.map_cons, ih, hCondition.column_eq]
      rfl

------------------------------------------------------------
-- Full Restriction
------------------------------------------------------------

/- An object of operators holds one operator, a known one. -/
def HasOneOperator (members : List (String × Json)) : Prop :=
  ∃ operator operand,
    members = [(operator, operand)] ∧
      operator ∈ ["$gt", "$gte", "$lt", "$lte"]

/-
  Conditions that restrict a search by each key of a filter
  exactly once, and by all that each key's operators say.
-/
structure RestrictsFully
    (members : List (String × Json))
    (conditions : List ConditionReading) : Prop where
  columns :
    conditions.map ConditionReading.column =
      Keyed.keys members
  operators :
    ∀ key operators,
      (key, Json.object operators) ∈ members →
        HasOneOperator operators

/- Nothing of a filter stands under the hidden key. -/
def IsOpen (members : List (String × Json)) : Prop :=
  hiddenKey ∉ Keyed.keys members ∧
    ∀ key operators,
      (key, Json.object operators) ∈ members →
        hiddenKey ∉ Keyed.keys operators

theorem visible_eq_self_iff
    {α : Type}
    {entries : Keyed α} :
    visible entries = entries ↔
      hiddenKey ∉ Keyed.keys entries := by
  rw [visible, List.filter_eq_self]
  constructor
  · intro hVisible hHidden
    rcases List.mem_map.mp hHidden with
      ⟨entry, hMember, hKey⟩
    have hShown := hVisible entry hMember
    simp [hKey] at hShown
  · intro hHidden entry hMember
    rw [bne_iff_ne]
    intro hKey
    exact hHidden (hKey ▸ List.mem_map_of_mem hMember)

theorem keys_visible
    {α : Type}
    (entries : Keyed α) :
    Keyed.keys (visible entries) =
      (Keyed.keys entries).filter (· != hiddenKey) := by
  rw [Keyed.keys, Keyed.keys, visible, List.filter_map]
  rfl

theorem HasOneOperator.not_hidden
    {members : List (String × Json)}
    (hOne : HasOneOperator members) :
    hiddenKey ∉ Keyed.keys members := by
  rcases hOne with ⟨operator, operand, rfl, hKnown⟩
  intro hHidden
  obtain rfl : hiddenKey = operator := by
    simpa [Keyed.keys] using hHidden
  revert hKnown
  decide

theorem IsConditionOf.hasOneOperator
    {key : String}
    {operators : List (String × Json)}
    {reading : ConditionReading}
    (hCondition :
      IsConditionOf (key, .object operators) reading)
    (hOpen : hiddenKey ∉ Keyed.keys operators) :
    HasOneOperator operators := by
  cases hCondition with
  | equals column hScalar => cases hScalar
  | compares column hOnly hOperator hScalar =>
      rw [visible_eq_self_iff.mpr hOpen] at hOnly
      refine ⟨_, _, hOnly, ?_⟩
      rcases Comparison.ofOperator?_eq_some hOperator with
        ⟨rfl, _⟩ | ⟨rfl, _⟩ | ⟨rfl, _⟩ | ⟨rfl, _⟩ <;> simp

theorem exists_isConditionOf
    {members : List (String × Json)}
    {readings : List ConditionReading}
    (hConditions :
      List.Forall₂ IsConditionOf members readings)
    {member : String × Json}
    (hMember : member ∈ members) :
    ∃ reading, IsConditionOf member reading := by
  induction hConditions with
  | nil => cases hMember
  | cons hCondition _ ih =>
      rcases List.mem_cons.mp hMember with rfl | hMember
      · exact ⟨_, hCondition⟩
      · exact ih hMember

/- A filter restricts fully when it is open, and only then. -/
theorem restrictsFully_iff
    {members : List (String × Json)}
    {readings : List ConditionReading}
    (hConditions :
      List.Forall₂ IsConditionOf (visible members) readings) :
    RestrictsFully members readings ↔ IsOpen members := by
  have hColumns := map_column_eq hConditions
  constructor
  · intro hFull
    constructor
    · rw [hFull.columns, keys_visible] at hColumns
      intro hHidden
      have hShown :=
        List.filter_eq_self.mp hColumns.symm hiddenKey hHidden
      simp at hShown
    · intro key operators hMember
      exact (hFull.operators key operators hMember).not_hidden
  · intro hOpen
    rw [visible_eq_self_iff.mpr hOpen.1]
      at hConditions hColumns
    constructor
    · exact hColumns
    · intro key operators hMember
      rcases exists_isConditionOf hConditions hMember with
        ⟨reading, hCondition⟩
      exact hCondition.hasOneOperator
        (hOpen.2 key operators hMember)

end Filter

------------------------------------------------------------
-- Requests
------------------------------------------------------------

namespace Request

/-
  The conditions of a search after that on its text are the
  visible members of its filter, each one once and in their
  order. They are all of the filter exactly when nothing of
  it stands under the hidden key.
-/
theorem compile_query_conditions
    {args : Arguments}
    {settings : Settings}
    {request : Request}
    {d : Dialect}
    {texts : List String}
    {json : Json}
    (hJson :
      args.json? "metadataFilter" "--metadata-filter" =
        .ok (some json))
    (hRequest :
      Request.ofArguments .query args settings = .ok request)
    (hCompile : request.compile d = .ok texts) :
    ∃ members sql reading,
      json = .object members ∧
        (Keyed.keys members).Nodup ∧
        texts = [sql] ∧
        readSearch? d sql = some reading ∧
        List.Forall₂ Filter.IsConditionOf
          (Filter.visible members) reading.conditions ∧
        (Filter.RestrictsFully members reading.conditions ↔
          Filter.IsOpen members) := by
  simp only [ofArguments, bind_eq_ok_iff, pure_eq_ok_iff]
    at hRequest
  rcases hRequest with ⟨spec, hSpec, rfl⟩
  have hFilter := (Search.ofArguments_eq_ok hSpec).2 json hJson
  rcases Filter.ofJson_eq_ok hFilter with
    ⟨members, rfl, hStated⟩
  rcases Arguments.json?_eq_ok_iff.mp hJson with
    ⟨text, _, hParse⟩
  rcases readSearch?_compile hCompile with
    ⟨sql, reading, rfl, hReading, hRead⟩
  have hConditions :=
    Filter.forall₂_isConditionOf hStated hRead.conditions
  exact
    ⟨members, sql, reading, rfl,
      Json.nodup_keys_of_parse? hParse, rfl, hReading,
      hConditions, Filter.restrictsFully_iff hConditions⟩

/- The arguments of a search with a filter. -/
def filterArguments (filter : Json) : Arguments :=
  [("kbName", .text "kb"), ("queryText", .text "q"),
    ("metadataFilter", .text filter.print)]

theorem ofArguments_query
    {args : Arguments}
    {spec : Search}
    (hSpec : Search.ofArguments args = .ok spec)
    (settings : Settings) :
    Request.ofArguments .query args settings =
      .ok (.query spec) := by
  unfold Request.ofArguments
  rw [hSpec]
  rfl

theorem json?_filterArguments
    {filter : Json}
    (hExact : filter.IsExact)
    (hWord :
      (filterArguments filter).word? "metadataFilter" =
        some filter.print) :
    (filterArguments filter).json? "metadataFilter"
        "--metadata-filter" =
      .ok (some filter) :=
  Arguments.json?_eq_ok_iff.mpr
    ⟨filter.print, hWord, Json.parse?_print hExact⟩

/- A filter with an entry and an operator that are hidden. -/
def partlyHidden : Json :=
  .object
    [("score",
        .object
          [("$gt", .number (.integer 1)),
            ("__proto__", .number (.integer 9))]),
      ("__proto__", .number (.integer 5)),
      ("author", .text "pg")]

/- Of the filter's four restrictions, two are left. -/
theorem compile_query_conditions_partlyHidden :
    ∃ members sql reading,
      partlyHidden = .object members ∧
        (Keyed.keys members).Nodup ∧
        ["SELECT * FROM kb WHERE content LIKE 'q' AND " ++
            "score > 1 AND author = 'pg' LIMIT 5;"] =
          [sql] ∧
        readSearch? {} sql = some reading ∧
        List.Forall₂ Filter.IsConditionOf
          (Filter.visible members) reading.conditions ∧
        (Filter.RestrictsFully members reading.conditions ↔
          Filter.IsOpen members) := by
  have hExact : partlyHidden.IsExact := by
    refine ⟨rfl, ⟨rfl, ?_, ?_, trivial⟩, ?_, trivial, trivial⟩
    · exact ⟨1, rfl, by decide⟩
    · exact ⟨9, rfl, by decide⟩
    · exact ⟨5, rfl, by decide⟩
  have hJson :=
    json?_filterArguments hExact (by decide +kernel)
  have hSpec :
      Search.ofArguments (filterArguments partlyHidden) =
        .ok
          { knowledgeBase := "kb"
            text := "q"
            filter :=
              [("score",
                  .compares [("$gt", .number (.integer 1))]),
                ("author", .equals (.text "pg"))]
            limit := .integer 5 } := by
    decide +kernel
  exact compile_query_conditions (d := {}) hJson
    (ofArguments_query hSpec {}) (by decide +kernel)

/-
  A filter is accepted although nothing of it is in the
  statement: its one entry stands under the hidden key.
-/
theorem not_restrictsFully_of_accepted :
    ¬ ∀ (args : Arguments) (settings : Settings)
        (request : Request) (d : Dialect)
        (texts : List String) (json : Json),
      args.json? "metadataFilter" "--metadata-filter" =
          .ok (some json) →
        Request.ofArguments .query args settings =
            .ok request →
          request.compile d = .ok texts →
            ∃ members sql reading,
              json = .object members ∧
                texts = [sql] ∧
                readSearch? d sql = some reading ∧
                Filter.RestrictsFully members
                  reading.conditions := by
  intro hFull
  let filter : Json := .object [("__proto__", .text "x")]
  have hExact : filter.IsExact := ⟨rfl, trivial, trivial⟩
  have hJson :=
    json?_filterArguments hExact (by decide +kernel)
  have hSpec :
      Search.ofArguments (filterArguments filter) =
        .ok
          { knowledgeBase := "kb"
            text := "q"
            filter := []
            limit := .integer 5 } := by
    decide +kernel
  have hCompile :
      (Request.query
        { knowledgeBase := "kb"
          text := "q"
          filter := []
          limit := .integer 5 }).compile {} =
      .ok
        ["SELECT * FROM kb WHERE content LIKE 'q' LIMIT 5;"] := by
    decide +kernel
  rcases hFull _ {} _ {} _ _ hJson
      (ofArguments_query hSpec {}) hCompile with
    ⟨members, sql, reading, hMembers, hSql, hReading,
      hColumns, _⟩
  obtain rfl := Json.object.inj hMembers
  obtain rfl := (List.cons.inj hSql).1
  have hNone :
      (readSearch? {}
          "SELECT * FROM kb WHERE content LIKE 'q' LIMIT 5;"
        ).map SearchReading.conditions =
        some [] := by
    decide +kernel
  rw [hReading] at hNone
  have hEmpty : reading.conditions = [] :=
    Option.some.inj hNone
  rw [hEmpty] at hColumns
  cases hColumns

end Request

end KbConsole
