import KbConsole.Proofs.Arguments
import KbConsole.Proofs.Sql.Ingestion
import KbConsole.Proofs.Sql.Reader
import KbConsole.Request.OfArguments
import KbConsole.Sql.Compile

/-
  Searches lose nothing on their way into a statement: what
  the reader finds in the statement is what was asked for.

  Key definitions include:
    * `Sql.Operand.ofScalar`
    * `Sql.IsReadAs`, `Search.IsReadAs`
    * `Scalar.Agrees`, `Restriction.Agrees`
    * `Search.Agrees`

  The main statements are `Request.readSearch?_compile`, and
  `Request.compile_query_lossless`: searches with the same
  statement agree.
-/

namespace KbConsole

------------------------------------------------------------
-- Conditions
------------------------------------------------------------

namespace Sql

/- What a scalar is read as. -/
def Operand.ofScalar : Scalar → Operand
  | .text value => .text value
  | value => .bare value.label

/- A scalar with a literal: a number has to be finite. -/
def IsWritable : Scalar → Prop
  | .number n => n.isFinite = true
  | _ => True

/- What the restriction of a key is read as. -/
inductive IsReadAs :
    String × Restriction → ConditionReading → Prop
  | equals
      (column : String)
      {value : Scalar}
      (hWritable : IsWritable value) :
      IsReadAs (column, .equals value)
        { column
          comparison := .equal
          operand := .ofScalar value }
  | compares
      (column : String)
      {operator : String}
      {value : Scalar}
      {comparison : Comparison}
      (hOperator :
        Comparison.ofOperator? operator = some comparison)
      (hWritable : IsWritable value) :
      IsReadAs (column, .compares [(operator, value)])
        { column
          comparison
          operand := .ofScalar value }

variable {d : Dialect}

theorem ofScalar_eq_ok
    {value : Scalar}
    {literal : Literal}
    (hLiteral : Literal.ofScalar value = .ok literal) :
    IsWritable value ∧ literal.IsScalar ∧
      literal.operand d = .ofScalar value := by
  cases value with
  | text value =>
      obtain rfl := Except.ok.inj hLiteral
      exact ⟨trivial, trivial, rfl⟩
  | number n =>
      rw [Literal.ofScalar, Literal.ofNumber] at hLiteral
      split at hLiteral
      · rename_i hFinite
        obtain rfl := Except.ok.inj hLiteral
        exact ⟨hFinite, hFinite, rfl⟩
      · cases hLiteral
  | bool value =>
      obtain rfl := Except.ok.inj hLiteral
      exact ⟨trivial, trivial, rfl⟩

/- A restriction is a value, or one known operator. -/
theorem isReadAs_of_comparisonOf
    {key : String}
    {restriction : Restriction}
    {comparison : Comparison}
    {value : Scalar}
    (hComparison :
      comparisonOf key restriction = .ok (comparison, value))
    (hWritable : IsWritable value) :
    IsReadAs (key, restriction)
      { column := key
        comparison
        operand := .ofScalar value } := by
  unfold comparisonOf at hComparison
  split at hComparison
  · obtain ⟨rfl, rfl⟩ :=
      Prod.mk.inj (Except.ok.inj hComparison)
    exact IsReadAs.equals key hWritable
  · split at hComparison
    · cases hComparison
    · rename_i hOperator
      obtain ⟨rfl, rfl⟩ :=
        Prod.mk.inj (Except.ok.inj hComparison)
      exact IsReadAs.compares key hOperator hWritable
  · cases hComparison

theorem isReadAs_of_conditionOf
    {entry : String × Restriction}
    {condition : Condition}
    (hCondition : conditionOf d entry = .ok condition) :
    condition.value.IsScalar ∧
      IsReadAs entry (condition.reading d) := by
  simp only [conditionOf, bind_eq_ok_iff, pure_eq_ok_iff]
    at hCondition
  rcases hCondition with
    ⟨column, hColumn, ⟨comparison, operand⟩, hComparison,
      literal, hLiteral, rfl⟩
  rcases ofScalar_eq_ok (d := d) hLiteral with
    ⟨hWritable, hScalar, hOperand⟩
  constructor
  · exact hScalar
  · have hRead := isReadAs_of_comparisonOf hComparison hWritable
    rw [Condition.reading, Column.name_of_ofText hColumn,
      hOperand]
    exact hRead

/- Each restriction of a filter becomes one condition. -/
theorem isReadAs_of_filterConditions
    {filter : Filter}
    {conditions : List Condition}
    (hConditions :
      filterConditions d filter = .ok conditions) :
    (∀ c ∈ conditions, c.value.IsScalar) ∧
      List.Forall₂ IsReadAs filter
        (conditions.map (Condition.reading d)) := by
  rw [filterConditions, mapM_eq_ok_iff] at hConditions
  induction hConditions with
  | nil => exact ⟨by simp, List.Forall₂.nil⟩
  | cons hFirst _ ih =>
      rcases isReadAs_of_conditionOf hFirst with
        ⟨hScalar, hRead⟩
      constructor
      · intro condition hMember
        rcases List.mem_cons.mp hMember with rfl | hMember
        · exact hScalar
        · exact ih.1 condition hMember
      · exact List.Forall₂.cons hRead ih.2

end Sql

------------------------------------------------------------
-- Searches
------------------------------------------------------------

open Sql

/- What a search is read as: all of it, in its order. -/
structure Search.IsReadAs
    (spec : Search)
    (reading : SearchReading) : Prop where
  knowledgeBase : reading.knowledgeBase = spec.knowledgeBase
  text : reading.text = spec.text
  conditions :
    List.Forall₂ Sql.IsReadAs spec.filter reading.conditions
  limit : reading.limit = spec.limit.text

/- The reader of a search finds all that was asked for. -/
theorem Request.readSearch?_compile
    {d : Dialect}
    {spec : Search}
    {texts : List String}
    (hCompile :
      (Request.query spec).compile d = .ok texts) :
    ∃ sql reading,
      texts = [sql] ∧ readSearch? d sql = some reading ∧
        spec.IsReadAs reading := by
  simp only [compile, statements, searchStatement,
    bind_eq_ok_iff, pure_eq_ok_iff] at hCompile
  rcases hCompile with
    ⟨_, ⟨_, ⟨conditions, hConditions, name, hName, limit,
      hLimit, rfl⟩, rfl⟩, rfl⟩
  rcases isReadAs_of_filterConditions hConditions with
    ⟨hScalar, hRead⟩
  obtain ⟨hFinite, rfl⟩ := finite_eq_ok_iff.mp hLimit
  refine ⟨_, _, rfl,
    readSearch?_text name spec.text hScalar hFinite, ?_⟩
  exact {
    knowledgeBase := Identifier.ofText_eq_ok_iff.mp hName
    text := rfl
    conditions := hRead
    limit := rfl }

------------------------------------------------------------
-- Agreement
------------------------------------------------------------

/-
  Scalars of one type that are written alike: the same text,
  the same truth value, or numbers with the same text.
-/
inductive Scalar.Agrees : Scalar → Scalar → Prop
  | text (value : String) : Agrees (.text value) (.text value)
  | number
      {n m : Number}
      (hText : n.text = m.text) :
      Agrees (.number n) (.number m)
  | bool (value : Bool) : Agrees (.bool value) (.bool value)

/- Restrictions to the same value, or by the same operator. -/
inductive Restriction.Agrees :
    Restriction → Restriction → Prop
  | equals
      {first second : Scalar}
      (hValues : first.Agrees second) :
      Agrees (.equals first) (.equals second)
  | compares
      (operator : String)
      {first second : Scalar}
      (hValues : first.Agrees second) :
      Agrees (.compares [(operator, first)])
        (.compares [(operator, second)])

/- Searches that ask for the same. -/
structure Search.Agrees (first second : Search) : Prop where
  knowledgeBase : first.knowledgeBase = second.knowledgeBase
  text : first.text = second.text
  filter :
    List.Forall₂
      (fun entry other =>
        entry.1 = other.1 ∧ entry.2.Agrees other.2)
      first.filter second.filter
  limit : first.limit.text = second.limit.text

/- A truth value is never written like a number. -/
theorem Number.text_ne_boolLabel
    {n : Number}
    (hFinite : n.isFinite = true)
    (value : Bool) :
    n.text ≠ (Scalar.bool value).label := by
  cases value with
  | true =>
      exact text_ne_of_not_isNumberChar hFinite
        (List.mem_cons_self (a := 't')) rfl
  | false =>
      exact text_ne_of_not_isNumberChar hFinite
        (List.mem_cons_self (a := 'f')) rfl

theorem Scalar.agrees_of_operand
    {first second : Scalar}
    (hFirst : IsWritable first)
    (hSecond : IsWritable second)
    (hOperand : Operand.ofScalar first = .ofScalar second) :
    first.Agrees second := by
  cases first with
  | text value =>
      cases second with
      | text other =>
          obtain rfl : value = other := by
            simpa [Operand.ofScalar] using hOperand
          exact Agrees.text value
      | number m => cases hOperand
      | bool other => cases hOperand
  | number n =>
      cases second with
      | text other => cases hOperand
      | number m =>
          exact Agrees.number (Operand.bare.inj hOperand)
      | bool other =>
          exact absurd (Operand.bare.inj hOperand)
            (Number.text_ne_boolLabel hFirst other)
  | bool value =>
      cases second with
      | text other => cases hOperand
      | number m =>
          exact absurd (Operand.bare.inj hOperand).symm
            (Number.text_ne_boolLabel hSecond value)
      | bool other =>
          obtain rfl : value = other := by
            cases value <;> cases other <;>
              simp_all [Operand.ofScalar, Scalar.label]
          exact Agrees.bool value

namespace Sql

/- The operators with their comparisons. -/
theorem Comparison.ofOperator?_eq_some
    {operator : String}
    {comparison : Comparison}
    (hOperator : ofOperator? operator = some comparison) :
    (operator = "$gt" ∧ comparison = greater) ∨
      (operator = "$gte" ∧ comparison = atLeast) ∨
        (operator = "$lt" ∧ comparison = less) ∨
          (operator = "$lte" ∧ comparison = atMost) := by
  unfold ofOperator? at hOperator
  split at hOperator
  · exact Or.inl ⟨rfl, (Option.some.inj hOperator).symm⟩
  · exact Or.inr (Or.inl
      ⟨rfl, (Option.some.inj hOperator).symm⟩)
  · exact Or.inr (Or.inr (Or.inl
      ⟨rfl, (Option.some.inj hOperator).symm⟩))
  · exact Or.inr (Or.inr (Or.inr
      ⟨rfl, (Option.some.inj hOperator).symm⟩))
  · cases hOperator

/- No operator stands for equality. -/
theorem Comparison.ofOperator?_ne_equal (operator : String) :
    ofOperator? operator ≠ some equal := by
  intro hOperator
  have hCases := ofOperator?_eq_some hOperator
  simp at hCases

/- No two operators stand for one comparison. -/
theorem Comparison.ofOperator?_injective
    {operator other : String}
    {comparison : Comparison}
    (hOperator : ofOperator? operator = some comparison)
    (hOther : ofOperator? other = some comparison) :
    operator = other := by
  rcases ofOperator?_eq_some hOperator with
    ⟨rfl, rfl⟩ | ⟨rfl, rfl⟩ | ⟨rfl, rfl⟩ | ⟨rfl, rfl⟩ <;>
  · have hCases := ofOperator?_eq_some hOther
    simpa [eq_comm] using hCases

theorem IsReadAs.agrees
    {entry other : String × Restriction}
    {reading : ConditionReading}
    (hEntry : IsReadAs entry reading)
    (hOther : IsReadAs other reading) :
    entry.1 = other.1 ∧ entry.2.Agrees other.2 := by
  generalize hReading : reading = reading' at hOther
  cases hEntry with
  | equals column hFirst =>
      cases hOther with
      | equals column' hSecond =>
          rcases ConditionReading.mk.inj hReading with
            ⟨rfl, _, hOperand⟩
          exact ⟨rfl, Restriction.Agrees.equals
            (Scalar.agrees_of_operand hFirst hSecond hOperand)⟩
      | compares column' hOperator hSecond =>
          rcases ConditionReading.mk.inj hReading with
            ⟨rfl, rfl, _⟩
          exact absurd hOperator
            (Comparison.ofOperator?_ne_equal _)
  | compares column hOperator hFirst =>
      cases hOther with
      | equals column' hSecond =>
          rcases ConditionReading.mk.inj hReading with
            ⟨rfl, rfl, _⟩
          exact absurd hOperator
            (Comparison.ofOperator?_ne_equal _)
      | compares column' hOperator' hSecond =>
          rcases ConditionReading.mk.inj hReading with
            ⟨rfl, rfl, hOperand⟩
          obtain rfl :=
            Comparison.ofOperator?_injective hOperator
              hOperator'
          exact ⟨rfl, Restriction.Agrees.compares _
            (Scalar.agrees_of_operand hFirst hSecond hOperand)⟩

/- Entries that are read alike agree, one after another. -/
theorem agrees_of_forall₂
    {filter other : Filter}
    {readings : List ConditionReading}
    (hFilter : List.Forall₂ IsReadAs filter readings)
    (hOther : List.Forall₂ IsReadAs other readings) :
    List.Forall₂
      (fun entry other =>
        entry.1 = other.1 ∧ entry.2.Agrees other.2)
      filter other := by
  induction hFilter generalizing other with
  | nil =>
      rw [List.forall₂_nil_right_iff] at hOther
      subst hOther
      exact List.Forall₂.nil
  | cons hEntry _ ih =>
      rw [List.forall₂_cons_right_iff] at hOther
      rcases hOther with ⟨first, rest, hFirst, hRest, rfl⟩
      exact List.Forall₂.cons (hEntry.agrees hFirst)
        (ih hRest)

end Sql

theorem Search.IsReadAs.agrees
    {first second : Search}
    {reading : SearchReading}
    (hFirst : first.IsReadAs reading)
    (hSecond : second.IsReadAs reading) :
    first.Agrees second where
  knowledgeBase :=
    hFirst.knowledgeBase.symm.trans hSecond.knowledgeBase
  text := hFirst.text.symm.trans hSecond.text
  filter :=
    agrees_of_forall₂ hFirst.conditions hSecond.conditions
  limit := hFirst.limit.symm.trans hSecond.limit

------------------------------------------------------------
-- Arguments
------------------------------------------------------------

/- A search takes its text and its filter as given. -/
theorem Search.ofArguments_eq_ok
    {args : Arguments}
    {spec : Search}
    (hSpec : Search.ofArguments args = .ok spec) :
    args.text "queryText" "query_text" = .ok spec.text ∧
      ∀ json,
        args.json? "metadataFilter" "--metadata-filter" =
            .ok (some json) →
          Filter.ofJson "--metadata-filter" json =
            .ok spec.filter := by
  simp only [Search.ofArguments, bind_eq_ok_iff] at hSpec
  rcases hSpec with ⟨given, hGiven, _, _, _, hText, hSpec⟩
  split at hSpec
  · simp only [bind_eq_ok_iff, pure_eq_ok_iff] at hSpec
    rcases hSpec with ⟨_, _, _, _, rfl⟩
    constructor
    · exact hText
    · intro json hJson
      rw [hJson] at hGiven
      cases hGiven
  · simp only [bind_eq_ok_iff, pure_eq_ok_iff] at hSpec
    rcases hSpec with ⟨filter, hFilter, _, _, rfl⟩
    constructor
    · exact hText
    · intro json hJson
      rw [hJson] at hGiven
      cases hGiven
      exact hFilter

namespace Request

/-
  Searches with the same statement agree, and the text that
  is searched for is the text that was given.
-/
theorem compile_query_lossless :
    (∀ (d : Dialect) (first second : Search)
        (texts : List String),
      (Request.query first).compile d = .ok texts →
        (Request.query second).compile d = .ok texts →
          first.Agrees second) ∧
      ∀ (args : Arguments) (settings : Settings)
        (request : Request),
        Request.ofArguments .query args settings =
            .ok request →
          ∃ spec,
            request = .query spec ∧
              Keyed.get? "queryText" args =
                some (.text spec.text) := by
  constructor
  · intro d first second texts hFirst hSecond
    rcases readSearch?_compile hFirst with
      ⟨sql, reading, rfl, hReading, hReadFirst⟩
    rcases readSearch?_compile hSecond with
      ⟨sql', reading', hTexts, hReading', hReadSecond⟩
    obtain rfl : sql = sql' := by simpa using hTexts
    obtain rfl : reading = reading' :=
      Option.some.inj (hReading.symm.trans hReading')
    exact hReadFirst.agrees hReadSecond
  · intro args settings request hRequest
    simp only [ofArguments, bind_eq_ok_iff, pure_eq_ok_iff]
      at hRequest
    rcases hRequest with ⟨spec, hSpec, rfl⟩
    have hText := (Search.ofArguments_eq_ok hSpec).1
    exact ⟨spec, rfl, Arguments.get?_of_text hText⟩

/-
  A search for a text that looks like a clause, among the
  entries above a limit.
-/
def searchAbove (limit : Number) : Search where
  knowledgeBase := "kb"
  text := "a' AND b = 'c\t"
  filter := [("limit", .compares [("$gt", .number limit)])]
  limit := .integer 5

/-
  Minus zero is written as zero: searches that differ in the
  sign of a zero have one statement, and agree. The margins
  of a text are kept.
-/
theorem compile_query_lossless_minusZero :
    (query (searchAbove .minusZero)).compile {} =
        (query (searchAbove (.integer 0))).compile {} ∧
      (searchAbove .minusZero).Agrees
        (searchAbove (.integer 0)) ∧
      ∃ spec,
        query
            { knowledgeBase := "kb"
              text := " a\t"
              filter := []
              limit := .integer 5 } =
          .query spec ∧
        Keyed.get? "queryText"
            [("kbName", Argument.text "kb"),
              ("queryText", .text " a\t")] =
          some (.text spec.text) := by
  have hFirst :
      (query (searchAbove .minusZero)).compile {} =
        .ok
          ["SELECT * FROM kb WHERE content LIKE " ++
            "'a'' AND b = ''c\t' AND \x60limit\x60 > 0 " ++
            "LIMIT 5;"] := by
    decide +kernel
  have hSecond :
      (query (searchAbove (.integer 0))).compile {} =
        .ok
          ["SELECT * FROM kb WHERE content LIKE " ++
            "'a'' AND b = ''c\t' AND \x60limit\x60 > 0 " ++
            "LIMIT 5;"] := by
    decide +kernel
  exact
    ⟨hFirst.trans hSecond.symm,
      compile_query_lossless.1 {} _ _ _ hFirst hSecond,
      compile_query_lossless.2
        [("kbName", .text "kb"), ("queryText", .text " a\t")]
        {} _ rfl⟩

end Request

end KbConsole
