import KbConsole.Proofs.Sql.Restriction

/-
  The language of metadata filters: which JSON values are
  accepted, what they are written as, and which problem is
  reported of the others.

  A filter is checked twice, for its shape and then member
  by member. So a wrong shape anywhere is reported before
  anything else, and otherwise the first member at fault.

  Key definitions include:
    * `Filter.compile`
    * `Filter.HasShape`, `Filter.IsAccepted`
    * `Filter.IsWrittenAs`
    * `Filter.IsFault`

  The main statement is `Filter.compile_contract`. It rests
  on `Filter.isCompiled_filterConditions`, which follows the
  members of a filter.
-/

namespace KbConsole

open Sql

namespace Filter

/- The conditions that a JSON value states, as texts. -/
def compile
    (flag : String)
    (d : Dialect)
    (value : Json) : Except Problem (List String) := do
  let filter ← ofJson flag value
  let conditions ← filterConditions d filter
  return conditions.map (Condition.text d)

------------------------------------------------------------
-- The Language
------------------------------------------------------------

/- A value to compare with: no list, no object, no null. -/
def IsScalar (value : Json) : Prop :=
  ∃ scalar, Scalar.ofJson? value = some scalar

/- An object of values, or of objects of values. -/
def HasShape (value : Json) : Prop :=
  ∃ members,
    value = .object members ∧
      ∀ member ∈ members,
        IsScalar member.2 ∨
          ∃ operators,
            member.2 = .object operators ∧
              ∀ operator ∈ operators, IsScalar operator.2

/- The operators, with the symbols that they are written as. -/
def symbols : Keyed String :=
  [("$gt", ">"), ("$gte", ">="), ("$lt", "<"), ("$lte", "<=")]

/- A text, a truth value or a finite number. -/
def IsComparable (value : Json) : Prop :=
  ∃ scalar,
    Scalar.ofJson? value = some scalar ∧ IsWritable scalar

/- A member that becomes a condition. -/
inductive IsAccepted : String × Json → Prop
  | equals
      {key : String}
      {value : Json}
      (hKey : Identifier.isSafe key = true)
      (hValue : IsComparable value) :
      IsAccepted (key, value)
  | compares
      {key operator : String}
      {operand : Json}
      (hKey : Identifier.isSafe key = true)
      (hOperator : operator ∈ Keyed.keys symbols)
      (hOperand : IsComparable operand) :
      IsAccepted (key, .object [(operator, operand)])

/- A column, in backquotes if the dialect reserves its name. -/
def columnText (d : Dialect) (key : String) : String :=
  if d.reservedWords.contains (Text.lower key) then
    "\x60" ++ key ++ "\x60"
  else
    key

/- A scalar as it stands in a condition. -/
def scalarText (d : Dialect) : Scalar → String
  | .text value => quoted d value
  | scalar => scalar.label

/- The condition that a member is written as. -/
inductive IsWrittenAs (d : Dialect) :
    String × Json → String → Prop
  | equals
      (key : String)
      {value : Json}
      {scalar : Scalar}
      (hValue : Scalar.ofJson? value = some scalar) :
      IsWrittenAs d (key, value)
        (columnText d key ++ " = " ++ scalarText d scalar)
  | compares
      (key : String)
      {operator symbol : String}
      {operand : Json}
      {scalar : Scalar}
      (hSymbol : (operator, symbol) ∈ symbols)
      (hOperand : Scalar.ofJson? operand = some scalar) :
      IsWrittenAs d (key, .object [(operator, operand)])
        (columnText d key ++ " " ++ symbol ++ " " ++
          scalarText d scalar)

/-
  What is wrong with a member, of which kind it is, and the
  problem that is reported: first its key is looked at, then
  its operators, then its number.
-/
inductive IsFault :
    String × Json → ErrorKind → Problem → Prop
  | key
      {key : String}
      (value : Json)
      (hKey : Identifier.isSafe key = false) :
      IsFault (key, value) .invalidIdentifier
        (.unsafeName "metadata filter key" key)
  | count
      {key : String}
      {operators : List (String × Json)}
      (hKey : Identifier.isSafe key = true)
      (hCount : operators.length ≠ 1) :
      IsFault (key, .object operators) .unsupportedOperator
        (.operatorCount key operators.length)
  | operator
      {key operator : String}
      (operand : Json)
      (hKey : Identifier.isSafe key = true)
      (hOperator : operator ∉ Keyed.keys symbols) :
      IsFault (key, .object [(operator, operand)])
        .unsupportedOperator (.unknownOperator key operator)
  | value
      {key : String}
      {n : Number}
      (hKey : Identifier.isSafe key = true)
      (hInfinite : n.isFinite = false) :
      IsFault (key, .number n) .invalidValue (.notFinite n)
  | operand
      {key operator : String}
      {n : Number}
      (hKey : Identifier.isSafe key = true)
      (hOperator : operator ∈ Keyed.keys symbols)
      (hInfinite : n.isFinite = false) :
      IsFault (key, .object [(operator, .number n)])
        .invalidValue (.notFinite n)

------------------------------------------------------------
-- Shapes
------------------------------------------------------------

theorem not_isComparable_of_infinite
    {n : Number}
    (hInfinite : n.isFinite = false) :
    ¬ IsComparable (.number n) := by
  rintro ⟨scalar, hScalar, hFinite⟩
  obtain rfl := Option.some.inj hScalar
  exact Bool.false_ne_true (hInfinite.symm.trans hFinite)

theorem not_isComparable_object
    (members : List (String × Json)) :
    ¬ IsComparable (.object members) := by
  rintro ⟨scalar, hScalar, -⟩
  cases hScalar

theorem IsComparable.isScalar
    {value : Json}
    (hValue : IsComparable value) :
    IsScalar value := by
  rcases hValue with ⟨scalar, hScalar, -⟩
  exact ⟨scalar, hScalar⟩

/- What is accepted has the right shape. -/
theorem hasShape_of_isAccepted
    {members : List (String × Json)}
    (hMembers : ∀ member ∈ members, IsAccepted member) :
    HasShape (.object members) := by
  refine ⟨members, rfl, ?_⟩
  intro member hMember
  cases hMembers member hMember with
  | equals hKey hValue => exact Or.inl hValue.isScalar
  | compares hKey hOperator hOperand =>
      refine Or.inr ⟨_, rfl, ?_⟩
      rw [List.forall_mem_singleton]
      exact hOperand.isScalar

/- A member at fault is not accepted. -/
theorem IsFault.not_isAccepted
    {member : String × Json}
    {kind : ErrorKind}
    {problem : Problem}
    (hFault : IsFault member kind problem) :
    ¬ IsAccepted member := by
  intro hAccepted
  cases hFault with
  | key value hKey =>
      cases hAccepted <;> simp_all
  | count hKey hCount =>
      cases hAccepted with
      | equals _ hValue =>
          exact not_isComparable_object _ hValue
      | compares _ _ _ => exact hCount rfl
  | operator operand hKey hOperator =>
      cases hAccepted with
      | equals _ hValue =>
          exact not_isComparable_object _ hValue
      | compares _ hKnown _ => exact hOperator hKnown
  | value hKey hInfinite =>
      cases hAccepted with
      | equals _ hValue =>
          exact not_isComparable_of_infinite hInfinite hValue
  | operand hKey hOperator hInfinite =>
      cases hAccepted with
      | equals _ hValue =>
          exact not_isComparable_object _ hValue
      | compares _ _ hOperand =>
          exact not_isComparable_of_infinite hInfinite hOperand

theorem exists_operands_iff
    (flag key : String)
    {members : List (String × Json)} :
    (∃ operators,
        operands flag key members = .ok operators) ↔
      ∀ operator ∈ members, IsScalar operator.2 := by
  induction members with
  | nil => simp [operands]
  | cons member members ih =>
      rw [List.forall_mem_cons, ← ih, operands, IsScalar]
      cases Scalar.ofJson? member.2 with
      | none => simp
      | some value =>
          simp only [bind_eq_ok_iff, pure_eq_ok_iff]
          constructor
          · rintro ⟨_, others, hOthers, -⟩
            exact ⟨⟨value, rfl⟩, others, hOthers⟩
          · rintro ⟨-, others, hOthers⟩
            exact ⟨_, others, hOthers, rfl⟩

theorem exists_restriction_iff
    (flag key : String)
    {value : Json} :
    (∃ stated, restriction flag key value = .ok stated) ↔
      IsScalar value ∨
        ∃ operators,
          value = .object operators ∧
            ∀ operator ∈ operators, IsScalar operator.2 := by
  unfold restriction
  split
  · rename_i scalar hScalar
    simp [IsScalar, hScalar]
  · rename_i members hScalar
    rw [IsScalar, hScalar]
    simp only [bind_eq_ok_iff, pure_eq_ok_iff, reduceCtorEq,
      exists_false, false_or, Json.object.injEq, exists_eq_left']
    rw [← exists_operands_iff flag key]
    constructor
    · rintro ⟨_, operators, hOperators, -⟩
      exact ⟨operators, hOperators⟩
    · rintro ⟨operators, hOperators⟩
      exact ⟨_, operators, hOperators, rfl⟩
  · rename_i hOther hScalar
    rw [IsScalar, hScalar]
    simp only [reduceCtorEq, exists_false, false_or, false_iff]
    rintro ⟨operators, rfl, -⟩
    exact hOther operators rfl

theorem exists_restrictions_iff
    (flag : String)
    {members : List (String × Json)} :
    (∃ filter, restrictions flag members = .ok filter) ↔
      ∀ member ∈ members,
        IsScalar member.2 ∨
          ∃ operators,
            member.2 = .object operators ∧
              ∀ operator ∈ operators, IsScalar operator.2 := by
  induction members with
  | nil => simp [restrictions]
  | cons member members ih =>
      rw [List.forall_mem_cons, ← ih, restrictions,
        ← exists_restriction_iff flag member.1]
      simp only [bind_eq_ok_iff, pure_eq_ok_iff]
      constructor
      · rintro ⟨_, stated, hStated, others, hOthers, -⟩
        exact ⟨⟨stated, hStated⟩, others, hOthers⟩
      · rintro ⟨⟨stated, hStated⟩, others, hOthers⟩
        exact ⟨_, stated, hStated, others, hOthers, rfl⟩

/- A filter is read from exactly the values of its shape. -/
theorem exists_ofJson_iff
    (flag : String)
    {value : Json} :
    (∃ filter, ofJson flag value = .ok filter) ↔
      HasShape value := by
  unfold ofJson HasShape
  split
  · rename_i members
    simp only [bind_eq_ok_iff, pure_eq_ok_iff,
      Json.object.injEq, exists_eq_left']
    rw [← exists_restrictions_iff flag]
    constructor
    · rintro ⟨_, entries, hEntries, -⟩
      exact ⟨entries, hEntries⟩
    · rintro ⟨entries, hEntries⟩
      exact ⟨_, entries, hEntries, rfl⟩
  · rename_i hOther
    simp only [reduceCtorEq, exists_false, false_iff]
    rintro ⟨members, rfl, -⟩
    exact hOther members rfl

------------------------------------------------------------
-- Wrong Shapes
------------------------------------------------------------

/- The problem of a wrong shape concerns the whole option. -/
def IsShapeProblem (flag : String) (problem : Problem) : Prop :=
  problem.kind = .invalidJson ∧ problem.field? = some flag

theorem failsWith_operands
    (flag key : String)
    (members : List (String × Json)) :
    FailsWith (IsShapeProblem flag)
      (operands flag key members) := by
  induction members with
  | nil => exact FailsWith.ok []
  | cons member members ih =>
      unfold operands
      split
      · exact FailsWith.error ⟨rfl, rfl⟩
      · exact ih.bind_pure _

theorem failsWith_restriction
    (flag key : String)
    (value : Json) :
    FailsWith (IsShapeProblem flag)
      (restriction flag key value) := by
  unfold restriction
  split
  · exact FailsWith.ok _
  · exact (failsWith_operands flag key _).bind_pure _
  · exact FailsWith.error ⟨rfl, rfl⟩

theorem failsWith_restrictions
    (flag : String)
    (members : List (String × Json)) :
    FailsWith (IsShapeProblem flag)
      (restrictions flag members) := by
  induction members with
  | nil => exact FailsWith.ok []
  | cons member members ih =>
      unfold restrictions
      apply (failsWith_restriction flag member.1 member.2).bind
      intro first _
      exact ih.bind_pure _

theorem failsWith_ofJson
    (flag : String)
    (value : Json) :
    FailsWith (IsShapeProblem flag) (ofJson flag value) := by
  unfold ofJson
  split
  · exact (failsWith_restrictions flag _).bind_pure _
  · exact FailsWith.error ⟨rfl, rfl⟩

------------------------------------------------------------
-- Single Members
------------------------------------------------------------

/- What becomes of a member of the right shape. -/
inductive IsJudged (d : Dialect) (member : String × Json) :
    Except Problem String → Prop
  | accepted
      {text : String}
      (hAccepted : IsAccepted member)
      (hText : IsWrittenAs d member text) :
      IsJudged d member (.ok text)
  | refused
      {problem : Problem}
      (hFault : IsFault member problem.kind problem) :
      IsJudged d member (.error problem)

theorem text_of_ofText
    {d : Dialect}
    {field key : String}
    {column : Column}
    (hColumn : Column.ofText d field key = .ok column) :
    column.text = columnText d key := by
  rcases Column.ofText_eq_ok_iff.mp hColumn with
    ⟨rfl, hQuoted⟩
  rw [Column.text, hQuoted, columnText]

theorem ofText_of_not_isSafe
    {d : Dialect}
    {field key : String}
    (hKey : Identifier.isSafe key = false) :
    Column.ofText d field key =
      .error (.unsafeName field key) := by
  have hName : Identifier.ofText? key = none := by
    rw [Identifier.ofText?, dif_neg (by simp [hKey])]
  rw [Column.ofText, Identifier.ofText, hName]
  rfl

/- A scalar is written, or it is an infinite number. -/
theorem ofScalar_cases (d : Dialect) (scalar : Scalar) :
    (IsWritable scalar ∧
        ∃ literal,
          Literal.ofScalar scalar = .ok literal ∧
            literal.print d = scalarText d scalar) ∨
      ∃ n,
        scalar = .number n ∧
          n.isFinite = false ∧
          Literal.ofScalar scalar = .error (.notFinite n) := by
  cases scalar with
  | text value => exact Or.inl ⟨trivial, _, rfl, rfl⟩
  | bool value => exact Or.inl ⟨trivial, _, rfl, rfl⟩
  | number n =>
      cases hFinite : n.isFinite with
      | true =>
          refine Or.inl ⟨hFinite, .number n, ?_, rfl⟩
          rw [Literal.ofScalar, Literal.ofNumber, if_pos hFinite]
      | false =>
          refine Or.inr ⟨n, rfl, hFinite, ?_⟩
          rw [Literal.ofScalar, Literal.ofNumber, hFinite,
            if_neg Bool.false_ne_true]

theorem comparisonOf_of_length_ne
    {key : String}
    {operators : Keyed Scalar}
    (hCount : operators.length ≠ 1) :
    comparisonOf key (.compares operators) =
      .error (.operatorCount key operators.length) := by
  match operators with
  | [] => rfl
  | [_] => exact absurd rfl hCount
  | _ :: _ :: _ => rfl

theorem mem_symbols_of_ofOperator?
    {operator : String}
    {comparison : Comparison}
    (hOperator :
      Comparison.ofOperator? operator = some comparison) :
    (operator, comparison.symbol) ∈ symbols := by
  rcases Comparison.ofOperator?_eq_some hOperator with
    ⟨rfl, rfl⟩ | ⟨rfl, rfl⟩ | ⟨rfl, rfl⟩ | ⟨rfl, rfl⟩ <;>
    decide

theorem notMem_symbols_of_ofOperator?
    {operator : String}
    (hOperator : Comparison.ofOperator? operator = none) :
    operator ∉ Keyed.keys symbols := by
  intro hKnown
  have hCases :
      operator = "$gt" ∨ operator = "$gte" ∨
        operator = "$lt" ∨ operator = "$lte" := by
    simpa [Keyed.keys, symbols] using hKnown
  rcases hCases with rfl | rfl | rfl | rfl <;>
    cases hOperator

/- Only a number is a numeric scalar. -/
theorem eq_number_of_ofJson?
    {value : Json}
    {n : Number}
    (hScalar : Scalar.ofJson? value = some (.number n)) :
    value = .number n := by
  cases value with
  | number m =>
      obtain rfl := Scalar.number.inj (Option.some.inj hScalar)
      rfl
  | _ => cases hScalar

section Members

variable {d : Dialect}
variable {key : String}

theorem conditionOf_of_not_isSafe
    (hKey : Identifier.isSafe key = false)
    (stated : Restriction) :
    (conditionOf d (key, stated)).map (Condition.text d) =
      .error (.unsafeName "metadata filter key" key) := by
  rw [conditionOf, ofText_of_not_isSafe hKey]
  rfl

variable (hKey : Identifier.isSafe key = true)

include hKey

theorem conditionOf_of_error
    {stated : Restriction}
    {problem : Problem}
    (hStated : comparisonOf key stated = .error problem) :
    (conditionOf d (key, stated)).map (Condition.text d) =
      .error problem := by
  rcases Column.exists_ofText_iff.mpr hKey with
    ⟨column, hColumn⟩
  rw [conditionOf, hColumn, hStated]
  rfl

theorem conditionOf_of_ok
    {stated : Restriction}
    {comparison : Comparison}
    {scalar : Scalar}
    (hStated :
      comparisonOf key stated = .ok (comparison, scalar)) :
    (conditionOf d (key, stated)).map (Condition.text d) =
      (Literal.ofScalar scalar).map fun literal =>
        columnText d key ++ " " ++ comparison.symbol ++ " " ++
          literal.print d := by
  rcases Column.exists_ofText_iff.mpr hKey with
    ⟨column, hColumn⟩
  have hText := text_of_ofText hColumn
  rw [conditionOf, hColumn, hStated, ok_bind, ok_bind]
  simp only
  rw [bind_pure_eq_map, map_map]
  simp only [Condition.text, hText]

/- Of a value only the number may be wrong. -/
theorem isJudged_equals
    {value : Json}
    {scalar : Scalar}
    (hScalar : Scalar.ofJson? value = some scalar) :
    IsJudged d (key, value)
      ((conditionOf d (key, .equals scalar)).map
        (Condition.text d)) := by
  have hSymbol :
      columnText d key ++ " " ++ Comparison.equal.symbol ++
          " " =
        columnText d key ++ " = " := by
    simp only [Comparison.symbol, String.append_assoc]
    rfl
  rw [conditionOf_of_ok hKey rfl]
  rcases ofScalar_cases d scalar with
    ⟨hWritable, literal, hLiteral, hPrint⟩ |
      ⟨n, rfl, hInfinite, hLiteral⟩
  · rw [hLiteral, ok_map, hPrint, hSymbol]
    exact IsJudged.accepted
      (IsAccepted.equals hKey ⟨scalar, hScalar, hWritable⟩)
      (IsWrittenAs.equals key hScalar)
  · obtain rfl := eq_number_of_ofJson? hScalar
    rw [hLiteral]
    exact IsJudged.refused (IsFault.value hKey hInfinite)

/- Of one operator its name is looked at first. -/
theorem isJudged_operator
    {operator : String}
    {operand : Json}
    {scalar : Scalar}
    (hScalar : Scalar.ofJson? operand = some scalar) :
    IsJudged d (key, .object [(operator, operand)])
      ((conditionOf d
        (key, .compares [(operator, scalar)])).map
          (Condition.text d)) := by
  cases hOperator : Comparison.ofOperator? operator with
  | none =>
      have hStated :
          comparisonOf key (.compares [(operator, scalar)]) =
            .error (.unknownOperator key operator) := by
        simp only [comparisonOf, hOperator]
      rw [conditionOf_of_error hKey hStated]
      exact IsJudged.refused
        (IsFault.operator operand hKey
          (notMem_symbols_of_ofOperator? hOperator))
  | some comparison =>
      have hStated :
          comparisonOf key (.compares [(operator, scalar)]) =
            .ok (comparison, scalar) := by
        simp only [comparisonOf, hOperator]
      have hSymbol := mem_symbols_of_ofOperator? hOperator
      have hKnown : operator ∈ Keyed.keys symbols :=
        List.mem_map_of_mem hSymbol
      rw [conditionOf_of_ok hKey hStated]
      rcases ofScalar_cases d scalar with
        ⟨hWritable, literal, hLiteral, hPrint⟩ |
          ⟨n, rfl, hInfinite, hLiteral⟩
      · rw [hLiteral, ok_map, hPrint]
        exact IsJudged.accepted
          (IsAccepted.compares hKey hKnown
            ⟨scalar, hScalar, hWritable⟩)
          (IsWrittenAs.compares key hSymbol hScalar)
      · obtain rfl := eq_number_of_ofJson? hScalar
        rw [hLiteral]
        exact IsJudged.refused
          (IsFault.operand hKey hKnown hInfinite)

/- No or several operators are too few or too many. -/
theorem isJudged_compares
    {members : List (String × Json)}
    {operators : Keyed Scalar}
    (hOperators :
      List.Forall₂
        (fun member operator =>
          member.1 = operator.1 ∧
            Scalar.ofJson? member.2 = some operator.2)
        members operators) :
    IsJudged d (key, .object members)
      ((conditionOf d (key, .compares operators)).map
        (Condition.text d)) := by
  have hLength := hOperators.length_eq
  by_cases hCount : operators.length = 1
  · rcases List.length_eq_one_iff.mp hCount with
      ⟨⟨operator, scalar⟩, rfl⟩
    rw [List.forall₂_cons_right_iff] at hOperators
    rcases hOperators with
      ⟨⟨name, operand⟩, rest, ⟨hName, hScalar⟩, hRest, rfl⟩
    rw [List.forall₂_nil_right_iff] at hRest
    obtain rfl : name = operator := hName
    rw [hRest]
    exact isJudged_operator hKey hScalar
  · rw [conditionOf_of_error hKey
      (comparisonOf_of_length_ne hCount), ← hLength]
    exact IsJudged.refused
      (IsFault.count hKey (hLength ▸ hCount))

end Members

/- Each member is accepted and written, or it is at fault. -/
theorem isJudged_conditionOf
    (d : Dialect)
    {member : String × Json}
    {entry : String × Restriction}
    (hStated : IsStatedBy member entry)
    (hOpen :
      ∀ operators, member.2 = .object operators →
        hiddenKey ∉ Keyed.keys operators) :
    IsJudged d member
      ((conditionOf d entry).map (Condition.text d)) := by
  have hKeys : member.1 = entry.1 := by
    cases hStated <;> rfl
  cases hKey : Identifier.isSafe entry.1 with
  | false =>
      rcases entry with ⟨key, stated⟩
      rcases member with ⟨name, value⟩
      obtain rfl : name = key := hKeys
      rw [conditionOf_of_not_isSafe hKey]
      exact IsJudged.refused (IsFault.key value hKey)
  | true =>
      cases hStated with
      | equals key hScalar => exact isJudged_equals hKey hScalar
      | @compares key members operators hOperators =>
          have hShown :=
            forall₂_visible (fun _ _ h => h.1) hOperators
          rw [visible_eq_self_iff.mpr (hOpen members rfl)]
            at hShown
          exact isJudged_compares hKey hShown

------------------------------------------------------------
-- All Members
------------------------------------------------------------

/- What becomes of the members of a filter. -/
inductive IsCompiled (d : Dialect) :
    List (String × Json) → Except Problem (List String) → Prop
  | accepted
      {members : List (String × Json)}
      {texts : List String}
      (hMembers : ∀ member ∈ members, IsAccepted member)
      (hTexts : List.Forall₂ (IsWrittenAs d) members texts) :
      IsCompiled d members (.ok texts)
  | refused
      {before : List (String × Json)}
      {member : String × Json}
      {problem : Problem}
      (hBefore : ∀ earlier ∈ before, IsAccepted earlier)
      (hFault : IsFault member problem.kind problem)
      (after : List (String × Json)) :
      IsCompiled d (before ++ member :: after)
        (.error problem)

/- An accepted member leaves the others to be judged. -/
theorem IsCompiled.cons
    {d : Dialect}
    {member : String × Json}
    {members : List (String × Json)}
    {text : String}
    {result : Except Problem (List String)}
    (hMembers : IsCompiled d members result)
    (hAccepted : IsAccepted member)
    (hText : IsWrittenAs d member text) :
    IsCompiled d (member :: members)
      (result.map (text :: ·)) := by
  cases hMembers with
  | accepted hMembers hTexts =>
      exact IsCompiled.accepted
        (List.forall_mem_cons.mpr ⟨hAccepted, hMembers⟩)
        (List.Forall₂.cons hText hTexts)
  | refused hBefore hFault after =>
      rw [← List.cons_append]
      exact IsCompiled.refused
        (List.forall_mem_cons.mpr ⟨hAccepted, hBefore⟩)
        hFault after

/- The members are judged one after another. -/
theorem isCompiled_filterConditions
    (d : Dialect)
    {members : List (String × Json)}
    {filter : Filter}
    (hStated : List.Forall₂ IsStatedBy members filter)
    (hOpen :
      ∀ key operators,
        (key, Json.object operators) ∈ members →
          hiddenKey ∉ Keyed.keys operators) :
    IsCompiled d members
      ((filterConditions d filter).map
        (List.map (Condition.text d))) := by
  induction hStated with
  | nil =>
      exact IsCompiled.accepted (by simp) List.Forall₂.nil
  | @cons member entry members filter hMember _ ih =>
      have hFirst := isJudged_conditionOf d hMember
        (fun operators hObject =>
          hOpen member.1 operators
            (by rw [← hObject]; exact List.mem_cons_self))
      have hRest := ih fun key operators hLater =>
        hOpen key operators (List.mem_cons_of_mem _ hLater)
      rw [filterConditions] at hRest ⊢
      rw [List.mapM_cons]
      cases hCondition : conditionOf d entry with
      | error problem =>
          rw [hCondition] at hFirst
          cases hFirst with
          | refused hFault =>
              have hNone :
                  ∀ earlier ∈ ([] : List (String × Json)),
                    IsAccepted earlier := by
                simp
              exact IsCompiled.refused hNone hFault members
      | ok condition =>
          rw [hCondition] at hFirst
          cases hFirst with
          | accepted hAccepted hText =>
              rw [ok_bind, bind_pure_eq_map, map_map]
              have hCompiled := hRest.cons hAccepted hText
              rw [map_map] at hCompiled
              exact hCompiled

theorem IsCompiled.exists_ok_iff
    {d : Dialect}
    {members : List (String × Json)}
    {result : Except Problem (List String)}
    (hResult : IsCompiled d members result) :
    (∃ texts, result = .ok texts) ↔
      ∀ member ∈ members, IsAccepted member := by
  cases hResult with
  | accepted hMembers hTexts =>
      exact ⟨fun _ => hMembers, fun _ => ⟨_, rfl⟩⟩
  | @refused before member problem hBefore hFault after =>
      constructor
      · rintro ⟨texts, hTexts⟩
        cases hTexts
      · intro hMembers
        have hMember : member ∈ before ++ member :: after := by
          simp
        exact absurd (hMembers member hMember)
          hFault.not_isAccepted

theorem IsCompiled.texts
    {d : Dialect}
    {members : List (String × Json)}
    {texts : List String}
    (hResult : IsCompiled d members (.ok texts)) :
    List.Forall₂ (IsWrittenAs d) members texts := by
  cases hResult with
  | accepted hMembers hTexts => exact hTexts

theorem IsCompiled.first_fault
    {d : Dialect}
    {members : List (String × Json)}
    {problem : Problem}
    (hResult : IsCompiled d members (.error problem)) :
    ∃ before member after,
      members = before ++ member :: after ∧
        (∀ earlier ∈ before, IsAccepted earlier) ∧
        IsFault member problem.kind problem := by
  cases hResult with
  | refused hBefore hFault after =>
      exact ⟨_, _, after, rfl, hBefore, hFault⟩

/- A filter of the right shape is judged by its members. -/
theorem isCompiled_compile
    (flag : String)
    (d : Dialect)
    {members : List (String × Json)}
    (hOpen : IsOpen members)
    (hShape : HasShape (.object members)) :
    IsCompiled d members
      (compile flag d (.object members)) := by
  rcases (exists_ofJson_iff flag).mpr hShape with ⟨filter, hFilter⟩
  rcases ofJson_eq_ok hFilter with ⟨_, hObject, hStated⟩
  obtain rfl := Json.object.inj hObject
  rw [visible_eq_self_iff.mpr hOpen.1] at hStated
  rw [compile, hFilter, ok_bind, bind_pure_eq_map]
  exact isCompiled_filterConditions d hStated hOpen.2

/- A value of another shape is refused as such. -/
theorem compile_of_not_hasShape
    (flag : String)
    (d : Dialect)
    {value : Json}
    (hShape : ¬ HasShape value) :
    ∃ problem,
      compile flag d value = .error problem ∧
        IsShapeProblem flag problem := by
  have hFails := failsWith_ofJson flag value
  cases hFilter : ofJson flag value with
  | ok filter =>
      exact absurd
        ((exists_ofJson_iff flag).mp ⟨filter, hFilter⟩) hShape
  | error problem =>
      refine ⟨problem, ?_, hFails.of_eq_error problem hFilter⟩
      rw [compile, hFilter]
      rfl

/-
  A filter without hidden keys compiles exactly when it is
  an object of accepted members. Then each member is written
  as one condition, in the order of the members. Otherwise a
  wrong shape is reported, wherever it is; if there is none,
  it is the first member at fault that is reported. In text
  that is parsed, the order of the members is that of their
  keys.
-/
theorem compile_contract
    {value : Json}
    (hOpen :
      ∀ members, value = .object members → IsOpen members)
    (flag : String)
    (d : Dialect) :
    ((∃ texts, compile flag d value = .ok texts) ↔
      ∃ members,
        value = .object members ∧
          ∀ member ∈ members, IsAccepted member) ∧
    (∀ texts, compile flag d value = .ok texts →
      ∃ members,
        value = .object members ∧
          List.Forall₂ (IsWrittenAs d) members texts) ∧
    (∀ problem, compile flag d value = .error problem →
      (¬ HasShape value →
        problem.kind = .invalidJson ∧
          problem.field? = some flag) ∧
      (HasShape value →
        ∃ before member after,
          value = .object (before ++ member :: after) ∧
            (∀ earlier ∈ before, IsAccepted earlier) ∧
            IsFault member problem.kind problem)) ∧
    ∀ text members,
      Json.parse? text = some value →
        value = .object members →
          (Keyed.keys members).Nodup ∧
            (Keyed.keys members).Pairwise Keyed.Precedes := by
  have hOrder
      (text : String)
      (members : List (String × Json))
      (hParse : Json.parse? text = some value)
      (hObject : value = .object members) :
      (Keyed.keys members).Nodup ∧
        (Keyed.keys members).Pairwise Keyed.Precedes := by
    rw [hObject] at hParse
    exact ⟨Json.nodup_keys_of_parse? hParse,
      Json.pairwise_precedes_of_parse? hParse⟩
  by_cases hShape : HasShape value
  · rcases hShape with ⟨members, rfl, hMembers⟩
    have hShape : HasShape (.object members) :=
      ⟨members, rfl, hMembers⟩
    have hCompiled :=
      isCompiled_compile flag d (hOpen members rfl) hShape
    refine ⟨?_, ?_, ?_, hOrder⟩
    · simp only [Json.object.injEq, exists_eq_left']
      exact hCompiled.exists_ok_iff
    · intro texts hTexts
      rw [hTexts] at hCompiled
      exact ⟨members, rfl, hCompiled.texts⟩
    · intro problem hProblem
      rw [hProblem] at hCompiled
      refine ⟨fun hWrong => absurd hShape hWrong, fun _ => ?_⟩
      rcases hCompiled.first_fault with
        ⟨before, member, after, rfl, hFirst⟩
      exact ⟨before, member, after, rfl, hFirst⟩
  · rcases compile_of_not_hasShape flag d hShape with
      ⟨problem, hProblem, hKind⟩
    rw [hProblem]
    refine ⟨?_, ?_, ?_, hOrder⟩
    · constructor
      · rintro ⟨texts, hTexts⟩
        cases hTexts
      · rintro ⟨members, rfl, hMembers⟩
        exact absurd (hasShape_of_isAccepted hMembers) hShape
    · rintro texts hTexts
      cases hTexts
    · rintro other hOther
      obtain rfl := Except.error.inj hOther
      exact ⟨fun _ => hKind, fun hRight => absurd hRight hShape⟩

/-
  A wrong shape is reported before a wrong key, and a wrong
  key before the wrong count of operators that follows it. A
  text is quoted, and a truth value is not.
-/
theorem compile_contract_unsafeKey :
    let score : String × Json :=
      ("score", .object [("$gte", .number (.integer 50))])
    let shapeless : Json :=
      .object [score, ("no name", .null), ("time", .object [])]
    let shaped : Json :=
      .object
        [score, ("no name", .text "x"), ("time", .object [])]
    let problem : Problem :=
      .unsafeName "metadata filter key" "no name"
    let named : List (String × Json) :=
      [score, ("time", .text "6 o'clock"), ("open", .bool true)]
    let texts : List String :=
      ["score >= 50", "\x60time\x60 = '6 o''clock'",
        "open = true"]
    (∀ members, shaped = .object members → IsOpen members) ∧
      compile "--metadata-filter" {} shapeless =
        .error (.filterValue "--metadata-filter" "no name") ∧
      compile "--metadata-filter" {} shaped =
        .error problem ∧
      (∃ before member after,
        shaped = .object (before ++ member :: after) ∧
          (∀ earlier ∈ before, IsAccepted earlier) ∧
          IsFault member .invalidIdentifier problem) ∧
      compile "--metadata-filter" {} (.object named) =
        .ok texts ∧
      List.Forall₂ (IsWrittenAs {}) named texts := by
  intro score shapeless shaped problem named texts
  have hShaped :
      ∀ members, shaped = .object members → IsOpen members := by
    intro members hMembers
    obtain rfl := Json.object.inj hMembers
    refine ⟨by decide, ?_⟩
    intro key operators hMember
    have hCases :
        key = "score" ∧
            operators = [("$gte", .number (.integer 50))] ∨
          key = "time" ∧ operators = [] := by
      simpa [score] using hMember
    rcases hCases with ⟨-, rfl⟩ | ⟨-, rfl⟩ <;> decide
  have hNamed :
      ∀ members, Json.object named = .object members →
        IsOpen members := by
    intro members hMembers
    obtain rfl := Json.object.inj hMembers
    refine ⟨by decide, ?_⟩
    intro key operators hMember
    have hCase :
        key = "score" ∧
          operators = [("$gte", .number (.integer 50))] := by
      simpa [named, score] using hMember
    rcases hCase with ⟨-, rfl⟩
    decide
  have hProblem :
      compile "--metadata-filter" {} shaped =
        .error problem := by
    decide +kernel
  have hTexts :
      compile "--metadata-filter" {} (.object named) =
        .ok texts := by
    decide +kernel
  have hShape : HasShape shaped := by
    apply (exists_ofJson_iff "--metadata-filter").mp
    exact ⟨_, rfl⟩
  have hFault :=
    ((compile_contract hShaped "--metadata-filter" {}).2.2.1
      problem hProblem).2 hShape
  have hWritten :=
    (compile_contract hNamed "--metadata-filter" {}).2.1 texts
      hTexts
  rcases hWritten with ⟨members, hMembers, hWritten⟩
  obtain rfl := Json.object.inj hMembers
  exact ⟨hShaped, by decide +kernel, hProblem, hFault, hTexts,
    hWritten⟩

end Filter

end KbConsole
