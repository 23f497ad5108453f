import KbConsole.Proofs.Server.Category
import KbConsole.Proofs.Sql.Creation

/-
  How a statement is judged by what its execution gave.

  A result is shown as a table, or as nothing. A rejection
  is a failure, unless it says that an object is there
  already and the statement creates one.

  Key definitions include:
    * `ResultSet.IsShown`
    * `ResultSet.IsReportedAs`
    * `CreatesObject`, `Rejection.SaysExists`
    * `IsJudged`, `IsFailed`

  The main statements are `Step.isJudged_judge` and
  `IsJudged.isFailure_iff`.
-/

namespace KbConsole

------------------------------------------------------------
-- Shown Results
------------------------------------------------------------

namespace ResultSet

/- Whether a result can be shown: its first row has a cell. -/
def IsShown (result : ResultSet) : Prop :=
  ∀ first, result.rows.head? = some first → first.cells ≠ []

/- The outcome that an answered statement is reported with. -/
structure IsReportedAs
    (result : ResultSet)
    (outcome : Outcome) : Prop where
  shown : result.IsShown → outcome = Outcome.ofResult result
  lost :
    ¬ result.IsShown →
      outcome =
        .failure .remoteFailure
          "remote error: Invalid count value: -2"

theorem IsReportedAs.isFailure_iff
    {result : ResultSet}
    {outcome : Outcome}
    (hReported : result.IsReportedAs outcome) :
    outcome.isFailure = false ↔ result.IsShown := by
  constructor
  · intro hDone
    by_contra hLost
    rw [hReported.lost hLost] at hDone
    cases hDone
  · intro hShown
    rw [hReported.shown hShown, Outcome.ofResult]
    split
    · rfl
    · rfl

/- The table of a result is laid out exactly if it is shown. -/
theorem isReportedAs_judge
    (acknowledgement : String)
    (isLast : Bool)
    (sql : String)
    (result : ResultSet) :
    result.IsReportedAs
      (Step.judge acknowledgement isLast sql
        (.ok result)).outcome := by
  rcases result with ⟨columns, rows⟩
  cases rows with
  | nil =>
      constructor
      · intro _
        rfl
      · intro hLost
        refine absurd ?_ hLost
        intro first hFirst
        cases hFirst
  | cons first rest =>
      cases hCells : first.cells with
      | nil =>
          constructor
          · intro hShown
            exact absurd hCells (hShown first rfl)
          · intro _
            have hTable :
                Layout.table (first :: rest) =
                  .error .noColumns := by
              rw [Layout.table, hCells]
              rfl
            have hCategory :
                Category.ofMessage Rejection.noColumns.message =
                  .other := by
              decide +kernel
            have hMessage :
                Outcome.ofRejection .noColumns =
                  .failure .remoteFailure
                    "remote error: Invalid count value: -2" := by
              simp only [Outcome.ofRejection, hCategory]
              rfl
            have hOther :
                Rejection.noColumns.alreadyExists = false := by
              simp only [Rejection.alreadyExists, hCategory]
              rfl
            simp only [Step.judge, Outcome.ofResult,
              List.isEmpty_cons, Bool.false_eq_true, if_false,
              Outcome.render, hTable, Step.ofRejection,
              hOther, hMessage]
            split
            · rfl
            · rfl
      | cons cell cells =>
          have hTable :
              ∃ text,
                Layout.table (first :: rest) = .ok text := by
            rw [Layout.table, hCells]
            exact ⟨_, rfl⟩
          rcases hTable with ⟨text, hText⟩
          constructor
          · intro _
            simp only [Step.judge, Outcome.ofResult,
              List.isEmpty_cons, Bool.false_eq_true, if_false,
              Outcome.render, hText]
          · intro hLost
            refine absurd ?_ hLost
            intro other hOther
            rcases Option.some.inj hOther with rfl
            rw [hCells]
            exact List.cons_ne_nil _ _

end ResultSet

------------------------------------------------------------
-- Created Objects
------------------------------------------------------------

/-
  A text that begins with the creation of an object, in any
  case of letters, and with a first character of its name.
-/
def CreatesObject (sql : String) : Prop :=
  ∃ keyword ∈
      ["database", "knowledge_base", "agent", "model", "job"],
    ∃ start c rest,
      sql.toList = start ++ c :: rest ∧
        start.map Char.toLower =
          ("create " ++ keyword ++ " ").toList ∧
        (c.isAlphanum = true ∨ c ∈ ['_', '.', '\x60'])

namespace CreatedObject

theorem isNameChar_iff {c : Char} :
    isNameChar c = true ↔
      c.isAlphanum = true ∨ c ∈ ['_', '.', '\x60'] := by
  simp only [isNameChar, Bool.or_eq_true, beq_iff_eq,
    List.mem_cons, List.not_mem_nil, or_false, or_assoc]

theorem isSome_ofKind?_iff
    {cs : List Char}
    {kind : String × String} :
    (ofKind? cs kind).isSome = true ↔
      ∃ start c rest,
        cs = start ++ c :: rest ∧
          start.map Char.toLower = (phrase kind).toList ∧
          isNameChar c = true := by
  rw [ofKind?, ← phrase]
  constructor
  · intro hSome
    split at hSome
    · cases hSome
    · rename_i rest hRest
      rcases afterPhrase?_eq_some_iff.mp hRest with
        ⟨start, rfl, hPhrase⟩
      cases rest with
      | nil => cases hSome
      | cons c rest =>
          refine ⟨start, c, rest, rfl, hPhrase, ?_⟩
          by_contra hChar
          simp [List.takeWhile_cons_of_neg hChar] at hSome
  · rintro ⟨start, c, rest, rfl, hPhrase, hChar⟩
    have hRest :
        afterPhrase? (phrase kind) (start ++ c :: rest) =
          some (c :: rest) :=
      afterPhrase?_eq_some_iff.mpr ⟨start, rfl, hPhrase⟩
    simp [hRest, List.takeWhile_cons_of_pos hChar]

/- An object is found in the texts that create one. -/
theorem isSome_ofText?_iff {sql : String} :
    (ofText? sql).isSome = true ↔ CreatesObject sql := by
  have hKeywords :
      kinds.map Prod.fst =
        ["database", "knowledge_base", "agent", "model",
          "job"] := rfl
  rw [ofText?, List.isSome_findSome?, List.any_eq_true,
    CreatesObject, ← hKeywords]
  simp only [isSome_ofKind?_iff, isNameChar_iff, phrase,
    List.mem_map, exists_exists_and_eq_and]

end CreatedObject

------------------------------------------------------------
-- Existing Objects
------------------------------------------------------------

/-
  A rejection, other than of refused input, whose message
  says in some case of letters that an object is there.
-/
def Rejection.SaysExists : Rejection → Prop
  | input _ _ _ => False
  | rejection =>
      ∃ words ∈ ["already exists", "already created"],
        words.toList <:+:
          rejection.message.toList.map Char.toLower

theorem Category.ofMessage_eq_alreadyExists_iff
    {message : String} :
    ofMessage message = alreadyExists ↔
      ∃ words ∈ ["already exists", "already created"],
        words.toList <:+: message.toList.map Char.toLower := by
  have hLower :
      (Text.lower message).toList =
        message.toList.map Char.toLower := by
    rw [Text.lower, String.toList_ofList]
  have hEarlier : alreadyExists.earlier = [] := rfl
  have hPatterns :
      alreadyExists.patterns =
        ["already exists", "already created"].map
          Pattern.phrase := rfl
  rw [ofMessage_eq_iff, fits_iff, hLower, hEarlier, hPatterns]
  rw [and_iff_right (List.forall_mem_nil _)]
  simp only [reduceCtorEq, false_or, List.mem_map,
    exists_exists_and_eq_and, Pattern.matches_phrase_iff]

theorem Rejection.alreadyExists_iff {rejection : Rejection} :
    rejection.alreadyExists = true ↔
      rejection.SaysExists := by
  cases rejection with
  | input kind message field =>
      simp [alreadyExists, SaysExists]
  | _ =>
      rw [alreadyExists, beq_iff_eq,
        Category.ofMessage_eq_alreadyExists_iff, SaysExists]
      all_goals
        intro kind message field hInput
        cases hInput

/- A rejection is a failure that holds its message. -/
theorem exists_failure_of_rejection (rejection : Rejection) :
    ∃ kind message,
      Outcome.ofRejection rejection = .failure kind message ∧
        rejection.message.toList <:+: message.toList := by
  cases rejection with
  | input kind message field =>
      exact ⟨kind, message, rfl, List.infix_rfl⟩
  | _ =>
      refine ⟨_, _, rfl, ?_⟩
      rw [String.toList_append, String.toList_append]
      exact List.infix_append _ _ _

------------------------------------------------------------
-- Judgements
------------------------------------------------------------

/-
  The outcome of a statement, by what its execution gave:
  the rows of a result that has any, and nothing for a
  result without rows or an object that is there already.
-/
inductive IsJudged (sql : String) :
    Except Rejection ResultSet → Outcome → Prop where
  | nothing (columns : List String) :
      IsJudged sql (.ok { columns, rows := [] }) .empty
  | shown
      {result : ResultSet}
      (hRows : result.rows ≠ [])
      (hShown : result.IsShown) :
      IsJudged sql (.ok result)
        (.rows result.columns result.rows)
  | lost
      {result : ResultSet}
      (hLost : ¬ result.IsShown) :
      IsJudged sql (.ok result)
        (.failure .remoteFailure
          "remote error: Invalid count value: -2")
  | existing
      {rejection : Rejection}
      (hCreates : CreatesObject sql)
      (hExists : rejection.SaysExists) :
      IsJudged sql (.error rejection) .empty
  | rejected
      {rejection : Rejection}
      {kind : ErrorKind}
      {message : String}
      (hOther : ¬ (CreatesObject sql ∧ rejection.SaysExists))
      (hMessage :
        rejection.message.toList <:+: message.toList) :
      IsJudged sql (.error rejection) (.failure kind message)

/- What the execution of a statement that failed gave. -/
inductive IsFailed (sql : String) :
    Except Rejection ResultSet → Prop where
  | lost
      {result : ResultSet}
      (hLost : ¬ result.IsShown) :
      IsFailed sql (.ok result)
  | rejected
      {rejection : Rejection}
      (hOther : ¬ (CreatesObject sql ∧ rejection.SaysExists)) :
      IsFailed sql (.error rejection)

theorem IsJudged.isFailure_iff
    {sql : String}
    {result : Except Rejection ResultSet}
    {outcome : Outcome}
    (hJudged : IsJudged sql result outcome) :
    outcome.isFailure = true ↔ IsFailed sql result := by
  cases hJudged with
  | nothing columns =>
      refine iff_of_false Bool.false_ne_true ?_
      rintro ⟨hLost⟩
      exact hLost fun first hFirst => by cases hFirst
  | shown hRows hShown =>
      refine iff_of_false Bool.false_ne_true ?_
      rintro ⟨hLost⟩
      exact hLost hShown
  | lost hLost => exact iff_of_true rfl (.lost hLost)
  | existing hCreates hExists =>
      refine iff_of_false Bool.false_ne_true ?_
      rintro (_ | hOther)
      exact hOther ⟨hCreates, hExists⟩
  | rejected hOther hMessage =>
      exact iff_of_true rfl (.rejected hOther)

/- A result is judged by whether it can be shown. -/
theorem ResultSet.IsReportedAs.isJudged
    {result : ResultSet}
    {outcome : Outcome}
    (hReported : result.IsReportedAs outcome)
    (sql : String) :
    IsJudged sql (.ok result) outcome := by
  by_cases hShown : result.IsShown
  · rw [hReported.shown hShown]
    rcases result with ⟨columns, rows⟩
    cases rows with
    | nil => exact .nothing columns
    | cons first rest =>
        exact .shown (List.cons_ne_nil first rest) hShown
  · rw [hReported.lost hShown]
    exact .lost hShown

theorem Step.isJudged_judge
    (acknowledgement : String)
    (isLast : Bool)
    (sql : String)
    (result : Except Rejection ResultSet) :
    IsJudged sql result
      (judge acknowledgement isLast sql result).outcome := by
  cases result with
  | ok result =>
      exact (result.isReportedAs_judge _ _ _).isJudged sql
  | error rejection =>
      -- Nothing is created, or the message says otherwise:
      -- two of the three cases below end in this failure.
      have hRejected
          (hOther :
            ¬ (CreatesObject sql ∧ rejection.SaysExists)) :
          IsJudged sql (.error rejection)
            (Outcome.ofRejection rejection) := by
        rcases exists_failure_of_rejection rejection with
          ⟨kind, message, hOutcome, hMessage⟩
        rw [hOutcome]
        exact .rejected hOther hMessage
      rw [← CreatedObject.isSome_ofText?_iff,
        ← Rejection.alreadyExists_iff] at hRejected
      simp only [judge, ofRejection]
      cases hCreated : CreatedObject.ofText? sql with
      | none =>
          apply hRejected
          simp [hCreated]
      | some object =>
          cases hExists : rejection.alreadyExists with
          | true =>
              refine .existing ?_
                (Rejection.alreadyExists_iff.mp hExists)
              rw [← CreatedObject.isSome_ofText?_iff, hCreated]
              rfl
          | false =>
              apply hRejected
              simp [hExists]

end KbConsole
