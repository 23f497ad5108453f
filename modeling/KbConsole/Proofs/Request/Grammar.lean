import KbConsole.Proofs.Number.Integer
import KbConsole.Proofs.Request.Names
import KbConsole.Proofs.Tokens

/-
  The grammars of schedules and sort orders.

  A schedule consists of the word every or not, of digits or
  not, and of a unit. A sort order consists of a column and
  of a direction or not. Each grammar is given twice: for the
  tokens of a text, and as a pattern for the characters
  between its margins, in which a part that may be missing
  takes the break behind it along. Both say the same, and the
  readers follow them.

  Key definitions include:
    * `Schedule.IsMadeOf`, `Schedule.ofCount`
    * `Schedule.IsWrittenAs`, `Schedule.Matches`
    * `OrderBy.IsWrittenAs`, `OrderBy.Matches`

  The main statements are `Schedule.ofText_eq_ok_iff` and
  `Schedule.ofText_eq_ok_iff_matches`, and the same for sort
  orders.
-/

namespace KbConsole

------------------------------------------------------------
-- Words up to the Case of Letters
------------------------------------------------------------

namespace Text

variable {c : Char}

theorem toLower_of_isBlank
    (hBlank : isBlank c = true) :
    c.toLower = c := by
  simp only [isBlank, Bool.or_eq_true, Bool.and_eq_true,
    decide_eq_true_eq, beq_iff_eq] at hBlank
  apply toLower_eq_self
  omega

theorem toLower_of_isDigit
    (hDigit : c.isDigit = true) :
    c.toLower = c := by
  have hRange := toNat_of_isDigit hDigit
  apply toLower_eq_self
  omega

theorem isBlank_of_isDigit
    (hDigit : c.isDigit = true) :
    isBlank c = false := by
  have hRange := toNat_of_isDigit hDigit
  simp only [isBlank, Bool.or_eq_false_iff,
    Bool.and_eq_false_iff, decide_eq_false_iff_not,
    beq_eq_false_iff_ne]
  omega

variable {word other : String}

theorem sameLetters_iff :
    sameLetters word other = true ↔ lower word = lower other :=
  beq_iff_eq

theorem mem_lower_of_mem
    (hMember : c ∈ word.toList) :
    c.toLower ∈ (lower word).toList := by
  rw [lower, String.toList_ofList]
  exact List.mem_map_of_mem hMember

/- A word is a token if it equals one up to case. -/
theorem IsToken.of_sameLetters
    (hSame : sameLetters word other = true)
    (hToken : IsToken (lower other)) :
    IsToken word := by
  rw [← sameLetters_iff.mp hSame] at hToken
  constructor
  · rintro rfl
    exact hToken.notEmpty rfl
  · intro c hMember
    have hLower :=
      hToken.noBlank _ (mem_lower_of_mem hMember)
    by_contra hBlank
    rw [Bool.not_eq_false] at hBlank
    rw [toLower_of_isBlank hBlank, hBlank]
      at hLower
    cases hLower

theorem isToken_of_isNumeral
    (hDigits : isNumeral word.toList = true) :
    IsToken word := by
  rw [isNumeral, Bool.and_eq_true, List.all_eq_true]
    at hDigits
  constructor
  · rintro rfl
    exact absurd hDigits.1 (by decide)
  · intro c hMember
    exact isBlank_of_isDigit (hDigits.2 c hMember)

/- Digits are letters in no case. -/
theorem sameLetters_of_isNumeral
    (hDigits : isNumeral word.toList = true)
    (hLetters :
      (lower other).toList.all (! ·.isDigit) = true) :
    sameLetters word other = false := by
  rw [Bool.eq_false_iff, Ne, sameLetters_iff]
  intro hSame
  rcases (isToken_of_isNumeral hDigits).exists_cons with
    ⟨c, rest, hCons, -⟩
  have hMember : c ∈ word.toList := by
    rw [hCons]
    exact List.mem_cons_self
  rw [hCons] at hDigits
  have hDigit := Number.isDigit_head_of_isNumeral hDigits
  have hLower := mem_lower_of_mem hMember
  rw [toLower_of_isDigit hDigit, hSame]
    at hLower
  have hLetter := List.all_eq_true.mp hLetters c hLower
  rw [hDigit] at hLetter
  cases hLetter

end Text

------------------------------------------------------------
-- Units and Directions
------------------------------------------------------------

/- A word names a unit, with or without a final s. -/
def TimeUnit.IsNamedBy
    (unit : TimeUnit)
    (word : String) : Prop :=
  Text.sameLetters word unit.name = true ∨
    Text.sameLetters word (unit.name ++ "s") = true

theorem TimeUnit.ofText?_eq_some_iff
    {word : String}
    {unit : TimeUnit} :
    ofText? word = some unit ↔ unit.IsNamedBy word := by
  unfold ofText?
  constructor
  · intro hFound
    have hNamed := List.find?_some hFound
    rwa [Bool.or_eq_true] at hNamed
  · unfold IsNamedBy
    -- No other unit has this name, in either form.
    rintro (hNamed | hNamed) <;>
      rw [Text.sameLetters_iff] at hNamed <;>
      simp only [Text.sameLetters, hNamed] <;>
      cases unit <;> rfl

theorem TimeUnit.IsNamedBy.isToken
    {unit : TimeUnit}
    {word : String}
    (hNamed : unit.IsNamedBy word) :
    Text.IsToken word := by
  rcases hNamed with hNamed | hNamed <;>
    apply Text.IsToken.of_sameLetters hNamed <;>
    cases unit <;> decide

/- The word every names no unit. -/
theorem TimeUnit.IsNamedBy.not_every
    {unit : TimeUnit}
    {word : String}
    (hNamed : unit.IsNamedBy word) :
    Text.sameLetters word "every" = false := by
  rcases hNamed with hNamed | hNamed <;>
    rw [Text.sameLetters_iff] at hNamed <;>
    rw [Text.sameLetters, hNamed] <;>
    cases unit <;> rfl

theorem Direction.ofText?_eq_some_iff
    {word : String}
    {direction : Direction} :
    ofText? word = some direction ↔
      Text.sameLetters word direction.keyword = true := by
  have hAscending : Text.lower "asc" = Text.lower "ASC" := by
    decide
  have hDescending : Text.lower "desc" = Text.lower "DESC" := by
    decide
  have hOther : Text.lower "ASC" ≠ Text.lower "DESC" := by
    decide
  unfold ofText?
  simp only [Text.sameLetters, beq_iff_eq, hAscending,
    hDescending]
  cases direction with
  | ascending =>
      change _ ↔ Text.lower word = Text.lower "ASC"
      split
      · simp [*]
      · split <;> simp [*, hOther.symm]
  | descending =>
      change _ ↔ Text.lower word = Text.lower "DESC"
      split
      · simp [*]
      · split <;> simp [*]

------------------------------------------------------------
-- Tokens of Schedules
------------------------------------------------------------

namespace Schedule

/- The schedule with a count, which may be missing. -/
def ofCount
    (count : Option Nat)
    (unit : TimeUnit) : Schedule where
  count := count.map fun n => .ofDecimal false n 0
  unit

/-
  The parts of a schedule: the word every and digits, both
  of which may be missing, and the word for its unit.
-/
structure IsMadeOf
    (every number : Option String)
    (word : String)
    (count : Option Nat)
    (unit : TimeUnit) : Prop where
  isEvery :
    ∀ token ∈ every, Text.sameLetters token "every" = true
  isNumeral :
    ∀ token ∈ number, Text.isNumeral token.toList = true
  count_eq :
    count = number.map fun token => Text.numeral token.toList
  isNamed : unit.IsNamedBy word

/- The tokens that write a schedule. -/
def IsWrittenAs
    (tokens : List String)
    (count : Option Nat)
    (unit : TimeUnit) : Prop :=
  ∃ every number word,
    IsMadeOf every number word count unit ∧
      tokens = every.toList ++ number.toList ++ [word]

variable {every number : Option String}
variable {word : String}
variable {tokens : List String}
variable {count : Option Nat}
variable {unit : TimeUnit}
variable {schedule : Schedule}

/- The word every makes no difference to what is written. -/
theorem IsMadeOf.withEvery
    (hMade : IsMadeOf every number word count unit)
    {other : Option String}
    (hOther :
      ∀ token ∈ other,
        Text.sameLetters token "every" = true) :
    IsMadeOf other number word count unit :=
  ⟨hOther, hMade.isNumeral, hMade.count_eq, hMade.isNamed⟩

/- Neither digits nor a unit are taken for the word every. -/
theorem IsMadeOf.withoutEvery_eq
    (hMade : IsMadeOf every number word count unit) :
    withoutEvery (every.toList ++ number.toList ++ [word]) =
      number.toList ++ [word] := by
  cases every with
  | some token => exact if_pos (hMade.isEvery token rfl)
  | none =>
      cases hNumber : number with
      | some token =>
          have hDigits := hMade.isNumeral token hNumber
          have hOther :
              Text.sameLetters token "every" = false :=
            Text.sameLetters_of_isNumeral hDigits (by decide)
          exact if_neg (by simp [hOther])
      | none =>
          exact if_neg (by simp [hMade.isNamed.not_every])

/- Only the word every is left out. -/
theorem exists_every (tokens : List String) :
    ∃ every : Option String,
      (∀ token ∈ every,
          Text.sameLetters token "every" = true) ∧
        tokens = every.toList ++ withoutEvery tokens := by
  cases tokens with
  | nil => exact ⟨none, by simp, rfl⟩
  | cons token tokens =>
      rw [withoutEvery]
      by_cases hEvery : Text.sameLetters token "every" = true
      · rw [if_pos hEvery]
        exact ⟨some token, by simpa using hEvery, rfl⟩
      · rw [if_neg hEvery]
        exact ⟨none, by simp, rfl⟩

/- Words that are read are digits or not, and a unit. -/
theorem exists_isMadeOf_of_ofWords?
    (hRead : ofWords? tokens = some schedule) :
    ∃ number word count unit,
      IsMadeOf none number word count unit ∧
        tokens = number.toList ++ [word] ∧
        schedule = ofCount count unit := by
  unfold ofWords? at hRead
  split at hRead
  · rename_i word
    rcases Option.map_eq_some_iff.mp hRead with
      ⟨unit, hUnit, rfl⟩
    refine
      ⟨none, word, none, unit, ⟨?_, ?_, rfl, ?_⟩, rfl, rfl⟩
    · simp
    · simp
    · exact TimeUnit.ofText?_eq_some_iff.mp hUnit
  · rename_i token word
    split at hRead
    · rename_i hDigits
      rcases Option.map_eq_some_iff.mp hRead with
        ⟨unit, hUnit, rfl⟩
      refine
        ⟨some token, word, _, unit, ⟨?_, ?_, rfl, ?_⟩, rfl, rfl⟩
      · simp
      · simpa using hDigits
      · exact TimeUnit.ofText?_eq_some_iff.mp hUnit
    · cases hRead
  · cases hRead

theorem IsMadeOf.ofWords?_eq
    (hMade : IsMadeOf every number word count unit) :
    ofWords? (number.toList ++ [word]) =
      some (ofCount count unit) := by
  have hUnit := TimeUnit.ofText?_eq_some_iff.mpr hMade.isNamed
  rw [hMade.count_eq]
  cases number with
  | none =>
      change (TimeUnit.ofText? word).map _ = _
      rw [hUnit]
      rfl
  | some token =>
      change
        (if _ then (TimeUnit.ofText? word).map _ else _) = _
      rw [if_pos (hMade.isNumeral token rfl), hUnit]
      rfl

/- The words are read as the grammar tells. -/
theorem ofWords?_withoutEvery_eq_some_iff :
    ofWords? (withoutEvery tokens) = some schedule ↔
      ∃ count unit,
        IsWrittenAs tokens count unit ∧
          schedule = ofCount count unit := by
  constructor
  · intro hRead
    rcases exists_isMadeOf_of_ofWords? hRead with
      ⟨number, word, count, unit, hMade, hRest, rfl⟩
    rcases exists_every tokens with ⟨every, hEvery, hTokens⟩
    rw [hRest, ← List.append_assoc] at hTokens
    exact
      ⟨count, unit,
        ⟨every, number, word, hMade.withEvery hEvery, hTokens⟩,
        rfl⟩
  · rintro ⟨count, unit, ⟨every, number, word, hMade, rfl⟩, rfl⟩
    rw [hMade.withoutEvery_eq, hMade.ofWords?_eq]

/- Only the count zero is the number zero. -/
theorem count_ofCount_eq_zero_iff :
    (ofCount count unit).count = some (.integer 0) ↔
      count = some 0 := by
  cases count with
  | none => simp [ofCount]
  | some n =>
      rw [ofCount, Option.map_some, Option.some_inj,
        Option.some_inj, ← Number.ofNumeral_digits]
      constructor
      · intro hZero
        by_contra hNonzero
        have hCount := Number.numeral_digits n
        have hLarge :=
          Number.atLeastOne_ofNumeral (hCount ▸ hNonzero)
        rw [hZero] at hLarge
        have hPositive : (1 : Int) ≤ 0 := hLarge
        omega
      · rintro rfl
        exact Number.ofNumeral_of_zero (Number.numeral_digits 0)

/- A schedule is what the tokens of its text write. -/
theorem ofText_eq_ok_iff
    {text : String} :
    ofText text = .ok schedule ↔
      ∃ tokens count unit,
        Text.HasTokens text tokens ∧
          IsWrittenAs tokens count unit ∧
          count ≠ some 0 ∧
          schedule = ofCount count unit := by
  unfold ofText
  constructor
  · intro hRead
    split at hRead
    · cases hRead
    · rename_i found hFound
      split at hRead
      · cases hRead
      · rename_i hNonzero
        obtain rfl := Except.ok.inj hRead
        rcases ofWords?_withoutEvery_eq_some_iff.mp hFound with
          ⟨count, unit, hWritten, rfl⟩
        rw [count_ofCount_eq_zero_iff] at hNonzero
        exact
          ⟨Text.words text, count, unit,
            Text.words_eq_iff.mp rfl, hWritten, hNonzero, rfl⟩
  · rintro
      ⟨tokens, count, unit, hTokens, hWritten, hNonzero, rfl⟩
    have hFound :=
      ofWords?_withoutEvery_eq_some_iff.mpr
        ⟨count, unit, hWritten, rfl⟩
    rw [Text.words_eq_iff.mpr hTokens, hFound]
    exact if_neg (mt count_ofCount_eq_zero_iff.mp hNonzero)

------------------------------------------------------------
-- The Pattern of Schedules
------------------------------------------------------------

/-
  The characters of a schedule without margins: those of its
  parts in order.
-/
def Matches
    (cs : List Char)
    (count : Option Nat)
    (unit : TimeUnit) : Prop :=
  ∃ every number word front middle,
    IsMadeOf every number word count unit ∧
      Text.Leads every front ∧
      Text.Leads number middle ∧
      cs = front ++ (middle ++ word.toList)

/- The pattern and the grammar of the tokens say the same. -/
theorem matches_iff
    {cs : List Char} :
    Matches cs count unit ↔
      ∃ tokens,
        Text.Chain cs tokens ∧
          IsWrittenAs tokens count unit := by
  constructor
  · rintro
      ⟨every, number, word, front, middle, hMade, hFront,
        hMiddle, rfl⟩
    refine
      ⟨_, ?_, every, number, word, hMade,
        (List.append_assoc _ _ _).symm⟩
    apply hFront.chain_append
    · intro token hMember
      exact
        .of_sameLetters (hMade.isEvery token hMember)
          (by decide)
    apply hMiddle.chain_append
    · intro token hMember
      exact
        Text.isToken_of_isNumeral
          (hMade.isNumeral token hMember)
    · exact .last hMade.isNamed.isToken
  · rintro
      ⟨tokens, hChain, every, number, word, hMade, rfl⟩
    rw [List.append_assoc] at hChain
    rcases Text.exists_leads hChain (by simp) with
      ⟨front, _, hFront, hRest, rfl⟩
    rcases Text.exists_leads hRest (by simp) with
      ⟨middle, _, hMiddle, hWord, rfl⟩
    rw [hWord.eq_of_singleton]
    exact
      ⟨every, number, word, front, middle, hMade, hFront,
        hMiddle, rfl⟩

/- A schedule is read from each text that has the pattern. -/
theorem ofText_eq_ok_iff_matches
    {text : String} :
    ofText text = .ok schedule ↔
      ∃ count unit,
        Matches (Text.trimChars text.toList) count unit ∧
          count ≠ some 0 ∧
          schedule = ofCount count unit := by
  simp only [ofText_eq_ok_iff, matches_iff,
    Text.chain_trimChars_iff]
  constructor
  · rintro
      ⟨tokens, count, unit, hTokens, hWritten, hNonzero, rfl⟩
    refine
      ⟨count, unit, ⟨tokens, ⟨hTokens, ?_⟩, hWritten⟩, hNonzero,
        rfl⟩
    rcases hWritten with ⟨every, number, word, -, rfl⟩
    simp
  · rintro
      ⟨count, unit, ⟨tokens, ⟨hTokens, -⟩, hWritten⟩, hNonzero,
        rfl⟩
    exact
      ⟨tokens, count, unit, hTokens, hWritten, hNonzero, rfl⟩

end Schedule

------------------------------------------------------------
-- Sort Orders
------------------------------------------------------------

namespace OrderBy

/- The tokens that write a sort order. -/
inductive IsWrittenAs : List String → OrderBy → Prop where
  | column (column : String) :
      IsWrittenAs [column] { column }
  | directed
      (column : String)
      {word : String}
      {direction : Direction}
      (hWord :
        Text.sameLetters word direction.keyword = true) :
      IsWrittenAs [column, word]
        { column, direction := some direction }

/- The characters of a sort order without margins. -/
inductive Matches : List Char → OrderBy → Prop where
  | column
      {column : String}
      (hColumn : Text.IsToken column) :
      Matches column.toList { column }
  | directed
      {column word : String}
      {gap : List Char}
      {direction : Direction}
      (hColumn : Text.IsToken column)
      (hBreak : Text.IsBreak gap)
      (hWord :
        Text.sameLetters word direction.keyword = true) :
      Matches (column.toList ++ gap ++ word.toList)
        { column, direction := some direction }

variable {order : OrderBy}

/- A sort order is what the tokens of its text write. -/
theorem ofText_eq_ok_iff
    {text : String} :
    ofText text = .ok order ↔
      ∃ tokens,
        Text.HasTokens text tokens ∧
          IsWrittenAs tokens order := by
  constructor
  · intro hRead
    refine ⟨Text.words text, Text.words_eq_iff.mp rfl, ?_⟩
    unfold ofText at hRead
    split at hRead
    · rename_i column hWords
      obtain rfl := Except.ok.inj hRead
      rw [hWords]
      exact .column column
    · rename_i column word hWords
      split at hRead
      · cases hRead
      · rename_i direction hDirection
        obtain rfl := Except.ok.inj hRead
        rw [hWords]
        exact
          .directed column
            (Direction.ofText?_eq_some_iff.mp hDirection)
    · cases hRead
  · rintro ⟨tokens, hTokens, hWritten⟩
    unfold ofText
    rw [Text.words_eq_iff.mpr hTokens]
    cases hWritten with
    | column => rfl
    | directed column hWord =>
        dsimp only
        rw [Direction.ofText?_eq_some_iff.mpr hWord]

theorem isToken_of_direction
    {word : String}
    {direction : Direction}
    (hWord : Text.sameLetters word direction.keyword = true) :
    Text.IsToken word := by
  apply Text.IsToken.of_sameLetters hWord
  cases direction <;> decide

/- The pattern and the grammar of the tokens say the same. -/
theorem matches_iff
    {cs : List Char} :
    Matches cs order ↔
      ∃ tokens,
        Text.Chain cs tokens ∧ IsWrittenAs tokens order := by
  constructor
  · intro hMatches
    cases hMatches with
    | column hColumn => exact ⟨_, .last hColumn, .column _⟩
    | directed hColumn hBreak hWord =>
        exact
          ⟨_,
            .cons hColumn hBreak
              (.last (isToken_of_direction hWord)),
            .directed _ hWord⟩
  · rintro ⟨tokens, hChain, hWritten⟩
    cases hWritten with
    | column column =>
        rw [hChain.eq_of_singleton]
        exact .column hChain.isToken_head
    | directed column hWord =>
        cases hChain with
        | cons hColumn hBreak hRest =>
            rw [hRest.eq_of_singleton]
            exact .directed hColumn hBreak hWord

/- A sort order is read from each text with the pattern. -/
theorem ofText_eq_ok_iff_matches
    {text : String} :
    ofText text = .ok order ↔
      Matches (Text.trimChars text.toList) order := by
  rw [ofText_eq_ok_iff, matches_iff]
  simp only [Text.chain_trimChars_iff]
  constructor
  · rintro ⟨tokens, hTokens, hWritten⟩
    refine ⟨tokens, ⟨hTokens, ?_⟩, hWritten⟩
    cases hWritten <;> exact List.cons_ne_nil _ _
  · rintro ⟨tokens, ⟨hTokens, -⟩, hWritten⟩
    exact ⟨tokens, hTokens, hWritten⟩

end OrderBy

end KbConsole
