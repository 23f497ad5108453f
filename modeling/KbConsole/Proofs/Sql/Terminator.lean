import KbConsole.Proofs.Arguments
import KbConsole.Sql.Fragment

/-
  What is left of the SQL that a user writes when it is put
  into a statement.

  Blanks are removed at both ends, then the semicolons at
  the end, and then blanks again. A semicolon that stands
  before these blanks is not looked for any more, so that a
  text with blanks between its last semicolons keeps some of
  them.

  Key definitions include:
    * `Sql.IsTerminated`
    * `Sql.HasStrayTerminator`
    * `Sql.IsBare`
    * `Sql.IsCutFrom`

  The main statements are `Sql.isCutFrom_withoutTerminator`
  and `Sql.withoutTerminator_eq_empty_iff`.
-/

namespace KbConsole

namespace Sql

------------------------------------------------------------
-- Terminators
------------------------------------------------------------

/- A text that ends in a semicolon. -/
def IsTerminated (sql : String) : Prop :=
  sql.toList.getLast? = some ';'

/- A character that a user may leave at the end of a text. -/
def isClosing (c : Char) : Bool :=
  Text.isBlank c || c == ';'

/-
  A semicolon that is followed by blanks, then by one or
  more semicolons at the end, and maybe by blanks.
-/
def HasStrayTerminator (sql : String) : Prop :=
  ∃ front blanks ends margin : List Char,
    sql.toList =
        front ++ ';' :: (blanks ++ ends) ++ margin ∧
      (blanks ≠ [] ∧ ∀ c ∈ blanks, Text.isBlank c = true) ∧
      (ends ≠ [] ∧ ∀ c ∈ ends, c = ';') ∧
      ∀ c ∈ margin, Text.isBlank c = true

/-
  A text of blanks and semicolons in which no semicolon is
  stray: all its semicolons stand together.
-/
structure IsBare (sql : String) : Prop where
  closing : ∀ c ∈ sql.toList, isClosing c = true
  notStray : ¬ HasStrayTerminator sql

/-
  A fragment that was cut from a text. Blanks were removed in
  front, and blanks and semicolons at the end; no margin is
  left, and no semicolon at the end unless one was stray.
-/
structure IsCutFrom (sql fragment : String) : Prop where
  cut :
    ∃ margin ending : List Char,
      sql.toList = margin ++ fragment.toList ++ ending ∧
        (∀ c ∈ margin, Text.isBlank c = true) ∧
        ∀ c ∈ ending, isClosing c = true
  trimmed : Text.trim fragment = fragment
  terminated : IsTerminated fragment ↔ HasStrayTerminator sql

variable {sql fragment : String}

theorem getLast?_ne_terminator
    {blanks : List Char}
    (hSome : blanks ≠ [])
    (hBlanks : ∀ c ∈ blanks, Text.isBlank c = true) :
    ∀ c ∈ (';' :: blanks).getLast?, (c == ';') = false := by
  intro c hLast
  rw [← List.singleton_append,
    List.getLast?_append_of_ne_nil _ hSome] at hLast
  have hBlank := hBlanks c (List.mem_of_getLast? hLast)
  by_contra hTerminator
  obtain rfl : c = ';' := by simpa using hTerminator
  revert hBlank
  decide

/- A stray semicolon is left. -/
theorem isTerminated_of_stray
    (hStray : HasStrayTerminator sql) :
    IsTerminated (withoutTerminator sql) := by
  rcases hStray with
    ⟨front, blanks, ends, margin, hChars,
      ⟨hSomeBlank, hBlanks⟩, ⟨hSomeEnd, hEnds⟩, hMargin⟩
  have hTerminator : Text.isBlank ';' = false := by decide
  have hEnding :
      ∀ c ∈ ends,
        (c == ';') = true ∧ Text.isBlank c = false := by
    intro c hMember
    rw [hEnds c hMember]
    decide
  have hJoined :
      sql.toList =
        front ++ ';' :: blanks ++ ends ++ margin := by
    rw [hChars]
    simp
  have hLeft :
      Text.dropEnd (· == ';') (Text.trimChars sql.toList) =
        front.dropWhile Text.isBlank ++ [';'] ++ blanks := by
    rw [hJoined, Text.dropEnd_trimChars hTerminator
      (getLast?_ne_terminator hSomeBlank hBlanks)
      hSomeEnd hEnding hMargin]
    simp
  unfold IsTerminated withoutTerminator
  rw [String.toList_ofList, hLeft,
    Text.trimChars_append hTerminator (by simp [hTerminator])
      hBlanks]
  simp

/-
  What is removed from a text, step by step: two margins,
  then semicolons at the end, then two margins again. After
  a step nothing is left at the end that it removes.
-/
structure IsRemoved
    (sql : String)
    (front margin blanks ends closing : List Char) : Prop where
  joined :
    sql.toList =
      front ++
        (margin ++ (withoutTerminator sql).toList ++ blanks ++
          ends) ++ closing
  blankFront : ∀ c ∈ front, Text.isBlank c = true
  blankMargin : ∀ c ∈ margin, Text.isBlank c = true
  allBlanks : ∀ c ∈ blanks, Text.isBlank c = true
  allEnds : ∀ c ∈ ends, c = ';'
  blankClosing : ∀ c ∈ closing, Text.isBlank c = true
  notBlank :
    ∀ c ∈
        (margin ++ (withoutTerminator sql).toList ++ blanks ++
          ends).getLast?,
      Text.isBlank c = false
  notTerminator :
    ∀ c ∈
        (margin ++ (withoutTerminator sql).toList ++
          blanks).getLast?,
      c ≠ ';'

theorem exists_isRemoved (sql : String) :
    ∃ front margin blanks ends closing,
      IsRemoved sql front margin blanks ends closing := by
  rcases Text.exists_trimChars_append sql.toList with
    ⟨front, closing, hText, hFront, hClosing⟩
  rcases Text.exists_dropEnd_append (· == ';')
      (Text.trimChars sql.toList) with ⟨ends, hTrimmed, hEnds⟩
  rcases Text.exists_trimChars_append
      (Text.dropEnd (· == ';') (Text.trimChars sql.toList)) with
    ⟨margin, blanks, hCut, hMargin, hBlanks⟩
  have hLeft :
      Text.trimChars
          (Text.dropEnd (· == ';')
            (Text.trimChars sql.toList)) =
        (withoutTerminator sql).toList := by
    rw [withoutTerminator, String.toList_ofList]
  rw [hLeft] at hCut
  refine ⟨front, margin, blanks, ends, closing, ?_⟩
  constructor
  · rw [← hCut, ← hTrimmed]
    exact hText
  · exact hFront
  · exact hMargin
  · exact hBlanks
  · intro c hMember
    simpa using hEnds c hMember
  · exact hClosing
  · rw [← hCut, ← hTrimmed]
    intro c hLast
    exact Text.getLast?_dropEnd hLast
  · rw [← hCut]
    intro c hLast hTerminator
    have hOther := Text.getLast?_dropEnd hLast
    rw [hTerminator] at hOther
    cases hOther

/- A semicolon that is left was stray. -/
theorem stray_of_isTerminated
    (hLast : IsTerminated (withoutTerminator sql)) :
    HasStrayTerminator sql := by
  rcases exists_isRemoved sql with
    ⟨front, margin, blanks, ends, closing, hRemoved⟩
  rcases List.getLast?_eq_some_iff.mp hLast with
    ⟨kept, hKept⟩
  have hLastBlank := hRemoved.notBlank
  have hLastTerminator := hRemoved.notTerminator
  have hJoined := hRemoved.joined
  rw [hKept] at hLastBlank hLastTerminator hJoined
  -- Without blanks the semicolon would have been removed, and
  -- blanks alone would have been removed before it.
  have hSomeBlank : blanks ≠ [] := by
    rintro rfl
    exact hLastTerminator ';' (by simp) rfl
  have hSomeEnd : ends ≠ [] := by
    rintro rfl
    rcases List.eq_nil_or_concat blanks with
      rfl | ⟨others, c, rfl⟩
    · exact hSomeBlank rfl
    · have hBlank := hRemoved.allBlanks c (by simp)
      rw [List.append_nil, List.concat_eq_append,
        ← List.append_assoc, List.getLast?_concat]
        at hLastBlank
      rw [hLastBlank c rfl] at hBlank
      cases hBlank
  refine
    ⟨front ++ margin ++ kept, blanks, ends, closing, ?_,
      ⟨hSomeBlank, hRemoved.allBlanks⟩,
      ⟨hSomeEnd, hRemoved.allEnds⟩, hRemoved.blankClosing⟩
  rw [hJoined]
  simp

/- What is left was cut from the text of the user. -/
theorem isCutFrom_withoutTerminator (sql : String) :
    IsCutFrom sql (withoutTerminator sql) := by
  constructor
  · rcases exists_isRemoved sql with
      ⟨front, margin, blanks, ends, closing, hRemoved⟩
    refine
      ⟨front ++ margin, blanks ++ ends ++ closing, ?_, ?_, ?_⟩
    · rw [hRemoved.joined]
      simp
    · intro c hMember
      rcases List.mem_append.mp hMember with hMember | hMember
      · exact hRemoved.blankFront c hMember
      · exact hRemoved.blankMargin c hMember
    · intro c hMember
      rw [isClosing, Bool.or_eq_true, beq_iff_eq]
      rcases List.mem_append.mp hMember with hMember | hMember
      · rcases List.mem_append.mp hMember with hMember | hMember
        · exact Or.inl (hRemoved.allBlanks c hMember)
        · exact Or.inr (hRemoved.allEnds c hMember)
      · exact Or.inl (hRemoved.blankClosing c hMember)
  · unfold withoutTerminator Text.trim
    rw [String.toList_ofList, Text.trimChars_trimChars]
  · exact ⟨stray_of_isTerminated, isTerminated_of_stray⟩

theorem forall₂_isCutFrom (texts : List String) :
    List.Forall₂ IsCutFrom texts
      (texts.map withoutTerminator) := by
  rw [List.forall₂_map_right_iff]
  exact List.forall₂_same.mpr fun sql _ =>
    isCutFrom_withoutTerminator sql

------------------------------------------------------------
-- Empty Fragments
------------------------------------------------------------

/- A fragment is empty when it was cut from a bare text. -/
theorem IsCutFrom.eq_empty_iff
    (hCut : IsCutFrom sql fragment) :
    fragment = "" ↔ IsBare sql := by
  rcases hCut.cut with
    ⟨margin, ending, hJoined, hMargin, hEnding⟩
  constructor
  · rintro rfl
    constructor
    · intro c hMember
      rw [hJoined] at hMember
      simp only [String.toList_empty, List.append_nil,
        List.mem_append] at hMember
      rcases hMember with hMember | hMember
      · rw [isClosing, hMargin c hMember, Bool.true_or]
      · exact hEnding c hMember
    · intro hStray
      have hLast := hCut.terminated.mpr hStray
      cases hLast
  · intro hBare
    by_contra hSome
    rcases List.eq_nil_or_concat fragment.toList with
      hNone | ⟨kept, c, hChars⟩
    · exact hSome (String.toList_eq_nil_iff.mp hNone)
    -- The last character of the fragment is not blank, and so
    -- it is a semicolon that was left.
    have hClosing : isClosing c = true := by
      apply hBare.closing
      rw [hJoined, hChars]
      simp
    have hBlank : Text.isBlank c = false := by
      apply Text.getLast?_of_trim_eq hCut.trimmed
      rw [hChars]
      simp
    rw [isClosing, hBlank, Bool.false_or, beq_iff_eq]
      at hClosing
    subst hClosing
    apply hBare.notStray
    apply hCut.terminated.mp
    rw [IsTerminated, hChars]
    simp

theorem withoutTerminator_eq_empty_iff :
    withoutTerminator sql = "" ↔ IsBare sql :=
  (isCutFrom_withoutTerminator sql).eq_empty_iff

/- A text of blanks is bare. -/
theorem isBare_of_isVoid
    (hVoid : Text.isVoid sql = true) :
    IsBare sql := by
  have hTrim : Text.trimChars sql.toList = [] :=
    Text.trimChars_eq_nil_iff.mpr hVoid
  rw [← withoutTerminator_eq_empty_iff, withoutTerminator,
    hTrim]
  rfl

------------------------------------------------------------
-- Decisions
------------------------------------------------------------

instance (sql : String) : Decidable (IsTerminated sql) :=
  inferInstanceAs (Decidable (sql.toList.getLast? = some ';'))

instance (sql : String) : Decidable (HasStrayTerminator sql) :=
  decidable_of_iff
    (IsTerminated (withoutTerminator sql))
    (isCutFrom_withoutTerminator sql).terminated

instance (sql : String) : Decidable (IsBare sql) :=
  decidable_of_iff
    (withoutTerminator sql = "")
    withoutTerminator_eq_empty_iff

/- The blank before the last semicolon hides the other one. -/
example : withoutTerminator "SELECT 1; ;" = "SELECT 1;" := by
  decide

end Sql

end KbConsole
