import KbConsole.Text.Blank
import Mathlib.Data.List.DropRight
import Mathlib.Data.List.TakeWhile

/-
  Texts and what is cut off at their ends.

  Characters of one kind are removed up to the last
  character of another kind, and blanks are removed at both
  ends. A text is what is left of it with the removed
  characters put back, and nothing more is removed from what
  is left.

  The main statements are `Text.dropEnd_append` and
  `Text.exists_dropEnd_append` for the end of a text, and
  `Text.trimChars_append`, `Text.exists_trimChars_append`
  and `Text.trimChars_trimChars` for both of its margins.
-/

namespace KbConsole

namespace Text

------------------------------------------------------------
-- Ends
------------------------------------------------------------

section Ends

variable {p : Char → Bool}
variable {cs : List Char}

/- What is removed at the end is all of one kind. -/
theorem exists_dropEnd_append
    (p : Char → Bool)
    (cs : List Char) :
    ∃ ending,
      cs = dropEnd p cs ++ ending ∧
        ∀ c ∈ ending, p c = true := by
  refine ⟨cs.rtakeWhile p, ?_, ?_⟩
  · exact List.rdropWhile_append_rtakeWhile.symm
  · intro c hMember
    exact List.mem_rtakeWhile_imp hMember

/- What is left does not end in what is removed. -/
theorem getLast?_dropEnd
    {c : Char}
    (hLast : (dropEnd p cs).getLast? = some c) :
    p c = false := by
  have hSome : dropEnd p cs ≠ [] := by
    rintro hNone
    rw [hNone] at hLast
    cases hLast
  rw [List.getLast?_eq_some_getLast hSome] at hLast
  rw [← Option.some.inj hLast]
  have hOther := List.rdropWhile_last_not p cs hSome
  exact Bool.eq_false_iff.mpr hOther

theorem getLast?_dropEnd_ne (c : Char) (cs : List Char) :
    (dropEnd (· == c) cs).getLast? ≠ some c := by
  intro hLast
  have hOther := getLast?_dropEnd hLast
  rw [beq_self_eq_true] at hOther
  cases hOther

/- An ending is removed up to a character of another kind. -/
theorem dropEnd_append
    {ending : List Char}
    (hEnding : ∀ c ∈ ending, p c = true)
    (hLast : ∀ c ∈ cs.getLast?, p c = false) :
    dropEnd p (cs ++ ending) = cs := by
  have hReverse :
      ∀ c ∈ cs.reverse.head?, p c = false := by
    intro c hHead
    rw [List.head?_reverse] at hHead
    exact hLast c hHead
  unfold dropEnd
  rw [List.reverse_append, List.dropWhile_append_of_pos
    (by simpa using hEnding)]
  cases hChars : cs.reverse with
  | nil => simpa using hChars
  | cons c rest =>
      rw [hChars] at hReverse
      rw [List.dropWhile_cons_of_neg
        (by simp [hReverse c rfl]), ← hChars,
        List.reverse_reverse]

theorem dropEnd_eq_self
    (hLast : ∀ c ∈ cs.getLast?, p c = false) :
    dropEnd p cs = cs := by
  have hNothing := dropEnd_append (List.forall_mem_nil _) hLast
  rw [List.append_nil] at hNothing
  exact hNothing

/-
  What is kept when one such character is dropped at the end
  is kept when all of them are.
-/
theorem dropEnd_of_step
    {P : List Char → Prop}
    (hStep : ∀ cs c, p c = true → P (cs ++ [c]) → P cs)
    (hText : P cs) :
    P (dropEnd p cs) := by
  induction cs using List.reverseRecOn with
  | nil => exact hText
  | append_singleton cs c ih =>
      change P (List.rdropWhile p (cs ++ [c]))
      by_cases hDropped : p c = true
      · rw [List.rdropWhile_concat_pos p cs c hDropped]
        exact ih (hStep cs c hDropped hText)
      · rw [List.rdropWhile_concat_neg p cs c hDropped]
        exact hText

/- Only blanks are cut off at the end. -/
theorem exists_trimEnd_append (s : String) :
    ∃ blanks,
      (∀ c ∈ blanks, isBlank c = true) ∧
        (trimEnd s).toList ++ blanks = s.toList := by
  rcases exists_dropEnd_append isBlank s.toList with
    ⟨blanks, hChars, hBlank⟩
  refine ⟨blanks, hBlank, ?_⟩
  rw [trimEnd, String.toList_ofList]
  exact hChars.symm

theorem mem_of_mem_trimEnd
    {c : Char}
    {s : String}
    (hMember : c ∈ (trimEnd s).toList) :
    c ∈ s.toList := by
  rcases exists_trimEnd_append s with ⟨blanks, -, hWhole⟩
  rw [← hWhole]
  exact List.mem_append_left blanks hMember

end Ends

------------------------------------------------------------
-- Margins
------------------------------------------------------------

/- What is left begins with no blank. -/
theorem dropWhile_trimChars (cs : List Char) :
    (trimChars cs).dropWhile isBlank = trimChars cs := by
  have hHead := List.head?_dropWhile_not isBlank cs
  rcases List.rdropWhile_prefix isBlank
      (cs.dropWhile isBlank) with ⟨margin, hPrefix⟩
  change trimChars cs ++ margin = cs.dropWhile isBlank
    at hPrefix
  rw [← hPrefix] at hHead
  cases hTrimmed : trimChars cs with
  | nil => rfl
  | cons c rest =>
      rw [hTrimmed] at hHead
      exact List.dropWhile_cons_of_neg (by simpa using hHead)

theorem head?_trimChars
    {c : Char}
    {cs : List Char}
    (hFirst : (trimChars cs).head? = some c) :
    isBlank c = false := by
  have hHead := List.head?_dropWhile_not isBlank (trimChars cs)
  rw [dropWhile_trimChars, hFirst] at hHead
  simpa using hHead

theorem getLast?_trimChars
    {c : Char}
    {cs : List Char}
    (hLast : (trimChars cs).getLast? = some c) :
    isBlank c = false :=
  getLast?_dropEnd hLast

/- Margins that are removed are all of the margins. -/
theorem trimChars_trimChars (cs : List Char) :
    trimChars (trimChars cs) = trimChars cs := by
  have hEnd :
      dropEnd isBlank (trimChars cs) = trimChars cs :=
    List.rdropWhile_idempotent isBlank _
  calc
    trimChars (trimChars cs)
      = dropEnd isBlank ((trimChars cs).dropWhile isBlank) :=
          rfl
    _ = dropEnd isBlank (trimChars cs) := by
          rw [dropWhile_trimChars]
    _ = trimChars cs := hEnd

/- Only a text of blanks consists of margins. -/
theorem trimChars_eq_nil_iff {cs : List Char} :
    trimChars cs = [] ↔ cs.all isBlank = true := by
  rw [List.all_eq_true, ← List.dropWhile_eq_nil_iff]
  constructor
  · intro hTrimmed
    have hBlank := List.rdropWhile_eq_nil_iff.mp hTrimmed
    rw [← List.dropWhile_eq_nil_iff,
      List.dropWhile_idempotent] at hBlank
    exact hBlank
  · intro hNone
    unfold trimChars
    rw [hNone]
    rfl

/- A text is what is left of it between two margins. -/
theorem exists_trimChars_append (cs : List Char) :
    ∃ margin ending,
      cs = margin ++ trimChars cs ++ ending ∧
        (∀ c ∈ margin, isBlank c = true) ∧
        ∀ c ∈ ending, isBlank c = true := by
  rcases exists_dropEnd_append isBlank
      (cs.dropWhile isBlank) with ⟨ending, hEnding, hBlank⟩
  refine ⟨cs.takeWhile isBlank, ending, ?_, ?_, hBlank⟩
  · rw [trimChars, List.append_assoc, ← hEnding,
      List.takeWhile_append_dropWhile]
  · intro c hMember
    exact List.mem_takeWhile_imp hMember

theorem mem_of_mem_trimChars
    {c : Char}
    {cs : List Char}
    (hMember : c ∈ trimChars cs) :
    c ∈ cs := by
  rcases exists_trimChars_append cs with
    ⟨margin, ending, hChars, -, -⟩
  rw [hChars]
  exact
    List.mem_append_left _ (List.mem_append_right _ hMember)

/- Margins end at the first and last other characters. -/
theorem trimChars_append
    {c : Char}
    {rest margin : List Char}
    (hFirst : isBlank c = false)
    (hLast : ∀ x ∈ (c :: rest).getLast?, isBlank x = false)
    (hMargin : ∀ x ∈ margin, isBlank x = true)
    (front : List Char) :
    trimChars (front ++ c :: rest ++ margin) =
      front.dropWhile isBlank ++ c :: rest := by
  have hFront :
      (front ++ c :: rest ++ margin).dropWhile isBlank =
        front.dropWhile isBlank ++ c :: rest ++ margin := by
    rw [List.append_assoc, List.dropWhile_append]
    split
    · rename_i hEmpty
      rw [List.isEmpty_iff.mp hEmpty, List.nil_append,
        List.cons_append,
        List.dropWhile_cons_of_neg (by simp [hFirst])]
    · rw [List.append_assoc]
  have hEnd :
      ∀ x ∈ (front.dropWhile isBlank ++ c :: rest).getLast?,
        isBlank x = false := by
    intro x hMember
    apply hLast x
    rw [List.getLast?_append_of_ne_nil _
      (List.cons_ne_nil c rest)] at hMember
    exact hMember
  rw [trimChars, hFront, dropEnd_append hMargin hEnd]

/- An ending is removed after the margin that follows it. -/
theorem dropEnd_trimChars
    {p : Char → Bool}
    {c : Char}
    {rest ending margin : List Char}
    (hFirst : isBlank c = false)
    (hLast : ∀ x ∈ (c :: rest).getLast?, p x = false)
    (hSome : ending ≠ [])
    (hEnding : ∀ x ∈ ending, p x = true ∧ isBlank x = false)
    (hMargin : ∀ x ∈ margin, isBlank x = true)
    (front : List Char) :
    dropEnd p
        (trimChars
          (front ++ c :: rest ++ ending ++ margin)) =
      front.dropWhile isBlank ++ c :: rest := by
  have hLastEnd :
      ∀ x ∈ (c :: (rest ++ ending)).getLast?,
        isBlank x = false := by
    intro x hMember
    rw [← List.cons_append,
      List.getLast?_append_of_ne_nil _ hSome] at hMember
    exact (hEnding x (List.mem_of_getLast? hMember)).2
  have hTrim :
      trimChars (front ++ c :: rest ++ ending ++ margin) =
        front.dropWhile isBlank ++ c :: rest ++ ending := by
    have hWhole :=
      trimChars_append hFirst hLastEnd hMargin front
    simpa using hWhole
  rw [hTrim]
  apply dropEnd_append
  · intro x hMember
    exact (hEnding x hMember).1
  · intro x hMember
    rw [List.getLast?_append_of_ne_nil _
      (List.cons_ne_nil c rest)] at hMember
    exact hLast x hMember

/- A text whose ends are not blank has no margins. -/
theorem trimChars_eq_self
    {cs : List Char}
    (hFirst : ∀ c ∈ cs.head?, isBlank c = false)
    (hLast : ∀ c ∈ cs.getLast?, isBlank c = false) :
    trimChars cs = cs := by
  cases cs with
  | nil => rfl
  | cons c rest =>
      have hTrim :=
        trimChars_append (hFirst c rfl) hLast
          (List.forall_mem_nil _) []
      simpa using hTrim

------------------------------------------------------------
-- Trimmed Texts
------------------------------------------------------------

theorem trim_trim (s : String) : trim (trim s) = trim s := by
  unfold trim
  rw [String.toList_ofList, trimChars_trimChars]

theorem isVoid_trim (s : String) :
    isVoid (trim s) = isVoid s := by
  unfold isVoid trim
  rw [String.toList_ofList, Bool.eq_iff_iff,
    ← trimChars_eq_nil_iff, trimChars_trimChars,
    trimChars_eq_nil_iff]

theorem trim_eq_empty_iff {s : String} :
    trim s = "" ↔ isVoid s = true := by
  rw [isVoid, ← trimChars_eq_nil_iff, trim,
    ← String.toList_inj, String.toList_ofList,
    String.toList_empty]

/- A text without margins does not begin with a blank. -/
theorem head?_of_trim_eq
    {s : String}
    (hTrim : trim s = s)
    {c : Char}
    (hFirst : s.toList.head? = some c) :
    isBlank c = false := by
  rw [← hTrim, trim, String.toList_ofList] at hFirst
  exact head?_trimChars hFirst

/- A text without margins does not end in a blank. -/
theorem getLast?_of_trim_eq
    {s : String}
    (hTrim : trim s = s)
    {c : Char}
    (hLast : s.toList.getLast? = some c) :
    isBlank c = false := by
  rw [← hTrim, trim, String.toList_ofList] at hLast
  exact getLast?_trimChars hLast

end Text

end KbConsole
