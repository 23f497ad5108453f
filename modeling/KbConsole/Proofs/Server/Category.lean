import KbConsole.Outcome
import KbConsole.Proofs.Server.Pattern
import Mathlib.Data.List.Forall2

/-
  The categories of messages.

  A category is that of a message if no category before it
  fits, and it fits itself or is the last one. This does not
  change with the case of letters, and it does not change
  when the category is put before the message: no name of a
  category starts a pattern of an earlier one.

  Key definitions include:
    * `Text.EqualUpToCase`
    * `Category.earlier`

  The main statements are `Category.ofMessage_eq_iff` and
  `Category.ofMessage_stable`.
-/

namespace KbConsole

------------------------------------------------------------
-- Case of Letters
------------------------------------------------------------

namespace Text

/- Texts that differ in the case of their letters only. -/
def EqualUpToCase (s t : String) : Prop :=
  List.Forall₂
    (fun c d => d = c ∨ d = c.toLower ∨ d = c.toUpper)
    s.toList t.toList

theorem EqualUpToCase.lower_eq
    {s t : String}
    (hEqual : EqualUpToCase s t) :
    lower t = lower s := by
  have hChars :
      List.Forall₂ (fun c d => Char.toLower c = Char.toLower d)
        s.toList t.toList := by
    apply List.Forall₂.imp _ hEqual
    rintro c d (rfl | rfl | rfl)
    · rfl
    · exact toLower_toLower.symm
    · exact toLower_toUpper.symm
  have hMap :
      List.Forall₂ (· = ·) (s.toList.map Char.toLower)
        (t.toList.map Char.toLower) := by
    rw [List.forall₂_map_left_iff, List.forall₂_map_right_iff]
    exact hChars
  rw [List.forall₂_eq_eq_eq] at hMap
  rw [lower, lower, hMap]

theorem toList_lower_append (s t : String) :
    (lower (s ++ t)).toList =
      (lower s).toList ++ (lower t).toList := by
  simp [lower]

end Text

------------------------------------------------------------
-- First Match
------------------------------------------------------------

/-
  The first match, or else the last resort: nothing before
  it matches.
-/
theorem getD_find?_eq_iff
    {α : Type}
    [DecidableEq α]
    {l : List α}
    {p : α → Bool}
    {last a : α}
    (hLast : last ∉ l) :
    (l.find? p).getD last = a ↔
      (∀ b ∈ l.takeWhile (· != a), p b = false) ∧
        (a = last ∨ a ∈ l ∧ p a = true) := by
  induction l with
  | nil =>
      rw [List.find?_nil, Option.getD_none, eq_comm]
      simp
  | cons b l ih =>
      rw [List.mem_cons, not_or] at hLast
      cases hMatch : p b with
      | true =>
          rw [List.find?_cons_of_pos hMatch, Option.getD_some]
          by_cases hEq : b = a
          · subst hEq
            simp [hMatch]
          · simp [hEq, hMatch]
      | false =>
          rw [List.find?_cons_of_neg (by simp [hMatch]),
            ih hLast.2]
          by_cases hEq : b = a
          · subst hEq
            simp [hMatch, Ne.symm hLast.1]
          · simp [hEq, hMatch, Ne.symm hEq]

namespace Category

/- The categories that are tried before another one. -/
def earlier (c : Category) : List Category :=
  tried.takeWhile (· != c)

theorem eq_other_or_mem_tried (c : Category) :
    c = other ∨ c ∈ tried := by
  cases c <;> decide +kernel

/-
  The category of a message fits it, unless it is the last
  one, and none before it does.
-/
theorem ofMessage_eq_iff {message : String} {c : Category} :
    ofMessage message = c ↔
      (∀ d ∈ c.earlier, fits message d = false) ∧
        (c = other ∨ fits message c = true) := by
  rw [ofMessage, getD_find?_eq_iff (by decide), earlier]
  constructor
  · rintro ⟨hEarlier, hLast | ⟨-, hFits⟩⟩
    · exact ⟨hEarlier, Or.inl hLast⟩
    · exact ⟨hEarlier, Or.inr hFits⟩
  · rintro ⟨hEarlier, hCategory⟩
    refine ⟨hEarlier, ?_⟩
    rcases eq_other_or_mem_tried c with hLast | hTried
    · exact Or.inl hLast
    · exact hCategory.imp_right fun hFits => ⟨hTried, hFits⟩

------------------------------------------------------------
-- Patterns of a Category
------------------------------------------------------------

variable {message : String}
variable {c d : Category}
variable {p : Pattern}

theorem isPlain_of_mem (hPattern : p ∈ c.patterns) :
    p.IsPlain := by
  have hAll : ∀ q ∈ c.patterns, q.IsPlain := by
    cases c <;> decide +kernel
  exact hAll p hPattern

theorem fits_iff :
    fits message c = true ↔
      ∃ p ∈ c.patterns,
        p.Matches (Text.lower message).toList := by
  rw [fits, List.any_eq_true]
  constructor
  · rintro ⟨p, hPattern, hOccurs⟩
    exact
      ⟨p, hPattern,
        (Pattern.occursIn_iff_matches
          (isPlain_of_mem hPattern)).mp hOccurs⟩
  · rintro ⟨p, hPattern, hMatches⟩
    exact
      ⟨p, hPattern,
        (Pattern.occursIn_iff_matches
          (isPlain_of_mem hPattern)).mpr hMatches⟩

/- The name of a category starts no earlier pattern. -/
theorem not_start_infix_label
    (hEarlier : d ∈ c.earlier)
    (hPattern : p ∈ d.patterns) :
    ¬ p.start <:+: (Text.lower c.label).toList := by
  have hAll :
      ∀ e ∈ c.earlier, ∀ q ∈ e.patterns,
        Text.occursIn q.start (Text.lower c.label).toList =
          false := by
    cases c <;> decide +kernel
  rw [← Text.occursIn_iff, hAll d hEarlier p hPattern]
  exact Bool.false_ne_true

------------------------------------------------------------
-- Stability
------------------------------------------------------------

theorem toList_lower_labelled (c : Category) :
    (Text.lower (c.label ++ ": " ++ message)).toList =
      (Text.lower c.label).toList ++
        ':' :: ' ' :: (Text.lower message).toList := by
  rw [String.append_assoc, Text.toList_lower_append,
    Text.toList_lower_append]
  rfl

/- Before a category, its name makes no difference. -/
theorem fits_labelled_of_mem_earlier
    (hEarlier : d ∈ c.earlier) :
    fits (c.label ++ ": " ++ message) d = fits message d := by
  rw [Bool.eq_iff_iff, fits_iff, fits_iff,
    toList_lower_labelled]
  apply exists_congr
  intro p
  apply and_congr_right
  intro hPattern
  exact
    Pattern.matches_label (isPlain_of_mem hPattern)
      (not_start_infix_label hEarlier hPattern)

/- A category that fits a text fits it under any name. -/
theorem fits_labelled
    (hFits : fits message c = true) :
    fits (d.label ++ ": " ++ message) c = true := by
  rw [fits_iff] at hFits ⊢
  rcases hFits with ⟨p, hPattern, hMatches⟩
  refine ⟨p, hPattern, hMatches.mono ?_⟩
  rw [toList_lower_labelled]
  exact ((List.suffix_cons ' ' _).trans
    ((List.suffix_cons ':' _).trans
      (List.suffix_append _ _))).isInfix

theorem ofMessage_labelled
    (hCategory : ofMessage message = c) :
    ofMessage (c.label ++ ": " ++ message) = c := by
  rw [ofMessage_eq_iff] at hCategory ⊢
  constructor
  · intro d hEarlier
    rw [fits_labelled_of_mem_earlier hEarlier]
    exact hCategory.1 d hEarlier
  · exact hCategory.2.imp_right fits_labelled

theorem ofMessage_congr
    {other : String}
    (hEqual : Text.EqualUpToCase message other) :
    ofMessage other = ofMessage message := by
  have hFits : fits other = fits message := by
    funext c
    rw [fits, fits, hEqual.lower_eq]
  rw [ofMessage, ofMessage, hFits]

/-
  The category of a message is that of the failure's text,
  which starts with its name, and that of the message in any
  case of letters.
-/
theorem ofMessage_stable (message : String) :
    Outcome.ofRejection (.remote message none) =
        .failure .remoteFailure
          ((ofMessage message).label ++ ": " ++ message) ∧
      Outcome.ofRejection (.other message) =
        .failure .remoteFailure
          ((ofMessage message).label ++ ": " ++ message) ∧
      ofMessage
          ((ofMessage message).label ++ ": " ++ message) =
        ofMessage message ∧
      ∀ other, Text.EqualUpToCase message other →
        ofMessage other = ofMessage message := by
  refine ⟨?_, ?_, ofMessage_labelled rfl, ?_⟩
  · simp [Outcome.ofRejection, Outcome.codeSuffix,
      Rejection.message]
  · simp [Outcome.ofRejection, Outcome.codeSuffix,
      Rejection.message]
  · intro other hEqual
    exact ofMessage_congr hEqual

/- A message in capital letters, and under its category. -/
theorem ofMessage_capitals :
    Text.EqualUpToCase "No such Model" "NO SUCH MODEL" ∧
      ofMessage "NO SUCH MODEL" = creation ∧
      ofMessage
          "model/agent creation failure: No such Model" =
        creation := by
  have hEqual :
      Text.EqualUpToCase "No such Model" "NO SUCH MODEL" := by
    unfold Text.EqualUpToCase
    decide
  have hCreation : ofMessage "No such Model" = creation := by
    decide
  have hStable := ofMessage_stable "No such Model"
  rw [hCreation] at hStable
  exact
    ⟨hEqual, hStable.2.2.2 _ hEqual, hStable.2.2.1⟩

end Category

end KbConsole
