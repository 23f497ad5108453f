import KbConsole.Proofs.Characters
import KbConsole.Text.Blank
import KbConsole.Text.Letter
import Mathlib.Data.List.Infix

/-
  Where a text stands in another one, and the parts of a
  text between separators.

  Key definitions include:
    * `Text.IsDivided`

  The main statements are `Text.occursIn_iff`, and
  `Text.isDivided_splitOn` with `Text.splitOn_intercalate`:
  a text is divided in one way only. A separator is no part
  of what is looked for, so that what is found stands on one
  side of it (`Text.infix_or_infix`) or between two of them
  (`Text.exists_infix_splitBy_iff`).
-/

namespace KbConsole

namespace Text

------------------------------------------------------------
-- Starts
------------------------------------------------------------

/- What follows a start is the rest of the text. -/
theorem after?_eq_some_iff {start cs rest : List Char} :
    after? start cs = some rest ↔ cs = start ++ rest := by
  induction start generalizing cs with
  | nil => simp [after?]
  | cons a start ih =>
      cases cs with
      | nil => simp [after?]
      | cons c cs =>
          rw [after?, List.cons_append, List.cons.injEq]
          by_cases hEq : a = c
          · simp [hEq, ih]
          · simp [hEq, Ne.symm hEq]

theorem isSome_after?_iff {start cs : List Char} :
    (after? start cs).isSome = true ↔ start <+: cs := by
  rw [Option.isSome_iff_exists]
  simp only [after?_eq_some_iff]
  exact exists_congr fun rest => eq_comm

------------------------------------------------------------
-- Occurrences
------------------------------------------------------------

/- What occurs in a text is a piece of it. -/
theorem occursIn_iff {part cs : List Char} :
    occursIn part cs = true ↔ part <:+: cs := by
  induction cs with
  | nil =>
      rw [occursIn, List.isEmpty_iff, List.infix_nil]
  | cons c cs ih =>
      rw [occursIn, Bool.or_eq_true, List.isPrefixOf_iff_prefix,
        ih, List.infix_cons_iff]

section Separators

variable {start rest xs ys : List Char}
variable {c : Char}

/- A start without the separator ends before it. -/
theorem prefix_of_prefix_append_cons
    (hNone : c ∉ start)
    (hStart : start <+: xs ++ c :: ys) :
    start <+: xs := by
  rcases List.prefix_or_prefix_of_prefix hStart
      (List.prefix_append xs (c :: ys)) with
    hShort | ⟨after, rfl⟩
  · exact hShort
  · rw [List.prefix_append_right_inj] at hStart
    cases after with
    | nil => rw [List.append_nil]
    | cons d after =>
        obtain rfl : d = c := (List.cons_prefix_cons.mp hStart).1
        exact absurd (by simp) hNone

/-
  A piece that starts with something else than the separator
  starts before the separator, or all of it stands behind.
-/
theorem infix_or_infix
    (hSome : start ≠ [])
    (hNone : c ∉ start)
    (hPiece : start ++ rest <:+: xs ++ c :: ys) :
    start <:+: xs ∨ start ++ rest <:+: ys := by
  induction xs with
  | nil =>
      rw [List.nil_append, List.infix_cons_iff] at hPiece
      rcases hPiece with hFirst | hLater
      · have hNil : start <+: ([] : List Char) :=
          prefix_of_prefix_append_cons hNone
            ((List.prefix_append start rest).trans hFirst)
        exact absurd (List.prefix_nil.mp hNil) hSome
      · exact Or.inr hLater
  | cons x xs ih =>
      rw [List.cons_append, List.infix_cons_iff] at hPiece
      rcases hPiece with hFirst | hLater
      · have hStart : start <+: x :: xs :=
          prefix_of_prefix_append_cons hNone
            ((List.prefix_append start rest).trans hFirst)
        exact Or.inl hStart.isInfix
      · rcases ih hLater with hFront | hBehind
        · exact Or.inl (List.infix_cons hFront)
        · exact Or.inr hBehind

/- A piece without the separator stands on one side of it. -/
theorem infix_append_cons_iff (hNone : c ∉ start) :
    start <:+: xs ++ c :: ys ↔
      start <:+: xs ∨ start <:+: ys := by
  constructor
  · intro hPiece
    by_cases hSome : start = []
    · subst hSome
      exact Or.inl List.nil_infix
    · rw [← List.append_nil start] at hPiece
      rcases infix_or_infix hSome hNone hPiece with
        hFront | hBehind
      · exact Or.inl hFront
      · exact Or.inr (by simpa using hBehind)
  · rintro (hFront | hBehind)
    · exact hFront.trans (List.prefix_append xs _).isInfix
    · exact (List.infix_cons hBehind).trans
        (List.suffix_append xs _).isInfix

end Separators

------------------------------------------------------------
-- Parts
------------------------------------------------------------

section Parts

variable {p : Char → Bool}

/- A text without separators is one part. -/
theorem splitBy_of_forall
    {cs : List Char}
    (hNone : ∀ c ∈ cs, p c = false) :
    splitBy p cs = [cs] := by
  induction cs with
  | nil => rfl
  | cons c cs ih =>
      rw [splitBy, if_neg (by simp [hNone c]),
        ih fun d hMember =>
          hNone d (List.mem_cons_of_mem c hMember)]

/- The part before a separator comes first. -/
theorem splitBy_append_cons
    {front : List Char}
    (hNone : ∀ c ∈ front, p c = false)
    {c : Char}
    (hSeparator : p c = true)
    (rest : List Char) :
    splitBy p (front ++ c :: rest) =
      front :: splitBy p rest := by
  induction front with
  | nil => rw [List.nil_append, splitBy, if_pos hSeparator]
  | cons d front ih =>
      rw [List.cons_append, splitBy, if_neg (by simp [hNone d]),
        ih fun e hMember =>
          hNone e (List.mem_cons_of_mem d hMember)]

/-
  Every text is one part, or one part, a separator and a
  text that is shorter.
-/
theorem parts_induction
    {motive : List Char → Prop}
    (last :
      ∀ part, (∀ c ∈ part, p c = false) → motive part)
    (next :
      ∀ part c rest, (∀ d ∈ part, p d = false) →
        p c = true → motive rest →
          motive (part ++ c :: rest))
    (cs : List Char) :
    motive cs := by
  have hFront (front : List Char) :
      (∀ c ∈ front, p c = false) → motive (front ++ cs) := by
    induction cs generalizing front with
    | nil =>
        intro hNone
        rw [List.append_nil]
        exact last front hNone
    | cons c cs ih =>
        intro hNone
        cases hSeparator : p c with
        | true =>
            exact next front c cs hNone hSeparator
              (ih [] (List.forall_mem_nil _))
        | false =>
            have hLonger := ih (front ++ [c])
            rw [List.append_assoc, List.singleton_append]
              at hLonger
            apply hLonger
            rw [List.forall_mem_append, List.forall_mem_singleton]
            exact ⟨hNone, hSeparator⟩
  exact hFront [] (List.forall_mem_nil _)

theorem splitBy_ne_nil (cs : List Char) :
    splitBy p cs ≠ [] := by
  induction cs using parts_induction (p := p) with
  | last part hNone =>
      rw [splitBy_of_forall hNone]
      exact List.cons_ne_nil part []
  | next part c rest hNone hSeparator ih =>
      rw [splitBy_append_cons hNone hSeparator]
      exact List.cons_ne_nil part _

/- Separators are in none of the parts between them. -/
theorem not_of_mem_splitBy
    {cs part : List Char}
    (hPart : part ∈ splitBy p cs)
    {c : Char}
    (hMember : c ∈ part) :
    p c = false := by
  induction cs using parts_induction (p := p) with
  | last only hNone =>
      rw [splitBy_of_forall hNone, List.mem_singleton] at hPart
      subst hPart
      exact hNone c hMember
  | next first d rest hNone hSeparator ih =>
      rw [splitBy_append_cons hNone hSeparator, List.mem_cons]
        at hPart
      rcases hPart with rfl | hLater
      · exact hNone c hMember
      · exact ih hLater

/- A piece without separators stands within one part. -/
theorem exists_infix_splitBy_iff
    {piece : List Char}
    (hNone : ∀ c ∈ piece, p c = false)
    (cs : List Char) :
    (∃ part ∈ splitBy p cs, piece <:+: part) ↔
      piece <:+: cs := by
  induction cs using parts_induction (p := p) with
  | last part hPart =>
      rw [splitBy_of_forall hPart]
      simp
  | next part c rest hPart hSeparator ih =>
      have hOther : c ∉ piece := by
        intro hMember
        rw [hNone c hMember] at hSeparator
        cases hSeparator
      rw [splitBy_append_cons hPart hSeparator,
        infix_append_cons_iff hOther, ← ih]
      simp

end Parts

------------------------------------------------------------
-- Division
------------------------------------------------------------

/- Lines that are put under one another are read back. -/
theorem splitOn_intercalate
    {c : Char}
    {parts : List String}
    (hSome : parts ≠ [])
    (hNone : ∀ part ∈ parts, c ∉ part.toList) :
    splitOn c ((String.singleton c).intercalate parts) =
      parts := by
  unfold splitOn
  induction parts with
  | nil => exact absurd rfl hSome
  | cons part parts ih =>
      rw [List.forall_mem_cons] at hNone
      have hPart : ∀ d ∈ part.toList, (d == c) = false := by
        intro d hMember
        rw [beq_eq_false_iff_ne]
        rintro rfl
        exact hNone.1 hMember
      cases parts with
      | nil =>
          rw [String.intercalate_singleton,
            splitBy_of_forall hPart, List.map_singleton,
            String.ofList_toList]
      | cons next parts =>
          have hLater := ih (List.cons_ne_nil _ _) hNone.2
          have hText :
              ((String.singleton c).intercalate
                (part :: next :: parts)).toList =
                part.toList ++ c ::
                  ((String.singleton c).intercalate
                    (next :: parts)).toList := by
            rw [String.intercalate_cons_cons]
            simp
          rw [hText,
            splitBy_append_cons hPart (beq_self_eq_true c),
            List.map_cons, String.ofList_toList, hLater]

/-
  A text that consists of parts with a separator between
  them. There is a part, and none of them holds the
  separator.
-/
structure IsDivided
    (c : Char)
    (s : String)
    (parts : List String) : Prop where
  notEmpty : parts ≠ []
  noSeparator : ∀ part ∈ parts, c ∉ part.toList
  joined : s = (String.singleton c).intercalate parts

/- The parts of a text, put together, are the text. -/
theorem isDivided_splitOn (c : Char) (s : String) :
    IsDivided c s (splitOn c s) where
  notEmpty := by
    unfold splitOn
    rw [Ne, List.map_eq_nil_iff]
    exact splitBy_ne_nil s.toList
  noSeparator := by
    intro part hPart hMember
    rcases List.mem_map.mp hPart with ⟨cs, hSplit, rfl⟩
    rw [String.toList_ofList] at hMember
    have hOther := not_of_mem_splitBy hSplit hMember
    rw [beq_self_eq_true] at hOther
    cases hOther
  joined := by
    rw [← String.toList_inj]
    unfold splitOn
    induction s.toList using
        parts_induction (p := (· == c)) with
    | last part hNone =>
        rw [splitBy_of_forall hNone, List.map_singleton,
          String.intercalate_singleton, String.toList_ofList]
    | next part d rest hNone hSeparator ih =>
        obtain rfl : d = c := by simpa using hSeparator
        rw [splitBy_append_cons hNone hSeparator, List.map_cons]
        rcases List.exists_cons_of_ne_nil
            (splitBy_ne_nil (p := (· == d)) rest) with
          ⟨first, others, hSplit⟩
        rw [hSplit, List.map_cons] at ih ⊢
        rw [String.intercalate_cons_cons, String.toList_append,
          String.toList_append, ← ih, String.toList_ofList]
        simp

end Text

end KbConsole
