import KbConsole.Proofs.Parts
import KbConsole.Server.Rejection

/-
  What the patterns of messages stand for.

  A pattern stands for the pieces of text that it writes: a
  phrase writes itself, and a phrase with others after it
  writes both with anything between them that does not end
  the line. A text contains a pattern when one of these
  pieces occurs in it.

  Key definitions include:
    * `Pattern.start`
    * `Pattern.Writes`
    * `Pattern.Matches`
    * `Pattern.IsPlain`

  The main statements are `Pattern.occursIn_iff_matches` and
  `Pattern.matches_label`: before a text whose own starts
  are none of the pattern's, a text may be put with a colon
  between them.
-/

namespace KbConsole

------------------------------------------------------------
-- First Occurrences
------------------------------------------------------------

section FirstOccurrences

variable {part cs rest : List Char}

theorem afterFirst?_eq_none_iff :
    afterFirst? part cs = none ↔ ¬ part <:+: cs := by
  induction cs with
  | nil =>
      rw [afterFirst?, ← Option.not_isSome_iff_eq_none,
        Text.isSome_after?_iff, List.prefix_nil,
        List.infix_nil]
  | cons c cs ih =>
      rw [afterFirst?, Option.or_eq_none_iff, ih,
        ← Option.not_isSome_iff_eq_none,
        Text.isSome_after?_iff, List.infix_cons_iff, not_or]

/-
  What follows the first occurrence ends with whatever
  follows another one.
-/
theorem suffix_of_afterFirst?
    (hFirst : afterFirst? part cs = some rest) :
    part ++ rest <:+ cs ∧
      ∀ other, part ++ other <:+ cs → other <:+ rest := by
  induction cs with
  | nil =>
      rw [afterFirst?, Text.after?_eq_some_iff] at hFirst
      rw [← hFirst]
      refine ⟨List.suffix_refl [], ?_⟩
      intro other hOther
      rw [List.suffix_nil, List.append_eq_nil_iff] at hOther
      rw [hOther.2]
      exact List.nil_suffix
  | cons c cs ih =>
      rw [afterFirst?, Option.or_eq_some_iff] at hFirst
      rcases hFirst with hHere | ⟨hNone, hLater⟩
      · rw [Text.after?_eq_some_iff] at hHere
        rw [hHere]
        refine ⟨List.suffix_refl _, ?_⟩
        intro other hOther
        have hLength := hOther.length_le
        rw [List.length_append, List.length_append] at hLength
        exact
          List.suffix_of_suffix_length_le
            ((List.suffix_append part other).trans hOther)
            (List.suffix_append part rest) (by omega)
      · rcases ih hLater with ⟨hSuffix, hOthers⟩
        refine ⟨hSuffix.trans (List.suffix_cons c cs), ?_⟩
        intro other hOther
        rcases List.suffix_cons_iff.mp hOther with
          hHere | hBehind
        · rw [eq_comm, ← Text.after?_eq_some_iff, hNone]
            at hHere
          cases hHere
        · exact hOthers other hBehind

end FirstOccurrences

namespace Pattern

------------------------------------------------------------
-- Pieces of a Pattern
------------------------------------------------------------

/- What every piece of a pattern starts with. -/
def start : Pattern → List Char
  | phrase text => text.toList
  | followed first _ => first.toList

/- What has to come after the start on the same line. -/
def later : Pattern → List String
  | phrase _ => []
  | followed _ later => later

/- The pieces of text that a pattern stands for. -/
inductive Writes : Pattern → List Char → Prop where
  | phrase (text : String) : Writes (.phrase text) text.toList
  | followed
      (first : String)
      {later : List String}
      {gap : List Char}
      {last : String}
      (hGap : ∀ c ∈ gap, isLineEnd c = false)
      (hLast : last ∈ later) :
      Writes (.followed first later)
        (first.toList ++ (gap ++ last.toList))

/- A text contains one of the pieces. -/
def Matches (p : Pattern) (cs : List Char) : Prop :=
  ∃ piece, p.Writes piece ∧ piece <:+: cs

/-
  A pattern that does not start with a blank, whose start
  holds no colon, and that is written on one line.
-/
structure IsPlain (p : Pattern) : Prop where
  first : ∀ c ∈ p.start.head?, c ≠ ' '
  notEmpty : p.start ≠ []
  noColon : ':' ∉ p.start
  oneLine : ∀ c ∈ p.start, isLineEnd c = false
  laterLine :
    ∀ last ∈ p.later, ∀ c ∈ last.toList, isLineEnd c = false

/-
  The characters are checked by `List.all`, since a bounded
  quantifier may be decided by trying every character.
-/
instance (p : Pattern) : Decidable p.IsPlain :=
  decidable_of_iff
    (p.start.head? ≠ some ' ' ∧ p.start ≠ [] ∧
      ':' ∉ p.start ∧
      p.start.all (fun c => !isLineEnd c) = true ∧
      ∀ last ∈ p.later,
        last.toList.all (fun c => !isLineEnd c) = true) (by
    simp only [List.all_eq_true, Bool.not_eq_true']
    constructor
    · rintro ⟨hFirst, hSome, hColon, hStart, hLater⟩
      exact
        { first := fun c hMember hBlank =>
            hFirst (hBlank ▸ hMember)
          notEmpty := hSome
          noColon := hColon
          oneLine := hStart
          laterLine := hLater }
    · intro hPlain
      exact
        ⟨fun hBlank => hPlain.first ' ' hBlank rfl,
          hPlain.notEmpty, hPlain.noColon, hPlain.oneLine,
          hPlain.laterLine⟩)

variable {p : Pattern}
variable {piece cs : List Char}

theorem Writes.exists_start
    (hWrites : p.Writes piece) :
    ∃ rest, piece = p.start ++ rest := by
  cases hWrites with
  | phrase text => exact ⟨[], (List.append_nil _).symm⟩
  | followed first hGap hLast => exact ⟨_, rfl⟩

/- No piece of a plain pattern ends a line. -/
theorem Writes.oneLine
    (hWrites : p.Writes piece)
    (hPlain : p.IsPlain) :
    ∀ c ∈ piece, isLineEnd c = false := by
  cases hWrites with
  | phrase text => exact hPlain.oneLine
  | followed first hGap hLast =>
      rw [List.forall_mem_append, List.forall_mem_append]
      exact
        ⟨hPlain.oneLine, hGap, hPlain.laterLine _ hLast⟩

theorem matches_phrase_iff {text : String} :
    Matches (.phrase text) cs ↔ text.toList <:+: cs := by
  constructor
  · rintro ⟨piece, hWrites, hPiece⟩
    cases hWrites
    exact hPiece
  · intro hPiece
    exact ⟨_, .phrase text, hPiece⟩

/- What a text contains, a longer text contains. -/
theorem Matches.mono
    (hMatches : p.Matches cs)
    {others : List Char}
    (hInfix : cs <:+: others) :
    p.Matches others := by
  rcases hMatches with ⟨piece, hWrites, hPiece⟩
  exact ⟨piece, hWrites, hPiece.trans hInfix⟩

------------------------------------------------------------
-- Search
------------------------------------------------------------

/- Within one line, it is enough to look behind the first. -/
theorem followedIn_iff
    {first : String}
    {later : List String}
    {line : List Char}
    (hLine : ∀ c ∈ line, isLineEnd c = false) :
    followedIn first later line = true ↔
      Matches (.followed first later) line := by
  constructor
  · intro hFollowed
    unfold followedIn at hFollowed
    split at hFollowed
    · cases hFollowed
    · rename_i rest hFirst
      rcases List.any_eq_true.mp hFollowed with
        ⟨last, hLast, hOccurs⟩
      rcases Text.occursIn_iff.mp hOccurs with
        ⟨gap, behind, rfl⟩
      have hSuffix := (suffix_of_afterFirst? hFirst).1
      refine
        ⟨_, @Writes.followed first later gap last ?_ hLast, ?_⟩
      · intro c hMember
        apply hLine c
        exact hSuffix.subset (by simp [hMember])
      · have hPrefix :
            first.toList ++ (gap ++ last.toList) <+:
              first.toList ++ (gap ++ last.toList ++ behind) :=
          (List.prefix_append_right_inj _).mpr
            (List.prefix_append _ _)
        exact hPrefix.isInfix.trans hSuffix.isInfix
  · rintro ⟨piece, hWrites, hPiece⟩
    cases hWrites with
    | @followed _ _ gap last hGap hLast =>
        rcases hPiece with ⟨before, behind, hText⟩
        have hSuffix :
            first.toList ++ (gap ++ last.toList ++ behind) <:+
              line :=
          ⟨before, by rw [← hText]; simp⟩
        unfold followedIn
        split
        · rename_i hNone
          have hFirst :=
            (List.prefix_append first.toList
              (gap ++ last.toList ++ behind)).isInfix
          exact absurd (hFirst.trans hSuffix.isInfix)
            (afterFirst?_eq_none_iff.mp hNone)
        · rename_i rest hFirst
          have hBehind :=
            (suffix_of_afterFirst? hFirst).2 _ hSuffix
          have hOccurs : last.toList <:+: rest :=
            List.IsInfix.trans ⟨gap, behind, rfl⟩ hBehind.isInfix
          exact List.any_eq_true.mpr
            ⟨last, hLast, Text.occursIn_iff.mpr hOccurs⟩

/- A text is searched for what its patterns stand for. -/
theorem occursIn_iff_matches (hPlain : p.IsPlain) :
    p.occursIn cs = true ↔ p.Matches cs := by
  cases p with
  | phrase text =>
      rw [occursIn, matches_phrase_iff, Text.occursIn_iff]
  | followed first later =>
      have hLine (line : List Char)
          (hMember : line ∈ Text.splitBy isLineEnd cs) :
          followedIn first later line = true ↔
            Matches (.followed first later) line :=
        followedIn_iff fun c hChar =>
          Text.not_of_mem_splitBy hMember hChar
      rw [occursIn, List.any_eq_true]
      constructor
      · rintro ⟨line, hMember, hFollowed⟩
        rcases (hLine line hMember).mp hFollowed with
          ⟨piece, hWrites, hPiece⟩
        refine ⟨piece, hWrites, ?_⟩
        rw [← Text.exists_infix_splitBy_iff
          (hWrites.oneLine hPlain)]
        exact ⟨line, hMember, hPiece⟩
      · rintro ⟨piece, hWrites, hPiece⟩
        rw [← Text.exists_infix_splitBy_iff
          (hWrites.oneLine hPlain)] at hPiece
        rcases hPiece with ⟨line, hMember, hPiece⟩
        exact
          ⟨line, hMember,
            (hLine line hMember).mpr ⟨piece, hWrites, hPiece⟩⟩

------------------------------------------------------------
-- Texts behind a Label
------------------------------------------------------------

/-
  A label in which no piece starts changes nothing about the
  text behind it. A piece may reach over the colon, but only
  when it starts before it.
-/
theorem matches_label
    (hPlain : p.IsPlain)
    {label : List Char}
    (hLabel : ¬ p.start <:+: label) :
    p.Matches (label ++ ':' :: ' ' :: cs) ↔ p.Matches cs := by
  constructor
  · rintro ⟨piece, hWrites, hPiece⟩
    refine ⟨piece, hWrites, ?_⟩
    rcases hWrites.exists_start with ⟨rest, rfl⟩
    rcases Text.infix_or_infix hPlain.notEmpty hPlain.noColon
        hPiece with hFront | hBehind
    · exact absurd hFront hLabel
    · rcases List.infix_cons_iff.mp hBehind with
        hBlank | hText
      · rcases List.exists_cons_of_ne_nil hPlain.notEmpty with
          ⟨c, others, hStart⟩
        rw [hStart, List.cons_append, List.cons_prefix_cons]
          at hBlank
        have hFirst := hPlain.first c (by rw [hStart]; rfl)
        exact absurd hBlank.1 hFirst
      · exact hText
  · intro hMatches
    apply hMatches.mono
    exact ((List.suffix_cons ' ' cs).trans
      ((List.suffix_cons ':' _).trans
        (List.suffix_append label _))).isInfix

end Pattern

end KbConsole
