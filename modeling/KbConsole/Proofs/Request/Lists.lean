import KbConsole.Proofs.Request.Names
import KbConsole.Proofs.Sql.Name
import KbConsole.Proofs.Sql.Terminator

/-
  Lists with commas and tables with points, as a user may
  write them.

  There may be any blanks around the parts. They are no part
  of what is read, so that a list is read from each of its
  spellings, and read again from the shortest one.

  Key definitions include:
    * `Text.IsPadded`
    * `Text.IsSpread`
    * `TableRef.IsWrittenAs`

  The main statements are `trimmedParts_eq_iff`,
  `ColumnList.ofText_contract` and
  `TableRef.ofText_eq_ok_iff_isWrittenAs`.
-/

namespace KbConsole

------------------------------------------------------------
-- Margins
------------------------------------------------------------

namespace Text

/- A text with any blanks on both sides of it. -/
def IsPadded (part s : String) : Prop :=
  ∃ margin ending : List Char,
    s.toList = margin ++ part.toList ++ ending ∧
      (∀ c ∈ margin, isBlank c = true) ∧
      ∀ c ∈ ending, isBlank c = true

theorem isPadded_trim (s : String) :
    IsPadded (trim s) s := by
  rcases exists_trimChars_append s.toList with
    ⟨margin, ending, hChars, hMargin, hEnding⟩
  refine ⟨margin, ending, ?_, hMargin, hEnding⟩
  rw [trim, String.toList_ofList]
  exact hChars

theorem isPadded_self (s : String) : IsPadded s s := by
  refine
    ⟨[], [], ?_, List.forall_mem_nil _, List.forall_mem_nil _⟩
  rw [List.nil_append, List.append_nil]

section Padded

variable {part s : String}

/- Without margins of its own, a text is what is trimmed. -/
theorem trim_eq_iff (hTrim : trim part = part) :
    trim s = part ↔ IsPadded part s := by
  constructor
  · rintro rfl
    exact isPadded_trim s
  · rintro ⟨margin, ending, hChars, hMargin, hEnding⟩
    have hNone : margin.dropWhile isBlank = [] :=
      List.dropWhile_eq_nil_iff.mpr hMargin
    rw [trim, ← String.toList_inj, String.toList_ofList, hChars]
    cases hPart : part.toList with
    | nil =>
        rw [trimChars_eq_nil_iff, List.all_eq_true,
          List.append_nil, List.forall_mem_append]
        exact ⟨hMargin, hEnding⟩
    | cons c rest =>
        have hFirst : isBlank c = false :=
          head?_of_trim_eq hTrim (by rw [hPart]; rfl)
        have hLast :
            ∀ d ∈ (c :: rest).getLast?, isBlank d = false := by
          intro d hMember
          rw [← hPart] at hMember
          exact getLast?_of_trim_eq hTrim hMember
        rw [trimChars_append hFirst hLast hEnding, hNone,
          List.nil_append]

/- More blanks may be put on both sides. -/
theorem IsPadded.append
    (hPadded : IsPadded part s)
    {front back : List Char}
    (hFront : ∀ c ∈ front, isBlank c = true)
    (hBack : ∀ c ∈ back, isBlank c = true) :
    IsPadded part
      (String.ofList (front ++ s.toList ++ back)) := by
  rcases hPadded with ⟨margin, ending, hChars, hMargin, hEnding⟩
  refine ⟨front ++ margin, ending ++ back, ?_, ?_, ?_⟩
  · rw [String.toList_ofList, hChars]
    simp only [List.append_assoc]
  · exact List.forall_mem_append.mpr ⟨hFront, hMargin⟩
  · exact List.forall_mem_append.mpr ⟨hEnding, hBack⟩

/- What is no blank is found in the text without margins. -/
theorem IsPadded.not_mem
    (hPadded : IsPadded part s)
    {c : Char}
    (hOther : isBlank c = false)
    (hNone : c ∉ part.toList) :
    c ∉ s.toList := by
  rcases hPadded with ⟨margin, ending, hChars, hMargin, hEnding⟩
  intro hMember
  rw [hChars, List.mem_append, List.mem_append] at hMember
  rcases hMember with (hBefore | hPart) | hAfter
  · rw [hMargin c hBefore] at hOther
    cases hOther
  · exact hNone hPart
  · rw [hEnding c hAfter] at hOther
    cases hOther

theorem forall_not_mem_of_isPadded
    {parts texts : List String}
    (hTexts : List.Forall₂ IsPadded parts texts)
    {c : Char}
    (hOther : isBlank c = false)
    (hNone : ∀ part ∈ parts, c ∉ part.toList) :
    ∀ text ∈ texts, c ∉ text.toList := by
  intro text hText
  rcases exists_of_mem_forall₂ hTexts.flip hText with
    ⟨part, hPart, hPadded⟩
  exact IsPadded.not_mem hPadded hOther (hNone part hPart)

end Padded

------------------------------------------------------------
-- Spread Parts
------------------------------------------------------------

/- Parts with any blanks around them and separators between. -/
def IsSpread
    (c : Char)
    (parts : List String)
    (s : String) : Prop :=
  ∃ texts,
    texts ≠ [] ∧
      List.Forall₂ IsPadded parts texts ∧
      s = (String.singleton c).intercalate texts

section Spread

variable {c : Char}
variable {parts texts : List String}
variable {s : String}

/- Blanks in front belong to the first part. -/
theorem exists_intercalate_front
    (hSome : texts ≠ [])
    (hTexts : List.Forall₂ IsPadded parts texts)
    {front : List Char}
    (hFront : ∀ d ∈ front, isBlank d = true) :
    ∃ others,
      others ≠ [] ∧ List.Forall₂ IsPadded parts others ∧
        ((String.singleton c).intercalate others).toList =
          front ++
            ((String.singleton c).intercalate texts).toList := by
  cases hTexts with
  | nil => exact absurd rfl hSome
  | @cons part text parts texts hPart hRest =>
      have hFirst :=
        hPart.append hFront (List.forall_mem_nil _)
      refine ⟨_, List.cons_ne_nil _ _, .cons hFirst hRest, ?_⟩
      rw [toList_intercalate_cons, toList_intercalate_cons,
        String.toList_ofList, List.append_nil,
        List.append_assoc]

/- Blanks at the end belong to the last part. -/
theorem exists_intercalate_back
    (hSome : texts ≠ [])
    (hTexts : List.Forall₂ IsPadded parts texts)
    {back : List Char}
    (hBack : ∀ d ∈ back, isBlank d = true) :
    ∃ others,
      others ≠ [] ∧ List.Forall₂ IsPadded parts others ∧
        ((String.singleton c).intercalate others).toList =
          ((String.singleton c).intercalate texts).toList ++
            back := by
  induction hTexts with
  | nil => exact absurd rfl hSome
  | @cons part text parts texts hPart hRest ih =>
      cases texts with
      | nil =>
          have hLast :=
            hPart.append (List.forall_mem_nil _) hBack
          refine
            ⟨_, List.cons_ne_nil _ _, .cons hLast hRest, ?_⟩
          rw [String.intercalate_singleton,
            String.intercalate_singleton,
            String.toList_ofList, List.nil_append]
      | cons next texts =>
          rcases ih (List.cons_ne_nil _ _) with
            ⟨others, hOthers, hPadded, hChars⟩
          rcases List.exists_cons_of_ne_nil hOthers with
            ⟨first, rest, rfl⟩
          refine
            ⟨text :: first :: rest, List.cons_ne_nil _ _,
              .cons hPart hPadded, ?_⟩
          rw [String.intercalate_cons_cons,
            String.intercalate_cons_cons]
          simp only [String.toList_append, hChars,
            List.append_assoc]

/- The blanks around a text are around its parts. -/
theorem IsSpread.of_isPadded
    {inner : String}
    (hSpread : IsSpread c parts inner)
    (hPadded : IsPadded inner s) :
    IsSpread c parts s := by
  rcases hSpread with ⟨texts, hSome, hTexts, rfl⟩
  rcases hPadded with ⟨front, back, hChars, hFront, hBack⟩
  rcases exists_intercalate_front (c := c) hSome hTexts
      hFront with
    ⟨middle, hMiddle, hInner, hInnerChars⟩
  rcases exists_intercalate_back (c := c) hMiddle hInner
      hBack with
    ⟨others, hOthers, hOuter, hOuterChars⟩
  refine ⟨others, hOthers, hOuter, ?_⟩
  rw [← String.toList_inj, hOuterChars, hInnerChars, hChars]

/- A character is a separator, blank, or in one of the parts. -/
theorem IsSpread.not_mem
    (hSpread : IsSpread c parts s)
    {d : Char}
    (hSeparator : d ≠ c)
    (hOther : isBlank d = false)
    (hNone : ∀ part ∈ parts, d ∉ part.toList) :
    d ∉ s.toList := by
  rcases hSpread with ⟨texts, hSome, hTexts, rfl⟩
  have hTexts := forall_not_mem_of_isPadded hTexts hOther hNone
  rcases List.exists_cons_of_ne_nil hSome with
    ⟨first, rest, rfl⟩
  rw [List.forall_mem_cons] at hTexts
  rw [toList_intercalate_cons, List.mem_append,
    List.mem_flatMap, not_or]
  refine ⟨hTexts.1, ?_⟩
  rintro ⟨text, hText, hMember⟩
  rw [String.toList_singleton, List.singleton_append,
    List.mem_cons] at hMember
  rcases hMember with hSame | hLater
  · exact hSeparator hSame
  · exact hTexts.2 text hText hLater

/- Between two parts there is a separator. -/
theorem IsSpread.mem
    {first second : String}
    (hSpread : IsSpread c (first :: second :: parts) s) :
    c ∈ s.toList := by
  rcases hSpread with ⟨texts, -, hTexts, rfl⟩
  rcases hTexts with _ | ⟨-, _ | ⟨-, -⟩⟩
  rw [String.intercalate_cons_cons]
  simp

end Spread

end Text

open Text

section Parts

variable {c : Char}
variable {parts : List String}
variable {s : String}

theorem isSpread_trimmedParts (c : Char) (s : String) :
    IsSpread c (trimmedParts c s) s := by
  have hDivided := isDivided_splitOn c s
  refine
    ⟨splitOn c s, hDivided.notEmpty, ?_, hDivided.joined⟩
  rw [trimmedParts, List.forall₂_map_left_iff,
    List.forall₂_same]
  exact fun text _ => isPadded_trim text

/- Texts without margins are all that is left of a text. -/
theorem trimmedParts_eq_iff (hOther : isBlank c = false) :
    trimmedParts c s = parts ↔
      IsSpread c parts s ∧
        ∀ part ∈ parts, trim part = part ∧ c ∉ part.toList := by
  constructor
  · rintro rfl
    exact
      ⟨isSpread_trimmedParts c s,
        fun part => of_mem_trimmedParts⟩
  · rintro ⟨⟨texts, hSome, hTexts, rfl⟩, hParts⟩
    have hNone : ∀ text ∈ texts, c ∉ text.toList :=
      forall_not_mem_of_isPadded hTexts hOther
        fun part hPart => (hParts part hPart).2
    rw [trimmedParts, splitOn_intercalate hSome hNone]
    clear hSome hNone
    induction hTexts with
    | nil => rfl
    | cons hPart _ ih =>
        rw [List.forall_mem_cons] at hParts
        rw [List.map_cons, ih hParts.2,
          (trim_eq_iff hParts.1.1).mpr hPart]

/- The margins of a text are not in its parts. -/
theorem trimmedParts_trim (hOther : isBlank c = false) :
    trimmedParts c (trim s) = trimmedParts c s := by
  symm
  rw [trimmedParts_eq_iff hOther]
  exact
    ⟨(isSpread_trimmedParts c (trim s)).of_isPadded
        (isPadded_trim s),
      fun part => of_mem_trimmedParts⟩

end Parts

------------------------------------------------------------
-- Lists
------------------------------------------------------------

namespace ColumnList

variable {label text : String}
variable {entries : List String}

/- A list has its parts as entries, and none is empty. -/
theorem ofText_eq_ok_iff :
    ofText label text = .ok entries ↔
      trimmedParts ',' text = entries ∧ "" ∉ entries := by
  unfold ofText
  simp only [List.contains_iff_mem]
  split
  · rename_i hEmpty
    constructor
    · intro hError
      cases hError
    · rintro ⟨rfl, hNone⟩
      exact absurd hEmpty hNone
  · rename_i hNone
    rw [Except.ok.injEq]
    constructor
    · rintro rfl
      exact ⟨rfl, hNone⟩
    · exact And.left

/- A part is empty without its margins if it is blank. -/
theorem empty_notMem_iff :
    "" ∉ trimmedParts ',' text ↔
      ∀ part ∈ splitOn ',' text, isVoid part = false := by
  rw [trimmedParts, List.mem_map, not_exists]
  apply forall_congr'
  intro part
  rw [not_and, trim_eq_empty_iff, Bool.not_eq_true]

/- Entries that are put together are read as they were. -/
theorem ofText_joined
    (hProper : IsProper entries)
    (label : String) :
    ofText label (",".intercalate entries) = .ok entries := by
  rw [ofText_eq_ok_iff, trimmedParts_eq_iff rfl]
  refine ⟨⟨⟨entries, hProper.notEmpty, ?_, rfl⟩, ?_⟩, ?_⟩
  · rw [List.forall₂_same]
    exact fun entry _ => isPadded_self entry
  · intro entry hEntry
    exact
      ⟨(hProper.trimmed entry hEntry).trim_eq,
        hProper.noComma entry hEntry⟩
  · intro hEmpty
    exact (hProper.trimmed "" hEmpty).notEmpty rfl

/-
  A text is a list exactly if none of the parts between its
  commas is blank. The list has an entry for each part, the
  part without its margins, and it is read again when its
  entries are put together.
-/
theorem ofText_contract (label text : String) :
    ∃ parts,
      IsDivided ',' text parts ∧
        ((∃ entries, ofText label text = .ok entries) ↔
          ∀ part ∈ parts, isVoid part = false) ∧
        ∀ entries, ofText label text = .ok entries →
          entries = parts.map trim ∧ IsProper entries ∧
            ofText label (",".intercalate entries) =
              .ok entries := by
  refine
    ⟨splitOn ',' text, isDivided_splitOn ',' text, ?_, ?_⟩
  · simp only [ofText_eq_ok_iff, exists_eq_left',
      empty_notMem_iff]
  · intro entries hEntries
    have hProper := isProper_of_ofText hEntries
    exact
      ⟨(ofText_eq_ok_iff.mp hEntries).1.symm, hProper,
        ofText_joined hProper label⟩

end ColumnList

------------------------------------------------------------
-- Tables
------------------------------------------------------------

namespace Identifier

variable {name : Identifier}

/- A blank is part of no name. -/
theorem isBlank_of_mem
    {c : Char}
    (hMember : c ∈ name.text.toList) :
    isBlank c = false := by
  by_cases hUnderscore : c = '_'
  · rw [hUnderscore]
    rfl
  · have hName := isAlphanum_of_mem name hMember hUnderscore
    rw [isAlphanum_iff_toNat] at hName
    simp only [isBlank, Bool.or_eq_false_iff,
      Bool.and_eq_false_iff, decide_eq_false_iff_not,
      beq_eq_false_iff_ne]
    omega

/- A name is not empty and has no margins. -/
theorem isTrimmed (name : Identifier) :
    IsTrimmed name.text where
  notEmpty := by
    intro hEmpty
    rcases name.exists_cons with ⟨c, cs, hChars⟩
    rw [hEmpty] at hChars
    cases hChars
  trim_eq := by
    rcases exists_trimChars_append name.text.toList with
      ⟨margin, ending, hChars, hMargin, hEnding⟩
    have hNone
        (blanks : List Char)
        (hBlanks : ∀ c ∈ blanks, isBlank c = true)
        (hName : ∀ c ∈ blanks, c ∈ name.text.toList) :
        blanks = [] := by
      rw [List.eq_nil_iff_forall_not_mem]
      intro c hMember
      have hOther := isBlank_of_mem (hName c hMember)
      rw [hBlanks c hMember] at hOther
      cases hOther
    have hFront : margin = [] := by
      apply hNone margin hMargin
      intro c hMember
      rw [hChars]
      simp [hMember]
    have hBack : ending = [] := by
      apply hNone ending hEnding
      intro c hMember
      rw [hChars]
      simp [hMember]
    rw [hFront, hBack, List.nil_append, List.append_nil]
      at hChars
    rw [trim, ← hChars, String.ofList_toList]

end Identifier

namespace TableRef

/-
  A table as a user may write it: its datasource, a point
  and its name, with any blanks around both.
-/
def IsWrittenAs (ref : TableRef) (text : String) : Prop :=
  IsSpread '.' [ref.datasource, ref.table] text

/- A table whose parts are names. -/
structure IsSafe (ref : TableRef) : Prop where
  datasource : Identifier.isSafe ref.datasource = true
  table : Identifier.isSafe ref.table = true

variable {label text : String}
variable {ref : TableRef}

theorem ofText_eq_ok_iff :
    ofText label text = .ok ref ↔
      trimmedParts '.' text = [ref.datasource, ref.table] ∧
        ref.datasource ≠ "" ∧ ref.table ≠ "" := by
  unfold ofText
  split
  · rename_i datasource table hParts
    rw [hParts, List.cons.injEq, List.singleton_inj]
    split
    · rename_i hEmpty
      constructor
      · intro hError
        cases hError
      · rintro ⟨⟨rfl, rfl⟩, hNone⟩
        exact absurd hEmpty (not_or.mpr hNone)
    · rename_i hNone
      rw [Except.ok.injEq]
      constructor
      · rintro rfl
        exact ⟨⟨rfl, rfl⟩, not_or.mp hNone⟩
      · rintro ⟨⟨rfl, rfl⟩, -⟩
        rfl
  · rename_i hOther
    constructor
    · intro hError
      cases hError
    · rintro ⟨hParts, -⟩
      exact absurd hParts (hOther _ _)

/- Both parts are read, however they are spaced. -/
theorem IsWrittenAs.trimmedParts_eq
    (hWritten : ref.IsWrittenAs text)
    (hSafe : ref.IsSafe) :
    trimmedParts '.' text = [ref.datasource, ref.table] := by
  let datasource : Identifier := ⟨_, hSafe.datasource⟩
  let table : Identifier := ⟨_, hSafe.table⟩
  rw [trimmedParts_eq_iff rfl]
  refine ⟨hWritten, ?_⟩
  have hName (name : Identifier) :
      trim name.text = name.text ∧ '.' ∉ name.text.toList := by
    refine ⟨name.isTrimmed.trim_eq, ?_⟩
    intro hMember
    exact
      Identifier.ne_of_mem hMember rfl (by decide) rfl
  rw [List.forall_mem_cons, List.forall_mem_singleton]
  exact ⟨hName datasource, hName table⟩

/- A safe table is read from its spellings, and no others. -/
theorem ofText_eq_ok_iff_isWrittenAs
    (hSafe : ref.IsSafe)
    (label : String) :
    ofText label text = .ok ref ↔ ref.IsWrittenAs text := by
  rw [ofText_eq_ok_iff]
  constructor
  · rintro ⟨hParts, -, -⟩
    rw [IsWrittenAs, ← hParts]
    exact isSpread_trimmedParts '.' text
  · intro hWritten
    exact
      ⟨hWritten.trimmedParts_eq hSafe,
        (Identifier.isTrimmed ⟨_, hSafe.datasource⟩).notEmpty,
        (Identifier.isTrimmed ⟨_, hSafe.table⟩).notEmpty⟩

/- The margins of a table do not matter. -/
theorem ofText_trim_eq_ok_iff :
    ofText label (trim text) = .ok ref ↔
      ofText label text = .ok ref := by
  rw [ofText_eq_ok_iff, ofText_eq_ok_iff, trimmedParts_trim rfl]

/- A comma is part of no table. -/
theorem IsWrittenAs.noComma
    (hWritten : ref.IsWrittenAs text)
    (hSafe : ref.IsSafe) :
    ',' ∉ text.toList := by
  have hName (name : Identifier) : ',' ∉ name.text.toList := by
    intro hMember
    exact
      Identifier.ne_of_mem hMember rfl (by decide) rfl
  apply IsSpread.not_mem hWritten (by decide) rfl
  rw [List.forall_mem_cons, List.forall_mem_singleton]
  exact
    ⟨hName ⟨_, hSafe.datasource⟩, hName ⟨_, hSafe.table⟩⟩

/- A table is not blank, since it has a point. -/
theorem IsWrittenAs.isVoid_eq
    (hWritten : ref.IsWrittenAs text) :
    isVoid text = false := by
  rw [isVoid, List.all_eq_false]
  exact ⟨'.', IsSpread.mem hWritten, by decide⟩

/- The shortest spelling has no blanks. -/
theorem isWrittenAs_qualified (ref : TableRef) :
    ref.IsWrittenAs (ref.datasource ++ "." ++ ref.table) := by
  refine
    ⟨[ref.datasource, ref.table], List.cons_ne_nil _ _, ?_, ?_⟩
  · rw [List.forall₂_same]
    exact fun part _ => isPadded_self part
  · rw [String.intercalate_cons_cons,
      String.intercalate_singleton]
    rfl

/- A qualified table is read from its own text. -/
theorem ofText_of_ofRef
    {name : Sql.TableName}
    (hName : Sql.TableName.ofRef ref = .ok name)
    (label : String) :
    ofText label name.text = .ok ref := by
  rcases Sql.TableName.ofRef_eq_ok_iff.mp hName with
    ⟨hDatasource, hTable⟩
  have hSafe : ref.IsSafe := by
    constructor
    · rw [← hDatasource]
      exact name.datasource.safe
    · rw [← hTable]
      exact name.table.safe
  rw [Sql.TableName.text, hDatasource, hTable]
  rw [ofText_eq_ok_iff_isWrittenAs hSafe label]
  exact ref.isWrittenAs_qualified

theorem listOfTexts_eq_ok
    {texts : List String}
    {refs : List TableRef}
    (hRefs :
      List.Forall₂
        (fun ref text => ofText label text = .ok ref)
        refs texts) :
    listOfTexts label texts = .ok refs := by
  induction hRefs with
  | nil => rfl
  | cons hRef _ ih =>
      rw [listOfTexts, hRef, ih]
      rfl

end TableRef

end KbConsole
