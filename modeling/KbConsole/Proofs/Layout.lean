import KbConsole.Outcome
import KbConsole.Proofs.Margins
import KbConsole.Proofs.Parts
import Mathlib.Data.List.Forall2
import Mathlib.Data.List.TakeWhile

/-
  The layout of rows as a table: texts that are filled up to
  the widths of their columns stand at the offset of their
  column in every line.

  The blanks at the end of a line are cut off, and with them
  what is blank in its last texts. What a line shows is
  therefore said of the line with such blanks put back.

  Key definitions include:
    * `Layout.Placed`
    * `Layout.Shows`
    * `Layout.Fits`
    * `Layout.IsTableOf`

  The main statement is `Layout.exists_table`: rows become a
  table in which each cell stands at the offset of the name
  of its column.
-/

namespace KbConsole

namespace Text

------------------------------------------------------------
-- Spaces and Blanks
------------------------------------------------------------

theorem toList_padEnd (n : Nat) (s : String) :
    (padEnd n s).toList =
      s.toList ++ List.replicate (n - width s) ' ' := by
  rw [padEnd, repeated, String.toList_append,
    String.toList_ofList]

end Text

namespace Layout

------------------------------------------------------------
-- Texts in a Line
------------------------------------------------------------

/-
  Texts that stand in a line one after another, each at its
  offset, with nothing but spaces after each. The first
  number is the offset at which the characters begin.
-/
inductive Placed :
    Nat → List String → List Nat → List Char → Prop where
  | nil (start : Nat) : Placed start [] [] []
  | cons
      (start : Nat)
      {texts : List String}
      {offsets : List Nat}
      {cs : List Char}
      (text : String)
      (spaces : Nat)
      (hRest :
        Placed (start + Text.width text + spaces) texts
          offsets cs) :
      Placed start (text :: texts) (start :: offsets)
        (text.toList ++ List.replicate spaces ' ' ++ cs)

/-
  A line that shows texts at their offsets. Blanks may be
  missing at its end.
-/
def Shows
    (line : String)
    (texts : List String)
    (offsets : List Nat) : Prop :=
  ∃ blanks : List Char,
    (∀ c ∈ blanks, Text.isBlank c = true) ∧
      Placed 0 texts offsets (line.toList ++ blanks)

/- Texts that are no wider than their columns. -/
def Fits (cells : List String) (widths : List Nat) : Prop :=
  List.Forall₂ (fun cell width => Text.width cell ≤ width)
    cells widths

/- The offsets of columns that are two spaces apart. -/
def offsetsFrom : Nat → List Nat → List Nat
  | _, [] => []
  | start, width :: widths =>
      start :: offsetsFrom (start + width + 2) widths

theorem placed_padded
    {cells : List String}
    {widths : List Nat}
    (hFits : Fits cells widths)
    (start : Nat) :
    Placed start cells (offsetsFrom start widths)
      ("  ".intercalate (padded cells widths)).toList := by
  induction hFits generalizing start with
  | nil => exact Placed.nil start
  | @cons cell width cells widths hCell hFits ih =>
      cases hFits with
      | nil =>
          have hPlaced :=
            Placed.cons start cell
              (width - Text.width cell) (Placed.nil _)
          rw [List.append_nil, ← Text.toList_padEnd] at hPlaced
          simpa [padded, offsetsFrom] using hPlaced
      | @cons next nextWidth cells widths hNext hFits =>
          have hEnd :
              start + width + 2 =
                start + Text.width cell +
                  (width - Text.width cell + 2) := by
            omega
          have hRest := ih (start + width + 2)
          rw [hEnd] at hRest
          have hPlaced :=
            Placed.cons start cell
              (width - Text.width cell + 2) hRest
          have hGap : "  ".toList = List.replicate 2 ' ' := rfl
          rw [padded, List.zipWith_cons_cons,
            List.zipWith_cons_cons,
            String.intercalate_cons_cons,
            String.toList_append, String.toList_append,
            Text.toList_padEnd, hGap,
            List.append_assoc cell.toList,
            List.replicate_append_replicate, offsetsFrom, hEnd]
          exact hPlaced

/- A line shows its cells at the offsets of the columns. -/
theorem shows_line
    {cells : List String}
    {widths : List Nat}
    (hFits : Fits cells widths) :
    Shows (line cells widths) cells (offsetsFrom 0 widths) := by
  rcases Text.exists_trimEnd_append
      ("  ".intercalate (padded cells widths)) with
    ⟨blanks, hBlanks, hWhole⟩
  refine ⟨blanks, hBlanks, ?_⟩
  rw [line, hWhole]
  exact placed_padded hFits 0

------------------------------------------------------------
-- Widths of Columns
------------------------------------------------------------

theorem le_widest (least : Nat) (widths : List Nat) :
    ∀ width ∈ least :: widths, width ≤ widest least widths := by
  unfold widest
  induction widths generalizing least with
  | nil => simp
  | cons first widths ih =>
      intro width hMember
      have hLater := ih (max least first)
      have hBoth := hLater _ List.mem_cons_self
      rw [List.mem_cons, List.mem_cons] at hMember
      rw [List.foldl_cons]
      rcases hMember with rfl | rfl | hMember
      · exact Nat.le_trans (Nat.le_max_left _ _) hBoth
      · exact Nat.le_trans (Nat.le_max_right _ _) hBoth
      · exact hLater width (List.mem_cons_of_mem _ hMember)

/- The names of the columns fit. -/
theorem fits_columns
    (columns : List String)
    (body : List (List String)) :
    Fits columns (widths columns body) := by
  induction columns generalizing body with
  | nil => exact List.Forall₂.nil
  | cons column columns ih =>
      rw [widths]
      exact List.Forall₂.cons
        (le_widest _ _ _ List.mem_cons_self) (ih _)

/- The cells of every row fit. -/
theorem fits_of_mem
    {columns cells : List String}
    {body : List (List String)}
    (hRow : cells ∈ body)
    (hLength : cells.length = columns.length) :
    Fits cells (widths columns body) := by
  induction columns generalizing cells body with
  | nil =>
      rw [List.eq_nil_of_length_eq_zero hLength]
      exact List.Forall₂.nil
  | cons column columns ih =>
      cases cells with
      | nil => cases hLength
      | cons cell cells =>
          rw [widths]
          apply List.Forall₂.cons
          · apply le_widest
            apply List.mem_cons_of_mem
            exact List.mem_map.mpr ⟨cell :: cells, hRow, rfl⟩
          · apply ih
            · exact List.mem_map.mpr
                ⟨cell :: cells, hRow, rfl⟩
            · exact Nat.succ.inj hLength

------------------------------------------------------------
-- Cells on one Line
------------------------------------------------------------

/- A half stands for no blank. -/
theorem isBlank_highHalf (c : Char) :
    Text.isBlank (Text.highHalf c) = false := by
  have hNumber := Text.toNat_highHalf c
  unfold Text.firstHalf at hNumber
  simp only [Text.isBlank, Bool.or_eq_false_iff,
    Bool.and_eq_false_iff, decide_eq_false_iff_not,
    beq_eq_false_iff_ne]
  omega

theorem of_mem_collapseFrom
    {c : Char}
    {afterBlank : Bool}
    {cs : List Char}
    (hMember : c ∈ Text.collapseFrom afterBlank cs) :
    c = ' ' ∨ Text.isBlank c = false := by
  induction cs generalizing afterBlank with
  | nil => cases hMember
  | cons first rest ih =>
      unfold Text.collapseFrom at hMember
      split at hMember
      · split at hMember
        · exact ih hMember
        · rcases List.mem_cons.mp hMember with hSpace | hLater
          · exact Or.inl hSpace
          · exact ih hLater
      · rename_i hFirst
        rcases List.mem_cons.mp hMember with rfl | hLater
        · exact Or.inr (by simpa using hFirst)
        · exact ih hLater

/- A cut text begins as the text, and may end in a half. -/
theorem exists_takeChars_append (n : Nat) (cs : List Char) :
    ∃ front ending,
      Text.takeChars n cs = front ++ ending ∧
        front <+: cs ∧
        ∀ c ∈ ending, Text.isBlank c = false := by
  induction cs generalizing n with
  | nil => exact ⟨[], [], by simp [Text.takeChars]⟩
  | cons c cs ih =>
      cases n with
      | zero => exact ⟨[], [], by simp [Text.takeChars]⟩
      | succ n =>
          rw [Text.takeChars]
          split
          · rcases ih (n + 1 - Text.charUnits c) with
              ⟨front, ending, hCut, hFront, hEnding⟩
            refine ⟨c :: front, ending, ?_, ?_, hEnding⟩
            · rw [hCut, List.cons_append]
            · exact List.cons_prefix_cons.mpr ⟨rfl, hFront⟩
          · refine
              ⟨[], [Text.highHalf c], rfl, List.nil_prefix, ?_⟩
            intro half hMember
            rw [List.mem_singleton.mp hMember]
            exact isBlank_highHalf c

/- The only blanks of a cell's text are spaces. -/
theorem of_mem_cellText
    {c : Char}
    {label : Option String}
    (hMember : c ∈ (cellText label).toList) :
    c = ' ' ∨ Text.isBlank c = false := by
  cases label with
  | none => simp [cellText] at hMember
  | some label =>
      have hCollapsed
          (hIn : c ∈ (Text.collapse label).toList) :
          c = ' ' ∨ Text.isBlank c = false := by
        rw [Text.collapse, String.toList_ofList] at hIn
        exact of_mem_collapseFrom hIn
      rw [cellText, clip] at hMember
      split at hMember
      · rw [Text.takeUnits, String.toList_append,
          String.toList_ofList, List.mem_append] at hMember
        rcases hMember with hCut | hMark
        · rcases exists_takeChars_append (maxCellWidth - 3)
              (Text.collapse label).toList with
            ⟨front, ending, hParts, hFront, hEnding⟩
          rw [hParts, List.mem_append] at hCut
          rcases hCut with hIn | hIn
          · exact hCollapsed (hFront.subset hIn)
          · exact Or.inr (hEnding c hIn)
        · have hDot : c = '.' := by simpa using hMark
          subst hDot
          exact Or.inr (by decide)
      · exact hCollapsed hMember

/- Cells that are put together are apart by spaces only. -/
theorem of_mem_joined
    {c : Char}
    {cells : List String}
    {widths : List Nat}
    (hMember :
      c ∈ ("  ".intercalate (padded cells widths)).toList) :
    c = ' ' ∨ ∃ cell ∈ cells, c ∈ cell.toList := by
  rcases Text.mem_intercalate hMember with
    hBetween | ⟨part, hPart, hIn⟩
  · exact Or.inl (by simpa using hBetween)
  · rw [padded, ← List.map_uncurry_zip_eq_zipWith,
      List.mem_map] at hPart
    rcases hPart with ⟨⟨cell, width⟩, hPair, rfl⟩
    rw [Function.uncurry_apply_pair, Text.toList_padEnd,
      List.mem_append] at hIn
    rcases hIn with hIn | hFill
    · exact Or.inr ⟨cell, (List.of_mem_zip hPair).1, hIn⟩
    · exact Or.inl (List.eq_of_mem_replicate hFill)

/- A line breaks only where one of its texts does. -/
theorem exists_of_mem_line
    {c : Char}
    {cells : List String}
    {widths : List Nat}
    (hMember : c ∈ (line cells widths).toList)
    (hSpace : c ≠ ' ') :
    ∃ cell ∈ cells, c ∈ cell.toList :=
  (of_mem_joined (Text.mem_of_mem_trimEnd hMember)).resolve_left
    hSpace

------------------------------------------------------------
-- Tables
------------------------------------------------------------

/-
  A text of one line of names, one of dashes, one for each
  row, and the number of rows. The texts of a row's cells
  stand at the offsets of the names of their columns.
-/
def IsTableOf
    (text : String)
    (columns : List String)
    (rows : List Row) : Prop :=
  ∃ header dashes body offsets,
    Text.splitOn '\n' text =
        [header, dashes] ++ body ++
          ["", countLine rows.length] ∧
      Shows header columns offsets ∧
      List.Forall₂
        (fun row line =>
          Shows line (cellTexts columns row) offsets)
        rows body

theorem notMem_rule (widths : List Nat) :
    '\n' ∉ (rule widths).toList := by
  intro hMember
  rw [rule, Text.repeated, String.toList_ofList] at hMember
  exact absurd (List.eq_of_mem_replicate hMember) (by decide)

theorem notMem_countLine (count : Nat) :
    '\n' ∉ (countLine count).toList := by
  have hDigits : '\n' ∉ Nat.toDigits 10 count := by
    intro hMember
    exact absurd (Number.isDigit_of_mem_digits hMember)
      (by decide)
  unfold countLine
  split <;> simp [hDigits]

/- No line of a table breaks. -/
theorem notMem_of_mem_lines
    {columns : List String}
    {rows : List Row}
    (hColumns : ∀ column ∈ columns, '\n' ∉ column.toList)
    {text : String}
    (hLine : text ∈ lines columns rows) :
    '\n' ∉ text.toList := by
  have hNames (widths : List Nat) :
      '\n' ∉ (line columns widths).toList := by
    intro hMember
    rcases exists_of_mem_line hMember (by decide) with
      ⟨column, hColumn, hIn⟩
    exact hColumns column hColumn hIn
  have hRow (row : Row) (widths : List Nat) :
      '\n' ∉ (line (cellTexts columns row) widths).toList := by
    intro hMember
    rcases exists_of_mem_line hMember (by decide) with
      ⟨cell, hCell, hIn⟩
    rcases List.mem_map.mp hCell with ⟨column, -, rfl⟩
    exact absurd (of_mem_cellText hIn) (by decide)
  rw [lines, List.mem_append, List.mem_append, List.mem_cons,
    List.mem_singleton, List.map_map, List.mem_map,
    List.mem_cons, List.mem_singleton] at hLine
  rcases hLine with ((rfl | rfl) | ⟨row, -, rfl⟩) | rfl | rfl
  · exact hNames _
  · exact notMem_rule _
  · exact hRow row _
  · simp
  · exact notMem_countLine _

/- Rows with cells become a table of their columns. -/
theorem exists_table
    {first : Row}
    (hCells : first.cells ≠ [])
    (hColumns :
      ∀ column ∈ Keyed.keys first.cells,
        '\n' ∉ column.toList)
    (rest : List Row) :
    ∃ text,
      table (first :: rest) = .ok text ∧
        IsTableOf text (Keyed.keys first.cells)
          (first :: rest) := by
  have hSome : first.cells.isEmpty = false :=
    List.isEmpty_eq_false_iff.mpr hCells
  refine ⟨_, by rw [table, hSome]; rfl, ?_⟩
  let columns := Keyed.keys first.cells
  let rows := first :: rest
  let body := rows.map (cellTexts columns)
  refine
    ⟨line columns (widths columns body),
      rule (widths columns body),
      body.map fun cells => line cells (widths columns body),
      offsetsFrom 0 (widths columns body), ?_, ?_, ?_⟩
  · apply Text.splitOn_intercalate
    · simp [lines]
    · intro text hLine
      exact notMem_of_mem_lines hColumns hLine
  · exact shows_line (fits_columns columns body)
  · rw [List.map_map, List.forall₂_map_right_iff,
      List.forall₂_same]
    intro row hRow
    apply shows_line
    apply fits_of_mem
    · exact List.mem_map_of_mem hRow
    · exact List.length_map _

end Layout

end KbConsole
