import KbConsole.Proofs.Keyed
import KbConsole.Proofs.Layout
import Mathlib.Data.List.Chain
import Mathlib.Order.Bounds.Basic

/-
  The measures of a table, in units.

  Every column is as wide as its widest text, and the line
  of dashes spans all columns and the gaps between them. No
  line is longer. A line of cells that is filled up with
  spaces to this length has each cell filled up to the width
  of its column, since cells hold no other blanks than
  single spaces, so that nothing else is cut off at the end.

  Key definitions include:
    * `Text.IsFlat`
    * `Layout.AreWidths`, `Layout.span`
    * `Layout.IsRuled`
    * `Layout.AreCellsOf`

  The main statement is `Outcome.render_measures`. It rests
  on `Layout.isRuled_lines` and `Layout.isFlat_cellText`.
-/

namespace KbConsole

namespace Text

------------------------------------------------------------
-- Widths
------------------------------------------------------------

theorem width_append (s t : String) :
    width (s ++ t) = width s + width t := by
  rw [width, String.toList_append, charsWidth_append]
  rfl

/- Characters of one unit are as many as their units. -/
theorem charsWidth_replicate
    {c : Char}
    (hUnit : charUnits c = 1)
    (n : Nat) :
    charsWidth (List.replicate n c) = n := by
  induction n with
  | zero => rfl
  | succ n ih =>
      rw [List.replicate_succ, charsWidth, hUnit, ih,
        Nat.add_comm]

/- A text that is not too wide is filled up exactly. -/
theorem width_padEnd
    {n : Nat}
    {s : String}
    (hFits : width s ≤ n) :
    width (padEnd n s) = n := by
  have hSpace : charUnits ' ' = 1 := by decide
  have hFilling (m : Nat) : width (repeated ' ' m) = m := by
    rw [width, repeated, String.toList_ofList,
      charsWidth_replicate hSpace]
  rw [padEnd, width_append, hFilling]
  exact Nat.add_sub_cancel' hFits

/- Joined texts take their widths and those of the gaps. -/
theorem width_intercalate
    (separator : String)
    (parts : List String) :
    width (separator.intercalate parts) =
      (parts.map width).sum +
        width separator * (parts.length - 1) := by
  induction parts with
  | nil => simp [width, charsWidth]
  | cons part parts ih =>
      cases parts with
      | nil => simp
      | cons next parts =>
          rw [String.intercalate_cons_cons, width_append,
            width_append, ih]
          simp only [List.map_cons, List.sum_cons,
            List.length_cons, Nat.add_sub_cancel, Nat.mul_succ]
          omega

/- A cut text is no wider than it may be. -/
theorem charsWidth_takeChars_le (n : Nat) (cs : List Char) :
    charsWidth (takeChars n cs) ≤ n := by
  induction cs generalizing n with
  | nil => simp [takeChars, charsWidth]
  | cons c cs ih =>
      cases n with
      | zero => simp [takeChars, charsWidth]
      | succ n =>
          rw [takeChars]
          split
          · rename_i hWhole
            have hRest := ih (n + 1 - charUnits c)
            rw [charsWidth]
            omega
          · have hHalf : isHalf (highHalf c) = true := by
              rw [isHalf, toNat_highHalf, decide_eq_true_eq]
              exact Nat.le_add_right _ _
            have hUnit : charUnits (highHalf c) = 1 := by
              rw [charUnits, hHalf]
              simp
            rw [charsWidth, charsWidth, hUnit]
            omega

theorem width_trimEnd_le (s : String) :
    width (trimEnd s) ≤ width s := by
  rcases exists_trimEnd_append s with ⟨blanks, -, hWhole⟩
  rw [width, width, ← hWhole, charsWidth_append]
  exact Nat.le_add_right _ _

/- Spaces that were cut off at the end are filled in again. -/
theorem padEnd_trimEnd
    {s : String}
    (hSpaces : ∀ c ∈ s.toList, isBlank c = true → c = ' ') :
    padEnd (width s) (trimEnd s) = s := by
  rcases exists_trimEnd_append s with
    ⟨blanks, hBlanks, hWhole⟩
  have hEach : ∀ c ∈ blanks, c = ' ' := by
    intro c hMember
    apply hSpaces c _ (hBlanks c hMember)
    rw [← hWhole]
    exact List.mem_append_right _ hMember
  have hAll : blanks = List.replicate blanks.length ' ' :=
    List.eq_replicate_iff.mpr ⟨rfl, hEach⟩
  have hWidth :
      width s - width (trimEnd s) = blanks.length := by
    have hSpace : charUnits ' ' = 1 := by decide
    rw [width, ← hWhole, charsWidth_append, hAll,
      charsWidth_replicate hSpace, List.length_replicate]
    exact Nat.add_sub_cancel_left _ _
  rw [← String.toList_inj, toList_padEnd, hWidth, ← hAll,
    hWhole]

------------------------------------------------------------
-- Single Spaces
------------------------------------------------------------

/- A text whose only blanks are single spaces. -/
structure IsFlat (s : String) : Prop where
  spaces : ∀ c ∈ s.toList, isBlank c = true → c = ' '
  single : ¬ [' ', ' '] <:+: s.toList

/- Of two neighbours at most one is a space. -/
def AreApart (a b : Char) : Prop :=
  ¬ (a = ' ' ∧ b = ' ')

theorem notInfix_of_areApart
    {cs : List Char}
    (hApart : cs.IsChain AreApart) :
    ¬ [' ', ' '] <:+: cs := by
  intro hInfix
  have hPair := hApart.infix hInfix
  rw [List.isChain_pair] at hPair
  exact hPair ⟨rfl, rfl⟩

/- After a blank no other one is written. -/
theorem head?_collapseFrom
    {c : Char}
    {cs : List Char}
    (hHead : c ∈ (collapseFrom true cs).head?) :
    c ≠ ' ' := by
  induction cs with
  | nil => cases hHead
  | cons first rest ih =>
      unfold collapseFrom at hHead
      split at hHead
      · exact ih hHead
      · rename_i hFirst
        have hSame : first = c := by simpa using hHead
        rw [← hSame]
        rintro rfl
        exact hFirst rfl

theorem isChain_collapseFrom
    (afterBlank : Bool)
    (cs : List Char) :
    (collapseFrom afterBlank cs).IsChain AreApart := by
  induction cs generalizing afterBlank with
  | nil => exact .nil
  | cons c cs ih =>
      unfold collapseFrom
      split
      · split
        · exact ih true
        · apply (ih true).cons
          intro next hNext hBoth
          exact head?_collapseFrom hNext hBoth.2
      · rename_i hBlank
        apply (ih false).cons
        intro next _ hBoth
        rw [hBoth.1] at hBlank
        exact hBlank rfl

/- Characters that are no spaces are apart from any other. -/
theorem isChain_append
    {front ending : List Char}
    (hFront : front.IsChain AreApart)
    (hEnding : ∀ c ∈ ending, c ≠ ' ') :
    (front ++ ending).IsChain AreApart := by
  apply hFront.append
  · rw [List.isChain_iff_forall_rel_of_append_cons_cons]
    rintro a b before after rfl hBoth
    exact hEnding a (by simp) hBoth.1
  · intro a _ b hHead hBoth
    exact hEnding b (List.mem_of_mem_head? hHead) hBoth.2

end Text

namespace Layout

/- Every cell is one line of at most sixty units. -/
theorem width_cellText_le (label : Option String) :
    Text.width (cellText label) ≤ 60 := by
  cases label with
  | none => decide
  | some label =>
      rw [cellText, clip]
      split
      · have hCut :=
          Text.charsWidth_takeChars_le (maxCellWidth - 3)
            (Text.collapse label).toList
        have hMark : Text.width "..." = 3 := by decide
        rw [Text.width_append, hMark, Text.width,
          Text.takeUnits, String.toList_ofList]
        exact Nat.add_le_add_right hCut 3
      · rename_i hShort
        exact Nat.not_lt.mp hShort

theorem isFlat_cellText (label : Option String) :
    Text.IsFlat (cellText label) := by
  constructor
  · intro c hMember hBlank
    rcases of_mem_cellText hMember with hSpace | hOther
    · exact hSpace
    · rw [hOther] at hBlank
      cases hBlank
  · apply Text.notInfix_of_areApart
    cases label with
    | none => exact .nil
    | some label =>
        have hApart :
            (Text.collapse label).toList.IsChain
              Text.AreApart := by
          rw [Text.collapse, String.toList_ofList]
          exact Text.isChain_collapseFrom false _
        rw [cellText, clip]
        split
        · rcases exists_takeChars_append (maxCellWidth - 3)
              (Text.collapse label).toList with
            ⟨front, ending, hCut, hFront, hEnding⟩
          rw [String.toList_append, Text.takeUnits,
            String.toList_ofList, hCut, List.append_assoc]
          have hKept := hApart.prefix hFront
          apply Text.isChain_append hKept
          intro c hMember
          rcases List.mem_append.mp hMember with hHalf | hDot
          · rintro rfl
            cases hEnding ' ' hHalf
          · rintro rfl
            simp at hDot
        · exact hApart

------------------------------------------------------------
-- Widths of Columns
------------------------------------------------------------

/- The widths of the texts of one column, its name included. -/
def columnWidths
    (column : String)
    (i : Nat)
    (body : List (List String)) : Set Nat :=
  { n |
    n = Text.width column ∨
      ∃ cells ∈ body, ∃ cell,
        cells[i]? = some cell ∧ n = Text.width cell }

/- One width for each column, that of its widest text. -/
structure AreWidths
    (columns : List String)
    (body : List (List String))
    (widths : List Nat) : Prop where
  length_eq : widths.length = columns.length
  isGreatest :
    ∀ (i : Nat) column width,
      columns[i]? = some column → widths[i]? = some width →
        IsGreatest (columnWidths column i body) width

theorem widest_mem (least : Nat) (widths : List Nat) :
    widest least widths ∈ least :: widths := by
  unfold widest
  induction widths generalizing least with
  | nil => exact List.mem_singleton_self least
  | cons first widths ih =>
      rw [List.foldl_cons]
      rcases List.mem_cons.mp (ih (max least first)) with
        hGreater | hLater
      · rw [hGreater]
        rcases max_choice least first with hMax | hMax
        · rw [hMax]
          exact List.mem_cons_self
        · rw [hMax]
          exact List.mem_cons_of_mem _ List.mem_cons_self
      · exact
          List.mem_cons_of_mem _ (List.mem_cons_of_mem _ hLater)

/- The first column is as wide as its widest text. -/
theorem isGreatest_first
    {column : String}
    {body : List (List String)}
    (hFilled : ∀ cells ∈ body, cells ≠ []) :
    IsGreatest (columnWidths column 0 body)
      (widest (Text.width column)
        (body.map fun cells =>
          Text.width (cells.headD ""))) := by
  have hHead :
      ∀ cells ∈ body, cells[0]? = some (cells.headD "") := by
    intro cells hMember
    cases cells with
    | nil => exact absurd rfl (hFilled [] hMember)
    | cons cell cells => rfl
  constructor
  · rcases List.mem_cons.mp (widest_mem _ _) with
      hName | hCell
    · exact Or.inl hName
    · rcases List.mem_map.mp hCell with
        ⟨cells, hMember, hWidth⟩
      exact
        Or.inr
          ⟨cells, hMember, _, hHead cells hMember, hWidth.symm⟩
  · intro n hText
    apply le_widest
    rcases hText with rfl | ⟨cells, hMember, cell, hCell, rfl⟩
    · exact List.mem_cons_self
    · rw [hHead cells hMember, Option.some.injEq] at hCell
      rw [← hCell]
      exact
        List.mem_cons_of_mem _
          (List.mem_map.mpr ⟨cells, hMember, rfl⟩)

/- Without its first cells, a column comes one earlier. -/
theorem columnWidths_tail
    (column : String)
    (i : Nat)
    (body : List (List String)) :
    columnWidths column i (body.map List.tail) =
      columnWidths column (i + 1) body := by
  unfold columnWidths
  simp only [List.mem_map, exists_exists_and_eq_and,
    List.getElem?_tail]

theorem areWidths_widths
    {columns : List String}
    {body : List (List String)}
    (hLength :
      ∀ cells ∈ body, cells.length = columns.length) :
    AreWidths columns body (widths columns body) := by
  induction columns generalizing body with
  | nil =>
      refine ⟨rfl, ?_⟩
      intro i column width hColumn
      simp at hColumn
  | cons column columns ih =>
      have hTail :
          ∀ cells ∈ body.map List.tail,
            cells.length = columns.length := by
        intro cells hMember
        rcases List.mem_map.mp hMember with
          ⟨whole, hWhole, rfl⟩
        rw [List.length_tail, hLength whole hWhole,
          List.length_cons, Nat.add_sub_cancel]
      have hRest := ih hTail
      rw [widths]
      constructor
      · rw [List.length_cons, List.length_cons,
          hRest.length_eq]
      · intro i name width hName hWidth
        cases i with
        | zero =>
            rw [List.getElem?_cons_zero, Option.some.injEq]
              at hName hWidth
            rw [← hName, ← hWidth]
            apply isGreatest_first
            rintro cells hMember rfl
            cases hLength [] hMember
        | succ i =>
            rw [List.getElem?_cons_succ] at hName hWidth
            rw [← columnWidths_tail]
            exact hRest.isGreatest i name width hName hWidth

------------------------------------------------------------
-- Lines
------------------------------------------------------------

/- What columns of such widths take with the gaps between. -/
def span (widths : List Nat) : Nat :=
  widths.sum + 2 * (widths.length - 1)

theorem toList_rule (widths : List Nat) :
    (rule widths).toList =
      List.replicate (span widths) '-' := by
  have hFold (start : Nat) :
      widths.foldl (fun total width => total + width + 2)
          start =
        start + widths.sum + 2 * widths.length := by
    induction widths generalizing start with
    | nil => rfl
    | cons width widths ih =>
        rw [List.foldl_cons, ih, List.sum_cons,
          List.length_cons]
        omega
  have hCount :
      0 + widths.sum + 2 * widths.length - 2 =
        span widths := by
    cases widths with
    | nil => rfl
    | cons width widths =>
        rw [span, List.length_cons, Nat.add_sub_cancel]
        omega
  rw [rule, Text.repeated, String.toList_ofList, hFold, hCount]

theorem map_width_padded
    {cells : List String}
    {widths : List Nat}
    (hFits : Fits cells widths) :
    (padded cells widths).map Text.width = widths := by
  induction hFits with
  | nil => rfl
  | cons hCell hFits ih =>
      rw [padded, List.zipWith_cons_cons, List.map_cons,
        Text.width_padEnd hCell]
      exact congrArg (List.cons _) ih

/- A line before its end is cut off spans all columns. -/
theorem width_joined
    {cells : List String}
    {widths : List Nat}
    (hFits : Fits cells widths) :
    Text.width ("  ".intercalate (padded cells widths)) =
      span widths := by
  have hGap : Text.width "  " = 2 := by decide
  have hWidths := map_width_padded hFits
  have hLength :
      (padded cells widths).length = widths.length := by
    rw [← List.length_map Text.width, hWidths]
  rw [Text.width_intercalate, hWidths, hLength, hGap, span]

theorem width_line_le
    {cells : List String}
    {widths : List Nat}
    (hFits : Fits cells widths) :
    Text.width (line cells widths) ≤ span widths := by
  rw [← width_joined hFits]
  exact Text.width_trimEnd_le _

/- Nothing but spaces is cut off where cells are flat. -/
theorem padEnd_line
    {cells : List String}
    {widths : List Nat}
    (hFits : Fits cells widths)
    (hFlat : ∀ cell ∈ cells, Text.IsFlat cell) :
    Text.padEnd (span widths) (line cells widths) =
      "  ".intercalate (padded cells widths) := by
  rw [← width_joined hFits, line]
  apply Text.padEnd_trimEnd
  intro c hMember hBlank
  rcases of_mem_joined hMember with
    hSpace | ⟨cell, hCell, hIn⟩
  · exact hSpace
  · exact (hFlat cell hCell).spaces c hIn hBlank

------------------------------------------------------------
-- Tables
------------------------------------------------------------

/- The texts of a row's own cells under the given columns. -/
def AreCellsOf
    (columns : List String)
    (row : Row)
    (cells : List String) : Prop :=
  List.Forall₂
    (fun column text =>
      ∃ cell,
        Keyed.get? column row.cells = some cell ∧
          text = cellText (cell.map Scalar.label))
    columns cells

/-
  The lines of a table with columns of the given widths: the
  line of dashes spans them, and the other ones are no
  longer. Blanks may have been cut off after the names, and
  nothing but spaces was cut off after the cells of a row.
-/
structure IsRuled
    (columns : List String)
    (body : List (List String))
    (widths : List Nat)
    (header dashes : String)
    (shown : List String) : Prop where
  areWidths : AreWidths columns body widths
  dashes : dashes.toList = List.replicate (span widths) '-'
  names :
    ∃ blanks,
      (∀ c ∈ blanks, Text.isBlank c = true) ∧
        header.toList ++ blanks =
          ("  ".intercalate (padded columns widths)).toList
  short :
    ∀ line ∈ header :: shown, Text.width line ≤ span widths
  cells :
    List.Forall₂
      (fun cells line =>
        Text.padEnd (span widths) line =
          "  ".intercalate (padded cells widths))
      body shown

/-
  A text of four lines more than there are rows. The last
  one says how many rows there are.
-/
def IsMeasuredTable
    (columns : List String)
    (rows : List Row)
    (text : String) : Prop :=
  ∃ header dashes shown last body widths,
    Text.splitOn '\n' text =
        [header, dashes] ++ shown ++ ["", last] ∧
      List.Forall₂ (AreCellsOf columns) rows body ∧
      IsRuled columns body widths header dashes shown ∧
      (∀ cells ∈ body, ∀ cell ∈ cells,
        Text.width cell ≤ 60 ∧ Text.IsFlat cell) ∧
      last =
        "(" ++ toString rows.length ++
          (if rows.length = 1 then " row" else " rows") ++ ")"

theorem isRuled_lines
    {columns : List String}
    {body : List (List String)}
    (hLength : ∀ cells ∈ body, cells.length = columns.length)
    (hFlat :
      ∀ cells ∈ body, ∀ cell ∈ cells, Text.IsFlat cell) :
    let widths := widths columns body
    IsRuled columns body widths (line columns widths)
      (rule widths) (body.map (line · widths)) := by
  intro widths
  have hNames : Fits columns widths := fits_columns columns body
  have hRow (cells : List String) (hRow : cells ∈ body) :
      Fits cells widths :=
    fits_of_mem hRow (hLength cells hRow)
  constructor
  · exact areWidths_widths hLength
  · exact toList_rule widths
  · exact Text.exists_trimEnd_append _
  · intro text hText
    rcases List.mem_cons.mp hText with rfl | hText
    · exact width_line_le hNames
    · rcases List.mem_map.mp hText with ⟨cells, hCells, rfl⟩
      exact width_line_le (hRow cells hCells)
  · rw [List.forall₂_map_right_iff, List.forall₂_same]
    intro cells hCells
    exact padEnd_line (hRow cells hCells) (hFlat cells hCells)

/- A row that has the columns shows its own cells. -/
theorem areCellsOf_cellTexts
    {columns : List String}
    {row : Row}
    (hKeys :
      ∀ column ∈ columns, column ∈ Keyed.keys row.cells) :
    AreCellsOf columns row (cellTexts columns row) := by
  rw [AreCellsOf, cellTexts, List.forall₂_map_right_iff,
    List.forall₂_same]
  intro column hColumn
  rcases Keyed.mem_keys_iff.mp (hKeys column hColumn) with
    ⟨cell, hCell⟩
  refine ⟨cell, hCell, ?_⟩
  rw [Row.label?, hCell]

end Layout

namespace Outcome

/-
  Rows that have the columns of the first one become a table
  of four lines more than there are rows, with the measures
  of its columns.
-/
theorem render_measures
    {first : Row}
    {rest : List Row}
    (hCells : first.cells ≠ [])
    (hKeys :
      ∀ row ∈ first :: rest,
        ∀ column ∈ Keyed.keys first.cells,
          column ∈ Keyed.keys row.cells)
    (hLines :
      ∀ column ∈ Keyed.keys first.cells, '\n' ∉ column.toList)
    (labels : List String)
    (nothing : String) :
    ∃ text,
      (rows labels (first :: rest)).render nothing = .ok text ∧
        (Text.splitOn '\n' text).length =
          (first :: rest).length + 4 ∧
        Layout.IsMeasuredTable (Keyed.keys first.cells)
          (first :: rest) text := by
  let columns := Keyed.keys first.cells
  let found := first :: rest
  let body := found.map (Layout.cellTexts columns)
  have hSome : first.cells.isEmpty = false :=
    List.isEmpty_eq_false_iff.mpr hCells
  have hText :
      (rows labels found).render nothing =
        .ok
          ("\n".intercalate
            (Layout.lines columns found)) := by
    rw [render, Layout.table, hSome]
    rfl
  have hSplit :
      Text.splitOn '\n'
          ("\n".intercalate (Layout.lines columns found)) =
        Layout.lines columns found := by
    apply Text.splitOn_intercalate
    · simp [Layout.lines]
    · intro text hLine
      exact Layout.notMem_of_mem_lines hLines hLine
  have hBody :
      ∀ cells ∈ body, ∃ row ∈ found,
        cells = Layout.cellTexts columns row := by
    intro cells hMember
    rcases List.mem_map.mp hMember with ⟨row, hRow, rfl⟩
    exact ⟨row, hRow, rfl⟩
  have hCell :
      ∀ cells ∈ body, ∀ cell ∈ cells,
        Text.width cell ≤ 60 ∧ Text.IsFlat cell := by
    intro cells hMember cell hCell
    rcases hBody cells hMember with ⟨row, -, rfl⟩
    rcases List.mem_map.mp hCell with ⟨column, -, rfl⟩
    exact
      ⟨Layout.width_cellText_le _, Layout.isFlat_cellText _⟩
  refine ⟨_, hText, ?_, ?_⟩
  · rw [hSplit]
    simp [Layout.lines, found]
  · refine
      ⟨_, _, _, _, body, Layout.widths columns body, hSplit,
        ?_, Layout.isRuled_lines ?_ ?_, hCell, rfl⟩
    · rw [List.forall₂_map_right_iff, List.forall₂_same]
      intro row hRow
      exact Layout.areCellsOf_cellTexts (hKeys row hRow)
    · intro cells hMember
      rcases hBody cells hMember with ⟨row, -, rfl⟩
      exact List.length_map _
    · intro cells hMember cell hIn
      exact (hCell cells hMember cell hIn).2

/-
  A cell that ends in a blank, a missing one, and one that
  is cut in the middle of a character.
-/
theorem render_measures_cut :
    let long := Text.repeated 'a' 56 ++ "😀 and more"
    let first : Row :=
      { cells := [("a", some (.text "x\n\ty ")), ("b", none)] }
    let second : Row :=
      { cells :=
          [("b", some (.number (.integer 7))),
            ("a", some (.text long))] }
    let cut :=
      Text.repeated 'a' 56 ++
        String.singleton (Text.half 0xD83D) ++ "..."
    let text :=
      "\n".intercalate
        ["a" ++ Text.repeated ' ' 61 ++ "b",
          Text.repeated '-' 63,
          "x y",
          cut ++ "  7",
          "",
          "(2 rows)"]
    (∀ column ∈ ["a", "b"],
        column ∈ Keyed.keys second.cells) ∧
      (rows [] [first, second]).render "" = .ok text ∧
      (Text.splitOn '\n' text).length = 2 + 4 ∧
      Layout.IsMeasuredTable ["a", "b"] [first, second]
        text := by
  intro long first second cut text
  have hKeys :
      ∀ row ∈ [first, second],
        ∀ column ∈ Keyed.keys first.cells,
          column ∈ Keyed.keys row.cells := by
    decide
  have hText :
      (rows [] [first, second]).render "" = .ok text := by
    decide +kernel
  rcases render_measures (by decide) hKeys (by decide) [] ""
    with ⟨other, hOther, hMeasures⟩
  rw [hText, Except.ok.injEq] at hOther
  rw [← hOther] at hMeasures
  exact ⟨hKeys second (by decide), hText, hMeasures⟩

end Outcome

end KbConsole
