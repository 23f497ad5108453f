import KbConsole.Proofs.Keyed
import KbConsole.Proofs.Result
import KbConsole.Server.Response

/-
  The rows that the data of a table becomes, and the cells
  that are found in them.

  A row is kept under the names of its columns. Each name
  has one cell, so that of several columns with one name
  only the last is kept; and the hidden name has none.

  Key definitions include:
    * `Json.IsScalar`
    * `Row.value?`
    * `Row.Keeps`

  The main statement is `Response.resultSet_keeps`. It rests
  on `Row.get?_fill`, that the last cell of a name is found
  under it, and `Response.keys_rowOf_perm`, that each name
  has one place.
-/

namespace KbConsole

------------------------------------------------------------
-- Filling Rows
------------------------------------------------------------

namespace Row

/- Only cells under the hidden name are left out of a row. -/
theorem cells_fill_ne_nil
    {cells : List (String × Cell)}
    {row : Row}
    (hCell :
      row.cells ≠ [] ∨
        ∃ cell ∈ cells, cell.1 ≠ hiddenColumn) :
    (row.fill cells).cells ≠ [] := by
  induction cells generalizing row with
  | nil =>
      rcases hCell with hCell | ⟨cell, hMember, -⟩
      · exact hCell
      · cases hMember
  | cons cell rest ih =>
      rw [fill]
      split
      · rename_i hHidden
        apply ih
        rcases hCell with hCell | ⟨other, hMember, hShown⟩
        · exact Or.inl hCell
        · rcases List.mem_cons.mp hMember with rfl | hMember
          · simp only [Bool.and_eq_true, decide_eq_true_eq]
              at hHidden
            exact absurd hHidden.2 hShown
          · exact Or.inr ⟨other, hMember, hShown⟩
      · apply ih
        exact Or.inl (Keyed.put_ne_nil _ _ _)

/- A name that does not come again keeps what it has. -/
theorem get?_fill_of_notMem
    {column : String}
    {cells : List (String × Cell)}
    (hNone : column ∉ Keyed.keys cells)
    (row : Row) :
    Keyed.get? column (row.fill cells).cells =
      Keyed.get? column row.cells := by
  induction cells generalizing row with
  | nil => rfl
  | cons cell rest ih =>
      rw [Keyed.keys_cons, List.mem_cons, not_or] at hNone
      rw [fill]
      split
      · exact ih hNone.2 _
      · rw [ih hNone.2, Keyed.get?_put,
          if_neg (Ne.symm hNone.1)]

/- The last cell of a name is the one that is found. -/
theorem get?_fill
    {column : String}
    {cells : List (String × Cell)}
    {i : Nat}
    {cell : Cell}
    (hShown : column ≠ hiddenColumn)
    (hCell : cells[i]? = some (column, cell))
    (hLast : column ∉ Keyed.keys (cells.drop (i + 1)))
    (row : Row) :
    Keyed.get? column (row.fill cells).cells = some cell := by
  induction cells generalizing i row with
  | nil => cases hCell
  | cons first rest ih =>
      cases i with
      | zero =>
          rcases Option.some.inj hCell with rfl
          have hNone : column ∉ Keyed.keys rest := hLast
          rw [fill, if_neg (by simp [hShown]),
            get?_fill_of_notMem hNone, Keyed.get?_put,
            if_pos rfl]
      | succ i =>
          rw [fill]
          split
          · exact ih hCell hLast _
          · exact ih hCell hLast _

/- Where no name is hidden, every cell is put. -/
theorem cells_ofCells
    {cells : List (String × Cell)}
    (hShown : hiddenColumn ∉ Keyed.keys cells) :
    (ofCells cells).cells = Keyed.ofList cells := by
  have hFill (row : Row) :
      (row.fill cells).cells =
        cells.foldl (fun entries p => Keyed.put entries p.1 p.2)
          row.cells := by
    induction cells generalizing row with
    | nil => rfl
    | cons cell rest ih =>
        rw [Keyed.keys_cons, List.mem_cons, not_or] at hShown
        rw [fill, if_neg (by simp [Ne.symm hShown.1]),
          ih hShown.2]
        rfl
  exact hFill {}

end Row

------------------------------------------------------------
-- Cells of Columns
------------------------------------------------------------

namespace Response

/- Every column is given a cell. -/
theorem keys_pairCells
    (columns : List String)
    (items : List Json) :
    Keyed.keys (pairCells columns items) = columns := by
  induction columns generalizing items with
  | nil => rfl
  | cons column columns ih =>
      cases items with
      | nil => exact congrArg (column :: ·) (ih [])
      | cons item items =>
          exact congrArg (column :: ·) (ih items)

/- A column is given the item in its place, if there is one. -/
theorem getElem?_pairCells
    (columns : List String)
    (items : List Json)
    (i : Nat) :
    (pairCells columns items)[i]? =
      columns[i]?.map fun column =>
        (column, items[i]?.bind Cell.ofJson) := by
  induction columns generalizing items i with
  | nil => rfl
  | cons column columns ih =>
      cases items with
      | nil =>
          cases i with
          | zero => rfl
          | succ i => exact ih [] i
      | cons item items =>
          cases i with
          | zero => rfl
          | succ i => exact ih items i

theorem drop_pairCells
    (columns : List String)
    (items : List Json)
    (n : Nat) :
    Keyed.keys ((pairCells columns items).drop n) =
      columns.drop n := by
  rw [Keyed.keys, List.map_drop]
  exact congrArg (List.drop n) (keys_pairCells columns items)

section Rows

variable {columns : List String}
variable {item : Json}

/- The last column of a name gives its cell to the row. -/
theorem get?_rowOf
    {column : String}
    {i : Nat}
    (hColumn : columns[i]? = some column)
    (hShown : column ≠ Row.hiddenColumn)
    (hLast : column ∉ columns.drop (i + 1)) :
    Keyed.get? column (rowOf columns item).cells =
      some ((item.items?.getD [])[i]?.bind Cell.ofJson) := by
  apply Row.get?_fill hShown
  · rw [getElem?_pairCells, hColumn]
    rfl
  · rw [drop_pairCells]
    exact hLast

theorem cells_rowOf
    (hShown : Row.hiddenColumn ∉ columns)
    (item : Json) :
    (rowOf columns item).cells =
      Keyed.ofList
        (pairCells columns (item.items?.getD [])) := by
  apply Row.cells_ofCells
  rw [keys_pairCells]
  exact hShown

/- Each name has one place in a row. -/
theorem keys_rowOf_perm
    (hShown : Row.hiddenColumn ∉ columns)
    (item : Json) :
    (Keyed.keys (rowOf columns item).cells).Perm
      columns.dedup := by
  have hPerm :=
    Keyed.keys_ofList_perm
      (pairCells columns (item.items?.getD []))
  rw [keys_pairCells] at hPerm
  rw [cells_rowOf hShown]
  exact hPerm

/- All rows have their names in the same order. -/
theorem keys_rowOf_congr
    (hShown : Row.hiddenColumn ∉ columns)
    (item other : Json) :
    Keyed.keys (rowOf columns item).cells =
      Keyed.keys (rowOf columns other).cells := by
  rw [cells_rowOf hShown, cells_rowOf hShown]
  have hNames :
      Keyed.keys (pairCells columns (item.items?.getD [])) =
        Keyed.keys
          (pairCells columns (other.items?.getD [])) := by
    rw [keys_pairCells, keys_pairCells]
  exact Keyed.keys_foldl_put_congr rfl hNames

end Rows

------------------------------------------------------------
-- Tables
------------------------------------------------------------

theorem columnLabels_texts (names : List String) :
    columnLabels (names.map Json.text) = .ok names := by
  induction names with
  | nil => rfl
  | cons name names ih =>
      rw [List.map_cons, columnLabels, ih]
      rfl

/- A table has a row for every item of its data. -/
theorem resultSet_eq_table
    {body : Json}
    {names data : List Json}
    {columns : List String}
    (hType : body.member? "type" = some (.text "table"))
    (hNames :
      body.member? "column_names" = some (.array names))
    (hColumns : columnLabels names = .ok columns)
    (hData : body.member? "data" = some (.array data)) :
    resultSet body =
      .ok { columns, rows := data.map (rowOf columns) } := by
  unfold resultSet
  rw [hType, hNames, hData]
  simp only [hColumns]
  rfl

end Response

------------------------------------------------------------
-- Kept Cells
------------------------------------------------------------

/- A JSON value that is kept as a cell of its own kind. -/
def Json.IsScalar : Json → Prop
  | array _ => False
  | object _ => False
  | _ => True

/- A scalar is read back from its cell. -/
theorem Cell.toJson_ofJson
    {value : Json}
    (hScalar : value.IsScalar) :
    toJson (ofJson value) = value := by
  cases value with
  | array items => exact hScalar.elim
  | object members => exact hScalar.elim
  | null => rfl
  | bool value => rfl
  | number value => rfl
  | text value => rfl

namespace Row

/- The value that a row has for a column. -/
def value? (row : Row) (column : String) : Option Json :=
  (Keyed.get? column row.cells).map Cell.toJson

/-
  A row keeps the cells of its columns: for each name that
  is not hidden the last of its cells. Where no name is
  hidden it has one place for each, and where none is
  repeated either, all cells can be read back.
-/
structure Keeps
    (columns : List String)
    (cells : List Json)
    (row : Row) : Prop where
  last :
    ∀ (i : Nat) column cell, columns[i]? = some column →
      cells[i]? = some cell → column ≠ hiddenColumn →
        column ∉ columns.drop (i + 1) →
          row.value? column = some cell
  names :
    hiddenColumn ∉ columns →
      (Keyed.keys row.cells).Perm columns.dedup
  all :
    hiddenColumn ∉ columns → columns.Nodup →
      row.cells.length = columns.length ∧
        columns.map row.value? = cells.map some

end Row

namespace Response

theorem value?_rowOf
    {columns : List String}
    {cells : List Json}
    (hScalars : ∀ cell ∈ cells, cell.IsScalar)
    {i : Nat}
    {column : String}
    {cell : Json}
    (hColumn : columns[i]? = some column)
    (hCell : cells[i]? = some cell)
    (hShown : column ≠ Row.hiddenColumn)
    (hLast : column ∉ columns.drop (i + 1)) :
    (rowOf columns (.array cells)).value? column =
      some cell := by
  have hItems : (Json.array cells).items?.getD [] = cells := rfl
  rw [Row.value?, get?_rowOf hColumn hShown hLast, hItems,
    hCell]
  apply congrArg some
  exact Cell.toJson_ofJson
    (hScalars cell (List.mem_of_getElem? hCell))

/- A name that is not repeated does not come again. -/
theorem notMem_drop_of_nodup
    {columns : List String}
    (hDistinct : columns.Nodup)
    {i : Nat}
    {column : String}
    (hColumn : columns[i]? = some column) :
    column ∉ columns.drop (i + 1) := by
  rcases List.getElem?_eq_some_iff.mp hColumn with ⟨hLt, hAt⟩
  have hDrop : (columns.drop i).Nodup :=
    hDistinct.sublist (List.drop_sublist i columns)
  rw [List.drop_eq_getElem_cons hLt, hAt] at hDrop
  exact (List.nodup_cons.mp hDrop).1

theorem keeps_rowOf
    {columns : List String}
    {cells : List Json}
    (hLength : cells.length = columns.length)
    (hScalars : ∀ cell ∈ cells, cell.IsScalar) :
    (rowOf columns (.array cells)).Keeps columns cells where
  last _ _ _ hColumn hCell hShown hLast :=
    value?_rowOf hScalars hColumn hCell hShown hLast
  names hShown := keys_rowOf_perm hShown (.array cells)
  all hShown hDistinct := by
    constructor
    · have hKeys :=
        (keys_rowOf_perm hShown (.array cells)).length_eq
      rw [hDistinct.dedup, Keyed.keys, List.length_map]
        at hKeys
      exact hKeys
    · apply List.ext_getElem?
      intro i
      rw [List.getElem?_map, List.getElem?_map]
      by_cases hLt : i < columns.length
      · have hColumn := List.getElem?_eq_getElem hLt
        have hCell := List.getElem?_eq_getElem (hLength ▸ hLt)
        rw [hColumn, hCell, Option.map_some, Option.map_some,
          value?_rowOf hScalars hColumn hCell]
        · intro hHidden
          exact hShown (hHidden ▸ List.getElem_mem hLt)
        · exact notMem_drop_of_nodup hDistinct hColumn
      · have hColumns := Nat.le_of_not_lt hLt
        rw [List.getElem?_eq_none hColumns,
          List.getElem?_eq_none (hLength ▸ hColumns)]
        rfl

/-
  A table of scalars becomes as many rows as it has data,
  in the same order, each of which keeps its cells under the
  names of the columns.
-/
theorem resultSet_keeps
    {body : Json}
    {columns : List String}
    {data : List (List Json)}
    (hType : body.member? "type" = some (.text "table"))
    (hNames :
      body.member? "column_names" =
        some (.array (columns.map Json.text)))
    (hData :
      body.member? "data" = some (.array (data.map Json.array)))
    (hCells :
      ∀ cells ∈ data,
        cells.length = columns.length ∧
          ∀ cell ∈ cells, cell.IsScalar) :
    ∃ rows,
      resultSet body = .ok { columns, rows } ∧
        List.Forall₂ (Row.Keeps columns) data rows := by
  refine ⟨_, resultSet_eq_table hType hNames
    (columnLabels_texts columns) hData, ?_⟩
  rw [List.map_map, List.forall₂_map_right_iff,
    List.forall₂_same]
  intro cells hMember
  exact keeps_rowOf (hCells cells hMember).1
    (hCells cells hMember).2

/-
  Columns that are numbered change places in the rows, and
  their cells can be read back all the same.
-/
theorem resultSet_keeps_numbered :
    let body : Json :=
      .object
        [("type", .text "table"),
          ("column_names",
            .array [.text "title", .text "10", .text "9"]),
          ("data",
            .array
              [.array [.text "a", .null, .bool true],
                .array [.text "b", .text "", .text "c"]])]
    let columns := ["title", "10", "9"]
    ∃ first second,
      resultSet body =
          .ok { columns, rows := [first, second] } ∧
        Keyed.keys first.cells = ["9", "10", "title"] ∧
        columns.map first.value? =
          [some (.text "a"), some .null, some (.bool true)] ∧
        columns.map second.value? =
          [some (.text "b"), some (.text ""),
            some (.text "c")] := by
  intro body columns
  have hShown : Row.hiddenColumn ∉ columns := by decide
  have hDistinct : columns.Nodup := by decide
  let data : List (List Json) :=
    [[.text "a", .null, .bool true],
      [.text "b", .text "", .text "c"]]
  have hType : body.member? "type" = some (.text "table") := rfl
  have hNames :
      body.member? "column_names" =
        some (.array (columns.map Json.text)) := rfl
  have hData :
      body.member? "data" =
        some (.array (data.map Json.array)) := rfl
  rcases resultSet_keeps hType hNames hData
      (by simp [data, columns, Json.IsScalar]) with
    ⟨rows, hResult, hRows⟩
  unfold data at hRows
  rcases hRows with _ | ⟨hFirst, _ | ⟨hSecond, ⟨⟩⟩⟩
  rename_i first second
  have hRow :
      first =
        rowOf columns
          (.array [.text "a", .null, .bool true]) := by
    have hRows :=
      congrArg ResultSet.rows (Except.ok.inj hResult)
    exact (List.cons.inj hRows).1.symm
  refine ⟨first, second, hResult, ?_,
    (hFirst.all hShown hDistinct).2,
    (hSecond.all hShown hDistinct).2⟩
  rw [hRow]
  decide +kernel

/-
  What two tables are joined to may have two columns of one
  name, and the cells of the first of them are lost: tables
  that differ there only become the same rows.
-/
theorem resultSet_repeated :
    let joined (id : Nat) : Json :=
      .object
        [("type", .text "table"),
          ("column_names", .array [.text "id", .text "id"]),
          ("data", .array [.array [.ofNat id, .ofNat 2]])]
    resultSet (joined 1) =
        .ok
          { columns := ["id", "id"]
            rows :=
              [{ cells :=
                   [("id", some (.number (.integer 2)))] }] } ∧
      resultSet (joined 1) = resultSet (joined 3) := by
  exact ⟨rfl, rfl⟩

end Response

end KbConsole
