import KbConsole.Proofs.Layout
import KbConsole.Proofs.Server.Rows

/-
  What is shown of the data that a server answers with. Each
  column's cells are printed under its name, although the
  columns may change places on the way: names that are array
  indexes come first in the rows.

  Key definitions include:
    * `Response.IsCellAt`
    * `Row.IsRowOf`

  The main statement is `Response.render_resultSet`.
-/

namespace KbConsole

------------------------------------------------------------
-- Cells of Items
------------------------------------------------------------

/-
  The cell that an item of the data has for the column in a
  place: none where it is no array or too short, the item's
  own scalar, or else the JSON text of what is there.
-/
inductive Response.IsCellAt (i : Nat) : Json → Cell → Prop
  | unlisted
      {item : Json}
      (hItems : item.items? = none) :
      IsCellAt i item none
  | missing
      {items : List Json}
      (hShort : items.length ≤ i) :
      IsCellAt i (.array items) none
  | null
      {items : List Json}
      (hValue : items[i]? = some .null) :
      IsCellAt i (.array items) none
  | scalar
      {items : List Json}
      {value : Scalar}
      (hValue : items[i]? = some value.toJson) :
      IsCellAt i (.array items) (some value)
  | composite
      {items : List Json}
      {value : Json}
      (hValue : items[i]? = some value)
      (hComposite : ¬ value.IsScalar) :
      IsCellAt i (.array items) (some (.text value.print))

/-
  A row with the given keys that has, under the name of each
  column, the cell of an item in the place of the column.
-/
structure Row.IsRowOf
    (columns keys : List String)
    (item : Json)
    (row : Row) : Prop where
  keys_eq : Keyed.keys row.cells = keys
  cells :
    ∀ (i : Nat) column, columns[i]? = some column →
      ∃ cell,
        Keyed.get? column row.cells = some cell ∧
          Response.IsCellAt i item cell

namespace Response

/- The cell that is kept is the one in the column's place. -/
theorem isCellAt_items (i : Nat) (item : Json) :
    IsCellAt i item
      ((item.items?.getD [])[i]?.bind Cell.ofJson) := by
  cases item with
  | array items =>
      have hItems : (Json.array items).items?.getD [] = items :=
        rfl
      rw [hItems]
      cases hValue : items[i]? with
      | none =>
          exact IsCellAt.missing
            (List.getElem?_eq_none_iff.mp hValue)
      | some value =>
          have hScalar (scalar : Scalar)
              (hKind : value = scalar.toJson) :
              IsCellAt i (.array items) (some scalar) := by
            rw [hKind] at hValue
            exact IsCellAt.scalar hValue
          cases value with
          | null => exact IsCellAt.null hValue
          | bool value => exact hScalar (.bool value) rfl
          | number value => exact hScalar (.number value) rfl
          | text value => exact hScalar (.text value) rfl
          | array values => exact IsCellAt.composite hValue id
          | object members => exact IsCellAt.composite hValue id
  | null => exact IsCellAt.unlisted rfl
  | bool value => exact IsCellAt.unlisted rfl
  | number value => exact IsCellAt.unlisted rfl
  | text value => exact IsCellAt.unlisted rfl
  | object members => exact IsCellAt.unlisted rfl

section Tables

variable {columns : List String}

/- All rows of one table have the same keys. -/
theorem isRowOf_rowOf
    (hDistinct : columns.Nodup)
    (hShown : Row.hiddenColumn ∉ columns)
    (first item : Json) :
    (rowOf columns item).IsRowOf columns
      (Keyed.keys (rowOf columns first).cells) item where
  keys_eq := keys_rowOf_congr hShown item first
  cells := by
    intro i column hColumn
    refine ⟨_, ?_, isCellAt_items i item⟩
    apply get?_rowOf hColumn
    · intro hHidden
      rw [hHidden] at hColumn
      exact hShown (List.mem_of_getElem? hColumn)
    · exact notMem_drop_of_nodup hDistinct hColumn

/-
  A table of any data under distinct names is shown with
  each name once, and with the cells of each item of the
  data under the names of their columns.
-/
theorem render_resultSet
    {body : Json}
    {names data : List Json}
    (hType : body.member? "type" = some (.text "table"))
    (hNames :
      body.member? "column_names" = some (.array names))
    (hColumns : columnLabels names = .ok columns)
    (hSome : columns ≠ [])
    (hDistinct : columns.Nodup)
    (hShown : Row.hiddenColumn ∉ columns)
    (hLines : ∀ column ∈ columns, '\n' ∉ column.toList)
    (hData : body.member? "data" = some (.array data))
    (hFilled : data ≠ [])
    (nothing : String) :
    ∃ rows keys text,
      resultSet body = .ok { columns, rows } ∧
        keys.Perm columns ∧
        List.Forall₂ (Row.IsRowOf columns keys) data rows ∧
        (Outcome.ofResult { columns, rows }).render nothing =
          .ok text ∧
        Layout.IsTableOf text keys rows := by
  cases data with
  | nil => exact absurd rfl hFilled
  | cons first rest =>
      have hPerm := keys_rowOf_perm hShown first
      rw [hDistinct.dedup] at hPerm
      have hCells : (rowOf columns first).cells ≠ [] := by
        intro hNone
        rw [hNone] at hPerm
        exact hSome hPerm.nil_eq.symm
      rcases Layout.exists_table hCells
          (fun column hMember =>
            hLines column (hPerm.mem_iff.mp hMember))
          (rest.map (rowOf columns)) with
        ⟨text, hTable, hLayout⟩
      refine
        ⟨(first :: rest).map (rowOf columns), _, text,
          resultSet_eq_table hType hNames hColumns hData,
          hPerm, ?_, hTable, hLayout⟩
      rw [List.forall₂_map_right_iff, List.forall₂_same]
      intro item _
      exact isRowOf_rowOf hDistinct hShown first item

/-
  A numbered column moves to the front, and the cells move
  with it. Here one item is no array, another is too short,
  and a cell ends in a blank that is cut off.
-/
theorem render_resultSet_numbered :
    let data : List Json :=
      [.array [.text "a\tb ", .array [.null]], .bool true,
        .array [.text ""]]
    let body : Json :=
      .object
        [("type", .text "table"),
          ("column_names", .array [.text "title", .ofNat 10]),
          ("data", .array data)]
    let columns := ["title", "10"]
    ∃ rows keys text,
      resultSet body = .ok { columns, rows } ∧
        List.Forall₂ (Row.IsRowOf columns keys) data rows ∧
        (Outcome.ofResult { columns, rows }).render "" =
          .ok text ∧
        Layout.IsTableOf text keys rows ∧
        keys = ["10", "title"] ∧
        Text.splitOn '\n' text =
          ["10      title", "-------------", "[null]  a b", "",
            "", "", "(3 rows)"] := by
  intro data body columns
  have hType : body.member? "type" = some (.text "table") := rfl
  have hColumns :
      columnLabels [.text "title", .ofNat 10] = .ok columns :=
    rfl
  rcases render_resultSet hType rfl hColumns
      (by decide) (by decide) (by decide) (by decide)
      rfl (by decide) "" with
    ⟨rows, keys, text, hResult, -, hRows, hText, hTable⟩
  have hFound : rows = data.map (rowOf columns) :=
    (congrArg ResultSet.rows (Except.ok.inj hResult)).symm
  subst hFound
  refine ⟨_, keys, text, hResult, hRows, hText, hTable, ?_, ?_⟩
  · have hFirst := (List.forall₂_cons.mp hRows).1
    rw [← hFirst.keys_eq]
    decide +kernel
  · rw [← Except.ok.inj hText]
    decide +kernel

end Tables

end Response

end KbConsole
