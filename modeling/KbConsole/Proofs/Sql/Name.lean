import KbConsole.Proofs.Result
import KbConsole.Sql.Name

/-
  Which texts are names, and of what.

  A text names an identifier, a column, an object or a table
  exactly when it consists of safe identifiers, and then the
  name has this text.

  The main statements are `Identifier.exists_ofText_iff`,
  `Sql.Column.exists_ofText_iff`,
  `Sql.ObjectName.exists_ofRef_iff` and
  `Sql.TableName.exists_ofRef_iff`.
-/

namespace KbConsole

namespace Identifier

variable {field text : String}

theorem ofText_eq_ok_iff {name : Identifier} :
    ofText field text = .ok name ↔ name.text = text := by
  unfold ofText ofText?
  constructor
  · intro hName
    split at hName
    · cases hName
    · rename_i found hFound
      obtain rfl := Except.ok.inj hName
      split at hFound
      · obtain rfl := Option.some.inj hFound
        rfl
      · cases hFound
  · rintro rfl
    rw [dif_pos name.safe]

/- A text is an identifier when it is safe. -/
theorem exists_ofText_iff :
    (∃ name, ofText field text = .ok name) ↔
      isSafe text = true := by
  simp only [ofText_eq_ok_iff]
  constructor
  · rintro ⟨name, rfl⟩
    exact name.safe
  · intro hSafe
    exact ⟨⟨text, hSafe⟩, rfl⟩

end Identifier

namespace Sql

------------------------------------------------------------
-- Columns
------------------------------------------------------------

namespace Column

variable {d : Dialect}
variable {field text : String}

theorem ofText_eq_ok_iff {column : Column} :
    ofText d field text = .ok column ↔
      column.name.text = text ∧
        column.quoted =
          d.reservedWords.contains (Text.lower text) := by
  simp only [ofText, bind_eq_ok_iff, pure_eq_ok_iff,
    Identifier.ofText_eq_ok_iff]
  constructor
  · rintro ⟨name, rfl, rfl⟩
    exact ⟨rfl, rfl⟩
  · rintro ⟨rfl, hQuoted⟩
    refine ⟨column.name, rfl, ?_⟩
    rw [← hQuoted]

theorem name_of_ofText
    {column : Column}
    (hColumn : ofText d field text = .ok column) :
    column.name.text = text :=
  (ofText_eq_ok_iff.mp hColumn).1

/- A text names a column when it is safe. -/
theorem exists_ofText_iff :
    (∃ column, ofText d field text = .ok column) ↔
      Identifier.isSafe text = true := by
  constructor
  · rintro ⟨column, hColumn⟩
    rw [← name_of_ofText hColumn]
    exact column.name.safe
  · intro hSafe
    exact
      ⟨{ name := ⟨text, hSafe⟩
         quoted :=
          d.reservedWords.contains (Text.lower text) },
        ofText_eq_ok_iff.mpr ⟨rfl, rfl⟩⟩

end Column

------------------------------------------------------------
-- Objects
------------------------------------------------------------

/- A project is named when it is absent, empty or safe. -/
theorem exists_project?_iff {project : Option String} :
    (∃ name, project? project = .ok name) ↔
      ∀ text,
        given? project = some text →
          Identifier.isSafe text = true := by
  unfold project?
  cases given? project with
  | none => simp
  | some text =>
      simp only [map_eq_ok_iff, Option.some.injEq,
        forall_eq']
      rw [← Identifier.exists_ofText_iff]
      constructor
      · rintro ⟨_, name, hName, -⟩
        exact ⟨name, hName⟩
      · rintro ⟨name, hName⟩
        exact ⟨_, name, hName, rfl⟩

/- A reference names an object when its parts are safe. -/
theorem ObjectName.exists_ofRef_iff
    {field : String}
    {ref : ObjectRef} :
    (∃ object, ofRef field ref = .ok object) ↔
      Identifier.isSafe ref.name = true ∧
        ∀ text,
          given? ref.project = some text →
            Identifier.isSafe text = true := by
  rw [← exists_project?_iff]
  simp only [ofRef, bind_eq_ok_iff, pure_eq_ok_iff]
  constructor
  · rintro ⟨_, name, hName, project, hProject, -⟩
    exact
      ⟨Identifier.exists_ofText_iff.mp ⟨name, hName⟩,
        project, hProject⟩
  · rintro ⟨hSafe, project, hProject⟩
    rcases Identifier.exists_ofText_iff.mpr hSafe with
      ⟨name, hName⟩
    exact ⟨_, name, hName, project, hProject, rfl⟩

------------------------------------------------------------
-- Tables
------------------------------------------------------------

namespace TableName

theorem ofRef_eq_ok_iff
    {ref : TableRef}
    {table : TableName} :
    ofRef ref = .ok table ↔
      table.datasource.text = ref.datasource ∧
        table.table.text = ref.table := by
  simp only [ofRef, bind_eq_ok_iff, pure_eq_ok_iff,
    Identifier.ofText_eq_ok_iff]
  constructor
  · rintro ⟨datasource, hDatasource, name, hName, rfl⟩
    exact ⟨hDatasource, hName⟩
  · rintro ⟨hDatasource, hName⟩
    exact ⟨_, hDatasource, _, hName, rfl⟩

/- A reference names a table when both its parts are safe. -/
theorem exists_ofRef_iff {ref : TableRef} :
    (∃ table, ofRef ref = .ok table) ↔
      Identifier.isSafe ref.datasource = true ∧
        Identifier.isSafe ref.table = true := by
  simp only [ofRef_eq_ok_iff]
  constructor
  · rintro ⟨table, hDatasource, hName⟩
    rw [← hDatasource, ← hName]
    exact ⟨table.datasource.safe, table.table.safe⟩
  · rintro ⟨hDatasource, hName⟩
    exact
      ⟨{ datasource := ⟨ref.datasource, hDatasource⟩
         table := ⟨ref.table, hName⟩ }, rfl, rfl⟩

end TableName

end Sql

end KbConsole
