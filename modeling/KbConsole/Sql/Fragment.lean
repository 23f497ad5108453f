import KbConsole.Text.Blank

/-
  Fragments of SQL that the user writes.

  Key definitions include:
    * `Sql.withoutTerminator`
-/

namespace KbConsole

namespace Sql

/-
  A fragment without the semicolons at its end and without
  the blanks around it.
-/
def withoutTerminator (sql : String) : String :=
  String.ofList
    (Text.trimChars
      (Text.dropEnd (· == ';') (Text.trimChars sql.toList)))

end Sql

end KbConsole
