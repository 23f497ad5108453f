/-
  The dialect of SQL that the server speaks.

  Key definitions include:
    * `Sql.MetadataStrategy`
    * `Sql.Dialect`
-/

namespace KbConsole

namespace Sql

/-
  How the metadata of ingested rows is handed over: each
  key as a column, or all keys in one JSON column.
-/
inductive MetadataStrategy where
  | columns
  | json
deriving DecidableEq, Repr, Inhabited

/-
  A dialect. Its reserved words, in lower case, are the
  column names that need backquotes.
-/
structure Dialect where
  name : String := "mindsdb"
  escapesBackslash : Bool := false
  metadataStrategy : MetadataStrategy := .columns
  reservedWords : List String :=
    ["asc", "by", "date", "desc", "from", "group", "index",
      "key", "limit", "order", "select", "table", "time",
      "timestamp", "user", "where"]
deriving DecidableEq, Repr, Inhabited

end Sql

end KbConsole
