import KbConsole.Number.Notation

/-
  What can be wrong with the user's input.

  Each problem is a cause. Its kind, its message and the
  field it concerns follow from the cause.

  Key definitions include:
    * `ErrorKind`
    * `Problem`
    * `Problem.kind`
    * `Problem.field?`
    * `Problem.message`
-/

namespace KbConsole

------------------------------------------------------------
-- Kinds
------------------------------------------------------------

/- The kinds of failures that are told apart. -/
inductive ErrorKind where
  | invalidJson
  | missingRequiredField
  | invalidIdentifier
  | unsupportedOperator
  | invalidValue
  | unknownOperation
  | remoteFailure
deriving DecidableEq, Repr, Inhabited

namespace ErrorKind

/- The name under which a kind is reported. -/
def name : ErrorKind → String
  | invalidJson => "InvalidJSON"
  | missingRequiredField => "MissingRequiredField"
  | invalidIdentifier => "InvalidIdentifier"
  | unsupportedOperator => "UnsupportedOperator"
  | invalidValue => "InvalidValue"
  | unknownOperation => "UnknownOperation"
  | remoteFailure => "RemoteFailure"

end ErrorKind

------------------------------------------------------------
-- Causes
------------------------------------------------------------

/-
  A problem with the user's input. Labels and flags name the
  option or field in the user's words.
-/
inductive Problem where
  /- A required field is missing or blank. -/
  | missing (field : String)
  /- A name is not a safe identifier. -/
  | unsafeName (field name : String)
  /- A number has no decimal numeral. -/
  | notFinite (value : Number)
  /- An option is not JSON text. -/
  | malformedJson (flag text : String)
  /- A JSON option is not an object. -/
  | notObject (flag : String)
  /- A metadata key is mapped to something that is no text. -/
  | sourceNotText (flag key : String)
  /- A filter is not an object. -/
  | filterNotObject (flag : String)
  /- A filter compares a key with a list or with nothing. -/
  | filterValue (flag key : String)
  /- The operand of a filter operator is no scalar. -/
  | filterOperand (flag key operator : String)
  /- A filter on one key has no or several operators. -/
  | operatorCount (key : String) (count : Nat)
  /- A filter operator is unknown. -/
  | unknownOperator (key operator : String)
  /- A list has a blank entry. -/
  | emptyEntry (label text : String)
  /- A table is not given by a datasource and a name. -/
  | malformedTable (label text : String)
  /- A sort order has neither of its two forms. -/
  | malformedOrder (text : String)
  /- A schedule does not follow its grammar. -/
  | malformedSchedule (text : String)
  /- A schedule repeats after zero units. -/
  | zeroSchedule (text : String)
  /- A time is not given in one of its two forms. -/
  | malformedTime (flag text : String)
  /- A parameter has no key before an equals sign. -/
  | malformedParameter (text : String)
  /- A count is not a whole number above zero. -/
  | notPositive (label text : String)
  /- Two sources are given for one ingestion. -/
  | twoSources
  /- An evaluation version is unknown. -/
  | unknownVersion (version : String)
  /- An evaluation neither evaluates nor generates. -/
  | nothingToEvaluate
  /- A metadata key takes the name of another column. -/
  | metadataCollision (key : String)
deriving DecidableEq, Repr

namespace Problem

/- The kind of a problem. -/
def kind : Problem → ErrorKind
  | missing _ => .missingRequiredField
  | unsafeName _ _ => .invalidIdentifier
  | malformedJson _ _ => .invalidJson
  | notObject _ => .invalidJson
  | sourceNotText _ _ => .invalidJson
  | filterNotObject _ => .invalidJson
  | filterValue _ _ => .invalidJson
  | filterOperand _ _ _ => .invalidJson
  | operatorCount _ _ => .unsupportedOperator
  | unknownOperator _ _ => .unsupportedOperator
  | _ => .invalidValue

/- The field or option that a problem concerns. -/
def field? : Problem → Option String
  | missing field => some field
  | unsafeName field _ => some field
  | notFinite _ => none
  | malformedJson flag _ => some flag
  | notObject flag => some flag
  | sourceNotText flag _ => some flag
  | filterNotObject flag => some flag
  | filterValue flag _ => some flag
  | filterOperand flag _ _ => some flag
  | operatorCount key _ => some key
  | unknownOperator key _ => some key
  | emptyEntry label _ => some label
  | malformedTable label _ => some label
  | malformedOrder _ => some "--order-by"
  | malformedSchedule _ => some "--every"
  | zeroSchedule _ => some "--every"
  | malformedTime flag _ => some flag
  | malformedParameter _ => some "--param"
  | notPositive label _ => some label
  | twoSources => some "--from"
  | unknownVersion _ => some "--eval-version"
  | nothingToEvaluate => some "--no-evaluate"
  | metadataCollision _ => some "--metadata-map"

/- How to quote JSON text in the common shells. -/
def quotingHint : String :=
  "Hint: in bash/zsh wrap the JSON in single quotes; " ++
    "in PowerShell or cmd escape the inner double quotes " ++
    "(\\\")."

/- The text that follows what was expected. -/
def got (text : String) : String :=
  ", got \"" ++ text ++ "\""

/- The message that explains a problem to the user. -/
def message : Problem → String
  | missing field => "Missing required field: " ++ field
  | unsafeName field name =>
      "Invalid " ++ field ++ " '" ++ name ++
        "': use only letters, digits and underscores"
  | notFinite value => "Not a finite number: " ++ value.text
  | malformedJson flag text =>
      "Invalid JSON in " ++ flag ++
        ": <json error>. Received: " ++ text ++ "\n" ++
        quotingHint
  | notObject flag => flag ++ " must be a JSON object"
  | sourceNotText flag key =>
      flag ++ " values must be source column names " ++
        "(strings); '" ++ key ++ "' is not"
  | filterNotObject flag =>
      flag ++ " must be a JSON object, e.g. " ++
        "'\x7b\"author\": \"pg\"\x7d'"
  | filterValue flag key =>
      flag ++ ": value for '" ++ key ++
        "' must be a string, number, boolean or an " ++
        "operator object"
  | filterOperand flag key operator =>
      flag ++ ": operand of '" ++ key ++ "." ++ operator ++
        "' must be a string, number or boolean"
  | operatorCount key count =>
      "Filter on '" ++ key ++
        "' must use exactly one operator (got " ++
        toString count ++ ")"
  | unknownOperator key operator =>
      "Unsupported filter operator '" ++ operator ++
        "' on '" ++ key ++
        "'. Supported: $gt, $gte, $lt, $lte"
  | emptyEntry label text =>
      label ++ " contains an empty entry: \"" ++ text ++ "\""
  | malformedTable label text =>
      label ++ " must look like <datasource>.<table>" ++
        got text
  | malformedOrder text =>
      "--order-by must look like \"<column> [ASC|DESC]\"" ++
        got text
  | malformedSchedule text =>
      "Schedule must look like \"every 2 hours\" or " ++
        "\"day\"" ++ got text
  | zeroSchedule text =>
      "Schedule count must be at least 1" ++ got text
  | malformedTime flag text =>
      flag ++ " must be \"YYYY-MM-DD\" or " ++
        "\"YYYY-MM-DD HH:MM:SS\"" ++ got text
  | malformedParameter text =>
      "--param expects key=value" ++ got text
  | notPositive label text =>
      label ++ " must be a positive integer" ++ got text
  | twoSources =>
      "Use either --from or --from-hackernews, not both"
  | unknownVersion version =>
      "--eval-version must be doc_id or llm_relevancy" ++
        got version
  | nothingToEvaluate =>
      "--no-evaluate only makes sense together with " ++
        "--generate-data"
  | metadataCollision key =>
      "Metadata key '" ++ key ++ "' collides with the " ++
        key ++ " column"

end Problem

end KbConsole
