import KbConsole.Dispatch
import KbConsole.Json.Printer
import KbConsole.Terminal.Line

/-
  Reports as lines of output: text for people, or one JSON
  document.

  Key definitions include:
    * `Outcome.toJson`
    * `Report.document`
    * `Report.lines`
-/

namespace KbConsole

------------------------------------------------------------
-- Documents
------------------------------------------------------------

/- A list of texts as a JSON array. -/
def Json.ofTexts (texts : List String) : Json :=
  .array (texts.map Json.text)

/- An outcome as a JSON object. -/
def Outcome.toJson : Outcome → Json
  | empty => .object [("type", .text "empty")]
  | failure kind message =>
      .object
        [("type", .text "failure"), ("kind", .text kind.name),
          ("message", .text message)]
  | rows columns found =>
      .object
        [("type", .text "rows"),
          ("columns", Json.ofTexts columns),
          ("rows", .array (found.map Row.toJson))]

namespace Report

/- The document about statements, an outcome and warnings. -/
def documentOf
    (statements : List String)
    (outcome : Json)
    (warnings : List String) : Json :=
  .object
    [("sql", Json.ofTexts statements), ("outcome", outcome),
      ("warnings", Json.ofTexts warnings)]

/- The document about an operation. -/
def document (report : Report) : Json :=
  documentOf report.statements report.outcome.toJson
    report.warnings

------------------------------------------------------------
-- Lines
------------------------------------------------------------

/- The styles in which the text of a report is shown. -/
def textStyles (report : Report) : List Style :=
  match report.outcome with
  | .failure _ _ => [.red]
  | .rows _ _ => []
  | .empty =>
      if !report.executed then
        []
      else if report.text = Outcome.nothingFound then
        [.yellow]
      else
        [.green]

/- The lines of a report for people to read. -/
def textLines (report : Report) : List Line :=
  report.warnings.map (fun w => Line.warning ("Warning: " ++ w)) ++
    Line.block report.textStyles report.text

/- The lines of a report, as a document or as text. -/
def lines (asJson : Bool) (report : Report) : List Line :=
  if asJson then
    [Line.plain report.document.printIndented]
  else
    report.textLines

end Report

end KbConsole
