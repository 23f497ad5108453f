import KbConsole.Run.Prompt
import KbConsole.Text.Letter

/-
  Questions as they are put to a user who types.

  Items of a list are numbered, and may be chosen by number
  or by value.

  Key definitions include:
    * `Question.text`
    * `Question.answerOf`
-/

namespace KbConsole

namespace Question

/- The values of a list, in order. -/
def choices : QuestionForm → List (String × String)
  | .list items => items.filterMap fun item =>
      match item with
      | .choice label value => some (label, value)
      | .separator => none
  | _ => []

/- The default as it is shown after a question. -/
def fallbackText (q : Question) : String :=
  match q.form, q.fallback with
  | .confirm, some (.bool true) => " (Y/n)"
  | .confirm, _ => " (y/N)"
  | _, some (.text text) => " (" ++ text ++ ")"
  | _, _ => ""

/- The numbered choices, a line each. -/
def choiceLines (q : Question) : List String :=
  (choices q.form).zipIdx.map fun (choice, i) =>
    "  " ++ toString (i + 1) ++ ") " ++ choice.1 ++ "\n"

/- The text of a question, up to where the answer is typed. -/
def text (q : Question) : String :=
  let asked := "? " ++ q.message ++ q.fallbackText
  match q.form with
  | .list _ => asked ++ "\n" ++ String.join q.choiceLines ++ "> "
  | _ => asked ++ " "

/- The value that a typed number or text chooses. -/
def chosen (choices : List (String × String)) (typed : String) :
    String :=
  let cs := typed.toList
  if Text.isNumeral cs && 1 ≤ Text.numeral cs then
    ((choices.map Prod.snd)[Text.numeral cs - 1]?).getD typed
  else
    typed

/- The decision that a typed text makes. -/
def decided (fallback : Bool) (typed : String) : Bool :=
  match (Text.trim typed).toList.map Char.toLower with
  | [] => fallback
  | c :: _ => c == 'y'

/- The answer that a typed text gives. -/
def answerOf (q : Question) (typed : String) : Answer :=
  match q.form with
  | .input => .text typed
  | .confirm =>
      .bool
        (decided ((q.fallback.map Json.isTruthy).getD false)
          typed)
  | .list items =>
      .text (chosen (choices (.list items)) (Text.trim typed))

end Question

end KbConsole
