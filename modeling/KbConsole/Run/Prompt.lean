import KbConsole.Check
import KbConsole.Json.Basic

/-
  Questions to the user and their answers.

  A question for text that is checked wants a text; an empty
  one stands for the default. Texts that the check refuses
  are noted, and the next answer is taken. Any other
  question takes any answer.

  Key definitions include:
    * `Answer`, `Question`, `Exchange`
    * `Unanswered`
    * `Question.settle`
-/

namespace KbConsole

------------------------------------------------------------
-- Questions and Answers
------------------------------------------------------------

/- An answer: a text, a truth value or any other value. -/
abbrev Answer :=
  Json

/- An item of a menu. -/
inductive MenuItem where
  | choice (label value : String)
  | separator
deriving DecidableEq, Repr, Inhabited

/- How a question is to be answered. -/
inductive QuestionForm where
  | input
  | confirm
  | list (items : List MenuItem)
deriving DecidableEq, Repr, Inhabited

/- A question to the user. -/
structure Question where
  form : QuestionForm
  name : String
  message : String
  fallback : Option Answer := none
deriving Repr, Inhabited

/-
  A question with the texts that were refused, each with the
  reason, and the answer that was taken, if there was one.
-/
structure Exchange where
  question : Question
  rejected : List (String × String) := []
  answer : Option Answer := none
deriving Repr, Inhabited

------------------------------------------------------------
-- Taking Answers
------------------------------------------------------------

/- Why a question has no answer. -/
inductive Unanswered where
  /- No answer was left. -/
  | closed
  /- Nothing came where a text was wanted. -/
  | missingText
  /- Something else came where a text was wanted. -/
  | notText
deriving DecidableEq, Repr, Inhabited

/- What is reported about a question without an answer. -/
def Unanswered.message : Unanswered → String
  | closed => "prompt closed"
  | missingText =>
      "Cannot read properties of null (reading 'trim')"
  | notText => "input.trim is not a function"

/- What became of a question for text. -/
structure Settled where
  rejected : List (String × String) := []
  result : Except Unanswered String := .error .closed
  rest : List Answer := []
deriving Repr, Inhabited

namespace Question

/- An answer; the empty text stands for the default. -/
def filled (q : Question) : Answer → Answer
  | .text "" => q.fallback.getD (.text "")
  | answer => answer

/- The text of an answer. -/
def textOf : Answer → Except Unanswered String
  | .text value => .ok value
  | .null => .error .missingText
  | _ => .error .notText

/- Take answers up to the first one that the check accepts. -/
def settle (q : Question) (check : Check) :
    List Answer → Settled
  | [] => {}
  | answer :: rest =>
      match textOf (q.filled answer) with
      | .error why => { result := .error why, rest }
      | .ok text =>
          match check text with
          | none => { result := .ok text, rest }
          | some reason =>
              let settled := q.settle check rest
              { settled with
                rejected := (text, reason) :: settled.rejected }

end Question

end KbConsole
