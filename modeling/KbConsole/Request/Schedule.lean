import KbConsole.Request.Basic
import KbConsole.Text.Blank

/-
  Schedules and points in time given as text.

  A schedule is a list of words: `every` or not, a number
  or not, and a unit with or without a plural ending.

  Key definitions include:
    * `TimeUnit.ofText?`
    * `Schedule.ofText`
    * `Timestamp.ofText`
-/

namespace KbConsole

------------------------------------------------------------
-- Schedules
------------------------------------------------------------

/-
  The unit that a word names, in the singular or with a
  final s, in any case of letters.
-/
def TimeUnit.ofText? (word : String) : Option TimeUnit :=
  TimeUnit.all.find? fun unit =>
    Text.sameLetters word unit.name ||
      Text.sameLetters word (unit.name ++ "s")

/- The words of a schedule without a leading `every`. -/
def Schedule.withoutEvery : List String → List String
  | [] => []
  | word :: words =>
      if Text.sameLetters word "every" then
        words
      else
        word :: words

/- The count and unit that the remaining words name. -/
def Schedule.ofWords?
    (words : List String) : Option Schedule :=
  match words with
  | [unit] =>
      (TimeUnit.ofText? unit).map fun unit => { unit }
  | [count, unit] =>
      if Text.isNumeral count.toList then
        (TimeUnit.ofText? unit).map fun unit =>
          { count := some (.ofNumeral count.toList), unit }
      else
        none
  | _ => none

/- The schedule that a text writes; its count is not zero. -/
def Schedule.ofText (text : String) : Except Problem Schedule :=
  match ofWords? (withoutEvery (Text.words text)) with
  | none => .error (.malformedSchedule text)
  | some schedule =>
      if schedule.count = some (.integer 0) then
        .error (.zeroSchedule text)
      else
        .ok schedule

------------------------------------------------------------
-- Points in Time
------------------------------------------------------------

/-
  Whether characters follow a pattern, in which a zero
  stands for any digit.
-/
def fitsPattern : List Char → List Char → Bool
  | [], [] => true
  | '0' :: pattern, c :: cs =>
      c.isDigit && fitsPattern pattern cs
  | p :: pattern, c :: cs => p == c && fitsPattern pattern cs
  | _, _ => false

/-
  A point in time is a day, or a day and a time of day. The
  numbers are not checked against the calendar.
-/
def Timestamp.ofText
    (flag text : String) : Except Problem String :=
  let cs := Text.trimChars text.toList
  if fitsPattern "0000-00-00".toList cs ||
      fitsPattern "0000-00-00 00:00:00".toList cs then
    .ok (String.ofList cs)
  else
    .error (.malformedTime flag text)

end KbConsole
