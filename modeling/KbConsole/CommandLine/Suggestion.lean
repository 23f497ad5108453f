import KbConsole.Text.Letter
import KbConsole.Text.Units

/-
  Names that resemble a mistyped word.

  Words are compared by the number of single changes that
  turn one into the other: a unit inserted, deleted or
  replaced, or two neighbours swapped. At most three changes
  count as a resemblance, and more than two fifths of the
  longer word have to stay.

  Key definitions include:
    * `Suggestion.within`
    * `Suggestion.distance?`
    * `Suggestion.similar`
-/

namespace KbConsole

namespace Suggestion

------------------------------------------------------------
-- Distance
------------------------------------------------------------

/-
  Whether at most the given number of changes turn one word
  into the other.
-/
def within : Nat → List Nat → List Nat → Bool
  | n, [], bs => bs.length ≤ n
  | n, as, [] => as.length ≤ n
  | 0, a :: as, b :: bs => a == b && within 0 as bs
  | n + 1, a :: as, b :: bs =>
      (a == b && within (n + 1) as bs) ||
        within n as bs ||
        within n as (b :: bs) ||
        within n (a :: as) bs ||
        (match as, bs with
          | a' :: as, b' :: bs =>
              a == b' && a' == b && within n as bs
          | _, _ => false)
termination_by _ as bs => as.length + bs.length

/- The largest number of changes that counts. -/
def mostChanges : Nat :=
  3

/- The number of changes between two words, if it counts. -/
def distance? (as bs : List Nat) : Option Nat :=
  (List.range (mostChanges + 1)).find? (within · as bs)

------------------------------------------------------------
-- Resemblance
------------------------------------------------------------

/-
  The number of changes between a word and a name that
  resembles it. Names of one letter resemble nothing.
-/
def changes? (word name : String) : Option Nat :=
  let as := Text.units word
  let bs := Text.units name
  let longer := max as.length bs.length
  if bs.length ≤ 1 then
    none
  else
    (distance? as bs).filter fun d =>
      2 * longer < 5 * (longer - d)

/- The fewest changes between a word and one of the names. -/
def fewest? (word : String) (names : List String) : Option Nat :=
  (names.filterMap (changes? word)).min?

/- The names that resemble a word most, in order. -/
def closest (word : String) (names : List String) :
    List String :=
  match fewest? word names with
  | none => []
  | some d =>
      (names.eraseDups.filter (changes? word · == some d)).mergeSort
        (· ≤ ·)

/- A text without its first two characters. -/
def withoutDashes (text : String) : String :=
  String.ofList (text.toList.drop 2)

/-
  The names that resemble a word most. After two dashes,
  only what follows them is compared.
-/
def similar (word : String) (names : List String) :
    List String :=
  match Text.after? ['-', '-'] word.toList with
  | none => closest word names
  | some rest =>
      (closest (String.ofList rest) (names.map withoutDashes)).map
        ("--" ++ ·)

end Suggestion

end KbConsole
