import KbConsole.Sql.Dialect
import Mathlib.Data.List.Basic

/-
  Statements as a reader of the dialect sees them.

  A reader goes through a statement character by character.
  It stands outside every quoted token, or inside one: a
  text between single quotes, in which a doubled quote and,
  in some dialects, a backslash escape; a JSON string
  between double quotes; a name between backquotes.

  Key definitions include:
    * `Sql.Place`, `Sql.Place.next`
    * `Sql.visible`
    * `Sql.EndsOutside`, `Sql.HidesTerminators`
    * `Sql.EndsOnce`, `Sql.opensComment`
    * `Sql.IsBalanced`, `Sql.IsSealed`

  The main statement is `Sql.seen_append`: what follows a
  closed text is read as if it stood alone.
-/

namespace KbConsole

namespace Sql

------------------------------------------------------------
-- Places
------------------------------------------------------------

/- Where a reader stands between two characters. -/
inductive Place where
  /- Outside every quoted token. -/
  | outside
  /- Between single quotes. -/
  | text
  /- Between single quotes, after an escaping backslash. -/
  | textEscape
  /- After a single quote that ends a text or is doubled. -/
  | textEnd
  /- Between double quotes. -/
  | json
  /- Between double quotes, after a backslash. -/
  | jsonEscape
  /- Between backquotes. -/
  | backquoted
deriving DecidableEq, Repr

namespace Place

/- Where a character outside every token leads. -/
def opened (c : Char) : Place :=
  if c = '\'' then text
  else if c = '"' then json
  else if c = '\x60' then backquoted
  else outside

/- Where the next character leads. -/
def next (d : Dialect) : Place → Char → Place
  | outside, c => opened c
  | text, c =>
      if c = '\'' then textEnd
      else if c = '\\' ∧ d.escapesBackslash then textEscape
      else text
  | textEscape, _ => text
  | textEnd, c => if c = '\'' then text else opened c
  | json, c =>
      if c = '"' then outside
      else if c = '\\' then jsonEscape
      else json
  | jsonEscape, _ => json
  | backquoted, c =>
      if c = '\x60' then outside else backquoted

/- Where a list of characters leads. -/
def after
    (d : Dialect)
    (p : Place)
    (cs : List Char) : Place :=
  cs.foldl (next d) p

/-
  Whether a statement may end here: a text that may have
  ended has ended then.
-/
def isOutside : Place → Bool
  | outside => true
  | textEnd => true
  | _ => false

/- Whether the next character belongs to no quoted token. -/
def shows (d : Dialect) (p : Place) (c : Char) : Bool :=
  p.isOutside && p.next d c == outside

end Place

------------------------------------------------------------
-- What a Reader Sees
------------------------------------------------------------

/- The characters, those of quoted tokens blotted out. -/
def visible (d : Dialect) :
    Place → List Char → List (Option Char)
  | _, [] => []
  | p, c :: cs =>
      (if p.shows d c then some c else none) ::
        visible d (p.next d c) cs

/- Whether a comment opens with the first character. -/
def startsComment : List (Option Char) → Bool
  | some '#' :: _ => true
  | some '-' :: some '-' :: _ => true
  | some '/' :: some '*' :: _ => true
  | _ => false

/- Whether a comment opens among the visible characters. -/
def opensComment : List (Option Char) → Bool
  | [] => false
  | c :: rest => startsComment (c :: rest) || opensComment rest

/- The visible characters of a text read from outside. -/
def seen (d : Dialect) (sql : String) : List (Option Char) :=
  visible d .outside sql.toList

/- A text that closes every quoted token that it opens. -/
def EndsOutside (d : Dialect) (sql : String) : Prop :=
  (Place.outside.after d sql.toList).isOutside = true

/- A text whose semicolons all stand in quoted tokens. -/
def HidesTerminators (d : Dialect) (sql : String) : Prop :=
  some ';' ∉ seen d sql

/-
  A text that can stand within a statement: it closes its
  tokens and ends no statement.
-/
structure IsBalanced (d : Dialect) (sql : String) : Prop where
  endsOutside : EndsOutside d sql
  hides : HidesTerminators d sql

instance (d : Dialect) (sql : String) :
    Decidable (IsBalanced d sql) :=
  decidable_of_iff
    ((Place.outside.after d sql.toList).isOutside = true ∧
      some ';' ∉ seen d sql)
    ⟨fun h => ⟨h.1, h.2⟩, fun h => ⟨h.endsOutside, h.hides⟩⟩

/-
  A text with one semicolon outside quoted tokens, which is
  its last character.
-/
def EndsOnce (d : Dialect) (sql : String) : Prop :=
  ∃ front,
    seen d sql = front ++ [some ';'] ∧ some ';' ∉ front

/-
  A statement that is one statement to its reader: all its
  tokens are closed, it ends once, and nothing of it is a
  comment.
-/
structure IsSealed (d : Dialect) (sql : String) : Prop where
  endsOutside : EndsOutside d sql
  endsOnce : EndsOnce d sql
  noComment : opensComment (seen d sql) = false

------------------------------------------------------------
-- Reading Piece by Piece
------------------------------------------------------------

namespace Place

variable {d : Dialect}

@[simp] theorem after_nil (p : Place) :
    p.after d [] = p := rfl

@[simp] theorem after_cons
    (p : Place)
    (c : Char)
    (cs : List Char) :
    p.after d (c :: cs) = (p.next d c).after d cs := rfl

theorem after_append
    (p : Place)
    (cs ds : List Char) :
    p.after d (cs ++ ds) = (p.after d cs).after d ds :=
  List.foldl_append

/-
  A quote after a closed text opens a text again, so that
  the end of a text is like any other place outside.
-/
theorem next_eq_opened
    {p : Place}
    (hOutside : p.isOutside = true)
    (c : Char) :
    p.next d c = opened c := by
  cases p with
  | outside => rfl
  | textEnd =>
      by_cases hQuote : c = '\''
      · simp [next, opened, hQuote]
      · simp [next, hQuote]
  | _ => simp [isOutside] at hOutside

theorem shows_eq
    {p : Place}
    (hOutside : p.isOutside = true)
    (c : Char) :
    p.shows d c = (opened c == outside) := by
  rw [shows, hOutside, next_eq_opened hOutside, Bool.true_and]

end Place

@[simp] theorem visible_nil (d : Dialect) (p : Place) :
    visible d p [] = [] := by
  cases p <;> rfl

theorem visible_append
    (d : Dialect)
    (p : Place)
    (cs ds : List Char) :
    visible d p (cs ++ ds) =
      visible d p cs ++ visible d (p.after d cs) ds := by
  induction cs generalizing p with
  | nil => simp
  | cons c cs ih => simp [visible, ih]

/- All places outside see the same. -/
theorem visible_of_isOutside
    {d : Dialect}
    {p : Place}
    (hOutside : p.isOutside = true)
    (cs : List Char) :
    visible d p cs = visible d .outside cs := by
  cases cs with
  | nil => simp
  | cons c cs =>
      rw [visible, visible, Place.shows_eq hOutside,
        Place.next_eq_opened hOutside]
      rfl

/- All places outside lead to the same end. -/
theorem isOutside_after
    {d : Dialect}
    {p : Place}
    (hOutside : p.isOutside = true)
    (cs : List Char) :
    (p.after d cs).isOutside =
      (Place.outside.after d cs).isOutside := by
  cases cs with
  | nil => exact hOutside
  | cons c cs =>
      rw [Place.after_cons, Place.next_eq_opened hOutside]
      rfl

/- What follows a closed text is read as if it stood alone. -/
theorem seen_append
    {d : Dialect}
    {a : String}
    (hClosed : EndsOutside d a)
    (b : String) :
    seen d (a ++ b) = seen d a ++ seen d b := by
  rw [seen, String.toList_append, visible_append,
    visible_of_isOutside hClosed]
  rfl

theorem IsBalanced.append
    {d : Dialect}
    {a b : String}
    (hFirst : IsBalanced d a)
    (hSecond : IsBalanced d b) :
    IsBalanced d (a ++ b) := by
  constructor
  · rw [EndsOutside, String.toList_append,
      Place.after_append, isOutside_after hFirst.endsOutside]
    exact hSecond.endsOutside
  · rw [HidesTerminators, seen_append hFirst.endsOutside,
      List.mem_append, not_or]
    exact ⟨hFirst.hides, hSecond.hides⟩

/- A terminator after a balanced text ends it once. -/
theorem IsBalanced.terminated
    {d : Dialect}
    {body : String}
    (hBody : IsBalanced d body) :
    EndsOutside d (body ++ ";") ∧ EndsOnce d (body ++ ";") := by
  constructor
  · rw [EndsOutside, String.toList_append,
      Place.after_append, isOutside_after hBody.endsOutside]
    rfl
  · exact ⟨seen d body, seen_append hBody.endsOutside ";",
      hBody.hides⟩

------------------------------------------------------------
-- Comments Piece by Piece
------------------------------------------------------------

/-
  Visible characters after which no comment can open that
  begins before the end.
-/
def Settles (shown : List (Option Char)) : Prop :=
  ∀ c, shown.getLast? = some (some c) → c ≠ '-' ∧ c ≠ '/'

/- A comment opens where two characters meet, or not at all. -/
theorem startsComment_cons_cons
    (x y : Option Char)
    (rest rest' : List (Option Char)) :
    startsComment (x :: y :: rest) =
      startsComment (x :: y :: rest') := by
  unfold startsComment
  split <;> simp_all

/- A character that opens no comment opens none with others. -/
theorem startsComment_cons_of_settles
    {x : Option Char}
    (hAlone : startsComment [x] = false)
    (hSettles : Settles [x])
    (rest : List (Option Char)) :
    startsComment (x :: rest) = false := by
  unfold startsComment
  split
  · simp [startsComment] at hAlone
    simp_all
  · exact absurd rfl (hSettles '-' (by simp_all)).1
  · exact absurd rfl (hSettles '/' (by simp_all)).2
  · rfl

theorem opensComment_append
    {a b : List (Option Char)}
    (hFirst : opensComment a = false)
    (hSecond : opensComment b = false)
    (hSettles : Settles a) :
    opensComment (a ++ b) = false := by
  induction a with
  | nil => exact hSecond
  | cons x a ih =>
      rw [opensComment, Bool.or_eq_false_iff] at hFirst
      rw [List.cons_append, opensComment,
        Bool.or_eq_false_iff]
      cases a with
      | nil =>
          exact
            ⟨startsComment_cons_of_settles hFirst.1
              hSettles b, hSecond⟩
      | cons y a =>
          refine ⟨?_, ih hFirst.2 ?_⟩
          · rw [List.cons_append,
              startsComment_cons_cons x y _ a]
            exact hFirst.1
          · intro c hLast
            exact hSettles c (by simpa using hLast)

end Sql

end KbConsole
