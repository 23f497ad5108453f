import KbConsole.Proofs.Json.Text
import KbConsole.Proofs.Sql.Scan
import KbConsole.Sql.Statement

/-
  Fragments of statements that can stand anywhere outside
  quoted tokens without changing how the rest is read.

  Key definitions include:
    * `Sql.isPlain`
    * `Sql.IsHarmless`
    * `Sql.Fragment`

  The main statements are `Sql.IsHarmless.append`, and that
  quoted texts, JSON strings, numbers and names are such
  fragments.
-/

namespace KbConsole

namespace Sql

------------------------------------------------------------
-- Fragments
------------------------------------------------------------

/-
  Characters that close all their tokens, hide their
  semicolons, open no comment and begin none at their end.
-/
structure IsHarmless
    (d : Dialect)
    (cs : List Char) : Prop where
  closed : (Place.outside.after d cs).isOutside = true
  hides : some ';' ∉ visible d .outside cs
  noComment : opensComment (visible d .outside cs) = false
  settles : Settles (visible d .outside cs)

/- A text of harmless characters. -/
def Fragment (d : Dialect) (s : String) : Prop :=
  IsHarmless d s.toList

variable {d : Dialect}

theorem IsHarmless.nil : IsHarmless d [] where
  closed := rfl
  hides := by simp
  noComment := by simp [opensComment]
  settles := by simp [Settles]

theorem IsHarmless.append
    {cs ds : List Char}
    (hFirst : IsHarmless d cs)
    (hSecond : IsHarmless d ds) :
    IsHarmless d (cs ++ ds) := by
  have hVisible :
      visible d .outside (cs ++ ds) =
        visible d .outside cs ++ visible d .outside ds := by
    rw [visible_append, visible_of_isOutside hFirst.closed]
  constructor
  · rw [Place.after_append, isOutside_after hFirst.closed]
    exact hSecond.closed
  · rw [hVisible, List.mem_append, not_or]
    exact ⟨hFirst.hides, hSecond.hides⟩
  · rw [hVisible]
    exact opensComment_append hFirst.noComment
      hSecond.noComment hFirst.settles
  · rw [hVisible]
    intro c hLast
    rw [List.getLast?_append, Option.or_eq_some_iff] at hLast
    rcases hLast with hLast | ⟨_, hLast⟩
    · exact hSecond.settles c hLast
    · exact hFirst.settles c hLast

theorem Fragment.append
    {a b : String}
    (hFirst : Fragment d a)
    (hSecond : Fragment d b) :
    Fragment d (a ++ b) := by
  rw [Fragment, String.toList_append]
  exact IsHarmless.append hFirst hSecond

/- Fragments with fragments between them make a fragment. -/
theorem Fragment.intercalate
    {separator : String}
    (hSeparator : Fragment d separator)
    {parts : List String}
    (hParts : ∀ part ∈ parts, Fragment d part) :
    Fragment d (separator.intercalate parts) := by
  induction parts with
  | nil =>
      rw [String.intercalate_nil]
      exact IsHarmless.nil
  | cons part parts ih =>
      have hPart : Fragment d part :=
        hParts part (by simp)
      cases parts with
      | nil =>
          rw [String.intercalate_singleton]
          exact hPart
      | cons next parts =>
          rw [String.intercalate_cons_cons]
          refine (hPart.append hSeparator).append (ih ?_)
          intro later hLater
          exact hParts later (by simp [hLater])

theorem Fragment.intercalate_map
    {α : Type}
    {separator : String}
    (hSeparator : Fragment d separator)
    {write : α → String}
    {values : List α}
    (hValues : ∀ value ∈ values, Fragment d (write value)) :
    Fragment d (separator.intercalate (values.map write)) := by
  apply Fragment.intercalate hSeparator
  intro part hPart
  rcases List.mem_map.mp hPart with ⟨value, hValue, rfl⟩
  exact hValues value hValue

------------------------------------------------------------
-- Plain Characters
------------------------------------------------------------

/-
  Whether a character outside quoted tokens neither opens
  one nor ends a statement, and takes no part in opening a
  comment, with the star as the one exception.
-/
def isPlain (c : Char) : Bool :=
  c != '\'' && c != '"' && c != '\x60' && c != ';' &&
    c != '#' && c != '-' && c != '/'

/- A character that is no quote leads nowhere. -/
theorem Place.opened_of_isPlain
    {c : Char}
    (hPlain : isPlain c = true) :
    Place.opened c = .outside := by
  simp only [isPlain, Bool.and_eq_true, bne_iff_ne] at hPlain
  simp [Place.opened, hPlain]

theorem isHarmless_singleton
    {c : Char}
    (hPlain : isPlain c = true) :
    IsHarmless d [c] := by
  have hNext := Place.opened_of_isPlain hPlain
  have hVisible : visible d .outside [c] = [some c] := by
    simp [visible, Place.shows, Place.isOutside, Place.next,
      hNext]
  simp only [isPlain, Bool.and_eq_true, bne_iff_ne] at hPlain
  constructor
  · simp [Place.next, hNext, Place.isOutside]
  · rw [hVisible]
    simp only [List.mem_singleton, Option.some.injEq]
    intro hEq
    exact hPlain.1.1.1.2 hEq.symm
  · rw [hVisible, opensComment, opensComment, Bool.or_false]
    unfold startsComment
    split <;> simp_all
  · rw [hVisible]
    intro c' hLast
    obtain rfl : c = c' := by simpa using hLast
    exact ⟨hPlain.1.2, hPlain.2⟩

theorem isHarmless_of_isPlain
    {cs : List Char}
    (hPlain : cs.all isPlain = true) :
    IsHarmless d cs := by
  induction cs with
  | nil => exact IsHarmless.nil
  | cons c cs ih =>
      rw [List.all_cons, Bool.and_eq_true] at hPlain
      exact IsHarmless.append (isHarmless_singleton hPlain.1)
        (ih hPlain.2)

theorem fragment_of_isPlain
    {s : String}
    (hPlain : s.toList.all isPlain = true) :
    Fragment d s :=
  isHarmless_of_isPlain hPlain

/-
  Words that are written out are fragments. Read as a list
  of characters, they are checked without decoding them.
-/
theorem fragment_plain
    {cs : List Char}
    (hPlain : cs.all isPlain = true) :
    Fragment d (String.ofList cs) := by
  rw [Fragment, String.toList_ofList]
  exact isHarmless_of_isPlain hPlain

theorem fragment_comma : Fragment d ", " :=
  fragment_plain (by decide)

/- A single dash is harmless before a plain character. -/
theorem IsHarmless.dash
    {c : Char}
    {cs : List Char}
    (hPlain : isPlain c = true)
    (hRest : IsHarmless d (c :: cs)) :
    IsHarmless d ('-' :: c :: cs) := by
  have hOpened := Place.opened_of_isPlain hPlain
  have hVisible :
      visible d .outside ('-' :: c :: cs) =
        some '-' :: visible d .outside (c :: cs) := rfl
  have hShown :
      visible d .outside (c :: cs) =
        some c :: visible d .outside cs := by
    simp [visible, Place.shows, Place.isOutside, Place.next,
      hOpened]
  constructor
  · exact hRest.closed
  · rw [hVisible, List.mem_cons, not_or]
    exact ⟨by decide, hRest.hides⟩
  · rw [hVisible, opensComment, hRest.noComment,
      Bool.or_false, hShown]
    simp only [isPlain, Bool.and_eq_true, bne_iff_ne]
      at hPlain
    unfold startsComment
    split <;> simp_all
  · intro last hLast
    apply hRest.settles last
    rw [hVisible, hShown, List.getLast?_cons_cons] at hLast
    rw [hShown]
    exact hLast

------------------------------------------------------------
-- Quoted Tokens
------------------------------------------------------------

/-
  Characters that lead from one place to another and all
  belong to quoted tokens.
-/
structure Passes
    (d : Dialect)
    (p : Place)
    (cs : List Char)
    (q : Place) : Prop where
  leads : p.after d cs = q
  hidden : ∀ c ∈ visible d p cs, c = none

namespace Passes

theorem nil (p : Place) : Passes d p [] p where
  leads := rfl
  hidden := by simp

theorem append
    {p q r : Place}
    {cs ds : List Char}
    (hFirst : Passes d p cs q)
    (hSecond : Passes d q ds r) :
    Passes d p (cs ++ ds) r := by
  constructor
  · rw [Place.after_append, hFirst.leads, hSecond.leads]
  · rw [visible_append, hFirst.leads]
    intro c hMember
    rcases List.mem_append.mp hMember with hMember | hMember
    · exact hFirst.hidden c hMember
    · exact hSecond.hidden c hMember

/- One character that is not shown passes. -/
theorem singleton
    {p q : Place}
    {c : Char}
    (hNext : p.next d c = q)
    (hHidden : p.shows d c = false) :
    Passes d p [c] q where
  leads := hNext
  hidden := by simp [visible, hHidden]

theorem cons
    {p q r : Place}
    {c : Char}
    {cs : List Char}
    (hFirst : Passes d p [c] q)
    (hRest : Passes d q cs r) :
    Passes d p (c :: cs) r :=
  hFirst.append hRest

/- What each character of a text becomes passes the text. -/
theorem flatMap
    {p : Place}
    {write : Char → List Char}
    (hWrite : ∀ c, Passes d p (write c) p)
    (cs : List Char) :
    Passes d p (cs.flatMap write) p := by
  induction cs with
  | nil => exact Passes.nil p
  | cons c cs ih =>
      rw [List.flatMap_cons]
      exact (hWrite c).append ih

/- A token that opens and closes is harmless. -/
theorem isHarmless
    {cs : List Char}
    {q : Place}
    (hPasses : Passes d .outside cs q)
    (hClosed : q.isOutside = true) :
    IsHarmless d cs := by
  have hAbsent (c : Char) :
      some c ∉ visible d .outside cs := by
    intro hMember
    have hNone := hPasses.hidden _ hMember
    simp at hNone
  have hQuiet (shown : List (Option Char))
      (hShown : ∀ c ∈ shown, c = none) :
      opensComment shown = false := by
    induction shown with
    | nil => rfl
    | cons c shown ih =>
        obtain rfl : c = none := hShown c (by simp)
        have hRest : opensComment shown = false := by
          apply ih
          intro c hMember
          exact hShown c (List.mem_cons_of_mem _ hMember)
        rw [opensComment, hRest, Bool.or_false]
        rfl
  constructor
  · rw [hPasses.leads]
    exact hClosed
  · exact hAbsent ';'
  · exact hQuiet _ hPasses.hidden
  · intro c hLast
    exact absurd (List.mem_of_getLast? hLast) (hAbsent c)

end Passes

------------------------------------------------------------
-- Texts
------------------------------------------------------------

/- An escaped character stays between the single quotes. -/
theorem passes_escapeChar (c : Char) :
    Passes d .text (escapeChar d c) .text := by
  unfold escapeChar
  split
  · exact ⟨by simp [Place.next], by
      simp [visible, Place.shows, Place.isOutside,
        Place.next]⟩
  · rename_i hQuote
    split
    · rename_i hBackslash
      exact ⟨by simp [Place.next, hBackslash.2], by
        simp [visible, Place.shows, Place.isOutside,
          Place.next, hBackslash.2]⟩
    · rename_i hBackslash
      apply Passes.singleton
      · rw [Place.next, if_neg hQuote, if_neg hBackslash]
      · rfl

theorem fragment_quoted (s : String) :
    Fragment d (quoted d s) := by
  have hOpen : Passes d .outside ['\''] .text :=
    Passes.singleton rfl rfl
  have hText :
      Passes d .text (s.toList.flatMap (escapeChar d)) .text :=
    Passes.flatMap passes_escapeChar s.toList
  have hClose : Passes d .text ['\''] .textEnd :=
    Passes.singleton rfl rfl
  rw [Fragment, quoted, String.toList_ofList]
  exact (hOpen.cons (hText.append hClose)).isHarmless rfl

theorem fragment_quotedList (values : List String) :
    Fragment d (quotedList d values) := by
  have hItems :
      Fragment d
        (", ".intercalate (values.map (quoted d))) := by
    apply Fragment.intercalate_map fragment_comma
    intro value _
    exact fragment_quoted value
  exact ((fragment_plain (by decide)).append
    hItems).append (fragment_plain (by decide))

------------------------------------------------------------
-- JSON Strings
------------------------------------------------------------

/- A character without a meaning of its own stays inside. -/
theorem passes_json
    {c : Char}
    (hBare : Json.IsBare c) :
    Passes d .json [c] .json := by
  apply Passes.singleton
  · rw [Place.next, if_neg hBare.ne_quote,
      if_neg hBare.ne_backslash]
  · rfl

/- An escape of one character stays inside. -/
theorem passes_json_escape (c : Char) :
    Passes d .json ['\\', c] .json :=
  Passes.cons
    (Passes.singleton (q := .jsonEscape) rfl rfl)
    (Passes.singleton rfl rfl)

theorem passes_hexDigit
    {n : Nat}
    (hLt : n < 16) :
    Passes d .json [Text.hexDigit n] .json := by
  have hBare : Json.IsBare (Text.hexDigit n) := by
    constructor
    · interval_cases n <;> decide
    · interval_cases n <;> decide
    · interval_cases n <;> decide
  exact passes_json hBare

theorem passes_escapeUnit
    {unit : Nat}
    (hLt : unit < 0x10000) :
    Passes d .json (Json.escapeUnit unit) .json :=
  (passes_json_escape 'u').append
    ((passes_hexDigit (by omega)).cons
      ((passes_hexDigit (by omega)).cons
        ((passes_hexDigit (by omega)).cons
          (passes_hexDigit (by omega)))))

/- An escaped character stays between the double quotes. -/
theorem passes_jsonEscapeChar (c : Char) :
    Passes d .json (Json.escapeChar c) .json := by
  rcases Json.escapeChar_cases c with
    ⟨letter, hEq, _⟩ | ⟨hEq, hUnit⟩ | ⟨hEq, hBare, _⟩
  · rw [hEq]
    exact passes_json_escape letter
  · rw [hEq]
    exact passes_escapeUnit hUnit
  · rw [hEq]
    exact passes_json hBare

/- Escaped characters stay between the double quotes. -/
theorem passes_escapeChars (cs : List Char) :
    Passes d .json (Json.escapeChars cs) .json := by
  induction cs using Json.escapeChars.induct with
  | case1 => exact Passes.nil _
  | case2 c => exact passes_jsonEscapeChar c
  | case3 c c' rest hPair ih =>
      rw [Json.escapeChars, if_pos hPair]
      rcases Json.halves_of_pair hPair with ⟨hHigh, hLow⟩
      exact (passes_json (Json.isBare_of_half hHigh)).cons
        ((passes_json (Json.isBare_of_half hLow)).cons ih)
  | case4 c c' rest hPair ih =>
      rw [Json.escapeChars, if_neg hPair]
      exact (passes_jsonEscapeChar c).append ih

theorem isHarmless_quoteChars (s : String) :
    IsHarmless d (Json.quoteChars s) := by
  have hOpen : Passes d .outside ['"'] .json :=
    Passes.singleton rfl rfl
  have hClose : Passes d .json ['"'] .outside :=
    Passes.singleton rfl rfl
  exact (hOpen.cons
    ((passes_escapeChars s.toList).append hClose)).isHarmless
      rfl

theorem fragment_quote (s : String) :
    Fragment d (Json.quote s) := by
  rw [Fragment, Json.quote, String.toList_ofList]
  exact isHarmless_quoteChars s

------------------------------------------------------------
-- Names
------------------------------------------------------------

/- A letter or digit is plain. -/
theorem isPlain_of_isAlphanum
    {c : Char}
    (hAlphanum : c.isAlphanum = true) :
    isPlain c = true := by
  simp only [isPlain, Bool.and_eq_true, bne_iff_ne]
  refine ⟨⟨⟨⟨⟨⟨?_, ?_⟩, ?_⟩, ?_⟩, ?_⟩, ?_⟩, ?_⟩ <;>
  · rintro rfl
    exact absurd hAlphanum (by decide)

theorem isPlain_of_mem_name
    (name : Identifier)
    {c : Char}
    (hMember : c ∈ name.text.toList) :
    isPlain c = true := by
  by_cases hUnderscore : c = '_'
  · subst hUnderscore
    decide
  · exact isPlain_of_isAlphanum
      (name.isAlphanum_of_mem hMember hUnderscore)

theorem fragment_name (name : Identifier) :
    Fragment d name.text :=
  fragment_of_isPlain (List.all_eq_true.mpr fun _ hMember =>
    isPlain_of_mem_name name hMember)

/- Plain characters between backquotes are one token. -/
theorem passes_backquoted
    {cs : List Char}
    (hPlain : ∀ c ∈ cs, isPlain c = true) :
    Passes d .backquoted cs .backquoted := by
  induction cs with
  | nil => exact Passes.nil _
  | cons c cs ih =>
      have hBackquote : c ≠ '\x60' := by
        rintro rfl
        have hFirst : isPlain '\x60' = true :=
          hPlain '\x60' (by simp)
        exact absurd hFirst (by decide)
      refine Passes.cons (Passes.singleton ?_ rfl) (ih ?_)
      · rw [Place.next, if_neg hBackquote]
      · intro c' hMember
        exact hPlain c' (List.mem_cons_of_mem _ hMember)

theorem fragment_column (column : Column) :
    Fragment d column.text := by
  unfold Column.text
  split
  · have hOpen : Passes d .outside ['\x60'] .backquoted :=
      Passes.singleton rfl rfl
    have hClose : Passes d .backquoted ['\x60'] .outside :=
      Passes.singleton rfl rfl
    rw [Fragment, String.toList_append, String.toList_append]
    have hName :=
      passes_backquoted (d := d) fun _ hMember =>
        isPlain_of_mem_name column.name hMember
    exact ((hOpen.append hName).append hClose).isHarmless rfl
  · exact fragment_name column.name

theorem fragment_objectName (name : ObjectName) :
    Fragment d name.text := by
  unfold ObjectName.text
  split
  · exact fragment_name name.name
  · rename_i project _
    exact ((fragment_name project).append
      (fragment_plain (by decide))).append
        (fragment_name name.name)

theorem fragment_tableName (table : TableName) :
    Fragment d table.text :=
  ((fragment_name table.datasource).append
    (fragment_plain (by decide))).append
      (fragment_name table.table)

------------------------------------------------------------
-- Numbers
------------------------------------------------------------

theorem isPlain_of_mem_digits
    {n : Nat}
    {c : Char}
    (hMember : c ∈ Number.digits n) :
    isPlain c = true := by
  apply isPlain_of_isAlphanum
  rw [Char.isAlphanum, Number.isDigit_of_mem_digits hMember,
    Bool.or_true]

/- Harmless characters that begin with a plain one. -/
structure IsNumeral
    (d : Dialect)
    (cs : List Char) : Prop where
  harmless : IsHarmless d cs
  begins : ∃ c rest, cs = c :: rest ∧ isPlain c = true

theorem IsNumeral.dash
    {cs : List Char}
    (hNumeral : IsNumeral d cs) :
    IsHarmless d ('-' :: cs) := by
  rcases hNumeral.begins with ⟨c, rest, rfl, hPlain⟩
  exact hNumeral.harmless.dash hPlain

theorem isNumeral_digits (n : Nat) :
    IsNumeral d (Number.digits n) := by
  have hPlain :
      ∀ c ∈ Number.digits n, isPlain c = true :=
    fun _ hMember => isPlain_of_mem_digits hMember
  refine ⟨isHarmless_of_isPlain
    (List.all_eq_true.mpr hPlain), ?_⟩
  rcases Number.exists_cons_digits n with ⟨c, rest, hCons⟩
  exact ⟨c, rest, hCons, hPlain c (by simp [hCons])⟩

theorem isHarmless_exponentPart (exponent : Int) :
    IsHarmless d (Number.exponentPart exponent) := by
  have hDigits := isNumeral_digits (d := d) exponent.natAbs
  unfold Number.exponentPart
  split
  · have hMark : IsHarmless d ['e'] :=
      isHarmless_of_isPlain (by decide)
    exact hMark.append hDigits.dash
  · have hMark : IsHarmless d ['e', '+'] :=
      isHarmless_of_isPlain (by decide)
    exact hMark.append hDigits.harmless

/- However plain digits are laid out, they begin with one. -/
theorem isNumeral_layOut
    {c : Char}
    {cs : List Char}
    (hFirst : isPlain c = true)
    (hRest : ∀ c ∈ cs, isPlain c = true)
    (point : Int) :
    IsNumeral d (Number.layOut (c :: cs) point) := by
  have hPlain : ∀ c' ∈ c :: cs, isPlain c' = true := by
    intro c' hMember
    rcases List.mem_cons.mp hMember with rfl | hMember
    · exact hFirst
    · exact hRest c' hMember
  have hZeros (n : Nat) :
      IsHarmless d (List.replicate n '0') := by
    apply isHarmless_of_isPlain
    rw [List.all_eq_true]
    intro c' hMember
    rw [List.eq_of_mem_replicate hMember]
    decide
  have hDigits : IsHarmless d (c :: cs) :=
    isHarmless_of_isPlain (List.all_eq_true.mpr hPlain)
  unfold Number.layOut
  split
  · exact ⟨hDigits.append (hZeros _), c, _, rfl, hFirst⟩
  split
  · rename_i hPoint
    obtain ⟨n, hLength⟩ : ∃ n, point.toNat = n + 1 :=
      ⟨point.toNat - 1, by omega⟩
    rw [hLength, List.take_succ_cons, List.drop_succ_cons]
    have hTake : IsHarmless d (c :: cs.take n) := by
      apply isHarmless_of_isPlain
      rw [List.all_eq_true]
      intro c' hMember
      rcases List.mem_cons.mp hMember with rfl | hMember
      · exact hFirst
      · exact hRest c' (List.mem_of_mem_take hMember)
    have hDrop : IsHarmless d ('.' :: cs.drop n) := by
      apply isHarmless_of_isPlain
      rw [List.all_eq_true]
      intro c' hMember
      rcases List.mem_cons.mp hMember with rfl | hMember
      · decide
      · exact hRest c' (List.mem_of_mem_drop hMember)
    exact ⟨hTake.append hDrop, c, _, rfl, hFirst⟩
  split
  · have hPoint : IsHarmless d ['0', '.'] :=
      isHarmless_of_isPlain (by decide)
    exact ⟨hPoint.append ((hZeros _).append hDigits),
      '0', _, rfl, by decide⟩
  · have hExponent :=
      isHarmless_exponentPart (d := d) (point - 1)
    cases cs with
    | nil =>
        exact ⟨hDigits.append hExponent, c, _, rfl, hFirst⟩
    | cons c' cs =>
        have hHead : IsHarmless d [c, '.'] := by
          apply isHarmless_of_isPlain
          rw [List.all_cons, hFirst]
          decide
        have hTail : IsHarmless d (c' :: cs) :=
          isHarmless_of_isPlain (List.all_eq_true.mpr hRest)
        exact ⟨hHead.append (hTail.append hExponent),
          c, _, rfl, hFirst⟩

theorem isNumeral_magnitudeChars
    (mantissa : Nat)
    (exponent : Int) :
    IsNumeral d (Number.magnitudeChars mantissa exponent) := by
  unfold Number.magnitudeChars
  split
  · exact ⟨isHarmless_of_isPlain (by decide),
      '0', [], rfl, by decide⟩
  · dsimp only
    have hPlain :
        ∀ c ∈ Number.digits
            (Number.shortest mantissa exponent).1,
          isPlain c = true :=
      fun _ hMember => isPlain_of_mem_digits hMember
    rcases Number.exists_cons_digits
        (Number.shortest mantissa exponent).1 with
      ⟨c, cs, hCons⟩
    rw [hCons] at hPlain ⊢
    apply isNumeral_layOut (hPlain c (by simp))
    intro c' hMember
    exact hPlain c' (List.mem_cons_of_mem _ hMember)

theorem isHarmless_numberChars (n : Number) :
    IsHarmless d n.chars := by
  cases n with
  | integer value =>
      have hDigits := isNumeral_digits (d := d) value.natAbs
      rw [Number.chars]
      split
      · exact hDigits.dash
      · exact hDigits.harmless
  | binary negative mantissa exponent =>
      have hMagnitude :=
        isNumeral_magnitudeChars (d := d) mantissa exponent
      rw [Number.chars]
      split
      · exact hMagnitude.dash
      · exact hMagnitude.harmless
  | infinite negative =>
      have hWord : IsHarmless d "Infinity".toList :=
        isHarmless_of_isPlain (by decide)
      cases negative with
      | false => exact hWord
      | true =>
          exact IsNumeral.dash
            ⟨hWord, 'I', _, rfl, by decide⟩
  | undefined =>
      have hWord : IsHarmless d "NaN".toList :=
        isHarmless_of_isPlain (by decide)
      exact hWord

theorem fragment_number (n : Number) :
    Fragment d n.text := by
  rw [Fragment, Number.text, String.toList_ofList]
  exact isHarmless_numberChars n

------------------------------------------------------------
-- Literals
------------------------------------------------------------

theorem fragment_scalarJson (value : Scalar) :
    Fragment d value.toJson.print := by
  rw [Fragment, Json.print, String.toList_ofList]
  cases value with
  | text value =>
      simp only [Scalar.toJson, Json.chars]
      exact isHarmless_quoteChars value
  | number value =>
      simp only [Scalar.toJson, Json.chars, Json.numberChars]
      split
      · exact isHarmless_numberChars value
      · exact isHarmless_of_isPlain (by decide)
  | bool value =>
      simp only [Scalar.toJson, Json.chars, Json.boolChars]
      cases value <;> exact isHarmless_of_isPlain (by decide)

theorem fragment_membersText
    (entries : List (String × Scalar)) :
    Fragment d (membersText entries) := by
  have hEntries :
      Fragment d
        (", ".intercalate (entries.map memberText)) := by
    apply Fragment.intercalate_map fragment_comma
    intro entry _
    exact ((fragment_quote entry.1).append
      (fragment_plain (by decide))).append
        (fragment_scalarJson entry.2)
  exact ((fragment_plain (by decide)).append
    hEntries).append (fragment_plain (by decide))

theorem fragment_literal (value : Literal) :
    Fragment d (value.print d) := by
  cases value with
  | text value => exact fragment_quoted value
  | number value => exact fragment_number value
  | bool value =>
      cases value <;> exact fragment_plain (by decide)
  | null => exact fragment_plain (by decide)
  | texts values => exact fragment_quotedList values
  | members entries => exact fragment_membersText entries

end Sql

end KbConsole
