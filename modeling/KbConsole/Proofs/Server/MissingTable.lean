import KbConsole.Proofs.Server.Category
import Mathlib.Data.List.TakeWhile

/-
  What becomes of the message that a table is missing.

  The names of the table and of the database are part of the
  message, and the categories before `tableNotFound` look at
  all of it. Their phrases have nothing in common with the
  rest of the message, so that they are found in it exactly
  if they are found in one of the names.

  Key definitions include:
    * `missingTableText`
    * `Category.IsForeign`

  The main statement is `Category.ofMessage_missingTable`:
  the category is `tableNotFound` unless a name contains a
  word of one of the categories before it.
-/

namespace KbConsole

/- What the server says of a table that it does not have. -/
def missingTableText (table database : Identifier) : String :=
  "Table '" ++ table.text ++ "' not found in database " ++
    database.text

------------------------------------------------------------
-- Names in Lower Case
------------------------------------------------------------

/- Nothing but a letter is changed into a letter. -/
theorem Text.eq_of_toLower_eq
    {c d : Char}
    (hLower : c.toLower = d)
    (hOther : ¬ (97 ≤ d.toNat ∧ d.toNat ≤ 122)) :
    c = d := by
  by_cases hUpper : 65 ≤ c.toNat ∧ c.toNat ≤ 90
  · have hLetter := Text.toNat_toLower hUpper
    rw [hLower] at hLetter
    omega
  · rw [← hLower, Text.toLower_eq_self hUpper]

/- What is in no name is in none in lower case. -/
theorem Identifier.not_mem_lower
    (name : Identifier)
    {c : Char}
    (hAlphanum : c.isAlphanum = false)
    (hUnderscore : c ≠ '_') :
    c ∉ (Text.lower name.text).toList := by
  intro hMember
  rw [Text.lower, String.toList_ofList] at hMember
  rcases List.mem_map.mp hMember with ⟨d, hName, hLower⟩
  have hOther : ¬ (97 ≤ c.toNat ∧ c.toNat ≤ 122) := by
    intro hLetter
    have hName : c.isAlphanum = true :=
      Text.isAlphanum_iff_toNat.mpr (Or.inr (Or.inl hLetter))
    rw [hAlphanum] at hName
    cases hName
  exact
    ne_of_mem hName hAlphanum hUnderscore
      (Text.eq_of_toLower_eq hLower hOther)

theorem Identifier.isLineEnd_of_mem_lower
    (name : Identifier)
    {c : Char}
    (hMember : c ∈ (Text.lower name.text).toList) :
    isLineEnd c = false := by
  rw [Bool.eq_false_iff]
  intro hLineEnd
  have hOther : c.isAlphanum = false ∧ c ≠ '_' := by
    simp only [isLineEnd, Bool.or_eq_true, beq_iff_eq]
      at hLineEnd
    rcases hLineEnd with ((rfl | rfl) | rfl) | rfl <;> decide
  exact name.not_mem_lower hOther.1 hOther.2 hMember

namespace Category

------------------------------------------------------------
-- Phrases within the Message
------------------------------------------------------------

/-
  A phrase that has no part in the message of a missing
  table: what it starts with, up to a blank, does not stand
  behind the name of the table.
-/
structure IsForeign (phrase : List Char) : Prop where
  noQuote : '\'' ∉ phrase
  notBefore : ¬ phrase <:+: "table ".toList
  notEmpty : phrase.takeWhile (· != ' ') ≠ []
  notBehind :
    ¬ phrase.takeWhile (· != ' ') <:+:
      " not found in database".toList

instance (phrase : List Char) : Decidable (IsForeign phrase) :=
  decidable_of_iff
    ('\'' ∉ phrase ∧ ¬ phrase <:+: "table ".toList ∧
      phrase.takeWhile (· != ' ') ≠ [] ∧
      ¬ phrase.takeWhile (· != ' ') <:+:
        " not found in database".toList)
    ⟨fun h => ⟨h.1, h.2.1, h.2.2.1, h.2.2.2⟩,
      fun h =>
        ⟨h.noQuote, h.notBefore, h.notEmpty, h.notBehind⟩⟩

variable (table database : Identifier)

theorem toList_lower_missingTable :
    (Text.lower (missingTableText table database)).toList =
      "table ".toList ++ '\'' ::
        ((Text.lower table.text).toList ++ '\'' ::
          (" not found in database".toList ++ ' ' ::
            (Text.lower database.text).toList)) := by
  rw [missingTableText, Text.toList_lower_append,
    Text.toList_lower_append, Text.toList_lower_append,
    List.append_assoc, List.append_assoc]
  rfl

variable {table database}

/- Such a phrase is found only where a name is. -/
theorem IsForeign.infix_iff
    {phrase : List Char}
    (hForeign : IsForeign phrase) :
    phrase <:+:
        (Text.lower
          (missingTableText table database)).toList ↔
      phrase <:+: (Text.lower table.text).toList ∨
        phrase <:+: (Text.lower database.text).toList := by
  rw [toList_lower_missingTable,
    Text.infix_append_cons_iff hForeign.noQuote,
    Text.infix_append_cons_iff hForeign.noQuote]
  constructor
  · rintro (hBefore | hTable | hBehind)
    · exact absurd hBefore hForeign.notBefore
    · exact Or.inl hTable
    · have hNoBlank :
          ' ' ∉ phrase.takeWhile (· != ' ') := by
        intro hBlank
        simpa using List.mem_takeWhile_imp hBlank
      rw [← List.takeWhile_append_dropWhile
        (p := (· != ' ')) (l := phrase)] at hBehind
      rcases Text.infix_or_infix hForeign.notEmpty hNoBlank
          hBehind with
        hWords | hDatabase
      · exact absurd hWords hForeign.notBehind
      · rw [List.takeWhile_append_dropWhile] at hDatabase
        exact Or.inr hDatabase
  · rintro (hTable | hDatabase)
    · exact Or.inr (Or.inl hTable)
    · exact Or.inr (Or.inr
        ((List.infix_cons hDatabase).trans
          (List.suffix_append _ _).isInfix))

/- The phrases of earlier categories are of this kind. -/
theorem exists_isForeign
    {c : Category}
    (hEarlier : c ∈ earlier tableNotFound)
    {p : Pattern}
    (hPattern : p ∈ c.patterns) :
    ∃ text, p = .phrase text ∧ IsForeign text.toList := by
  have hAll :
      ∀ d ∈ earlier tableNotFound, ∀ q ∈ d.patterns,
        q = .phrase (String.ofList q.start) ∧
          IsForeign q.start := by
    decide
  rcases hAll c hEarlier p hPattern with ⟨hPhrase, hForeign⟩
  refine ⟨String.ofList p.start, hPhrase, ?_⟩
  rw [String.toList_ofList]
  exact hForeign

theorem fits_missingTable
    {c : Category}
    (hEarlier : c ∈ earlier tableNotFound) :
    fits (missingTableText table database) c =
      (fits table.text c || fits database.text c) := by
  rw [Bool.eq_iff_iff, Bool.or_eq_true, fits_iff, fits_iff,
    fits_iff, ← exists_or]
  apply exists_congr
  intro p
  rw [← and_or_left]
  apply and_congr_right
  intro hPattern
  rcases exists_isForeign hEarlier hPattern with
    ⟨text, rfl, hForeign⟩
  rw [Pattern.matches_phrase_iff, Pattern.matches_phrase_iff,
    Pattern.matches_phrase_iff]
  exact hForeign.infix_iff

/- No name says that something exists: it has no blanks. -/
theorem fits_alreadyExists_name (name : Identifier) :
    fits name.text alreadyExists = false := by
  rw [Bool.eq_false_iff, Ne, fits_iff]
  rintro ⟨p, hPattern, piece, hWrites, hPiece⟩
  have hBlank : ' ' ∈ p.start := by
    have hAll :
        ∀ q ∈ alreadyExists.patterns, ' ' ∈ q.start := by
      decide
    exact hAll p hPattern
  rcases hWrites.exists_start with ⟨rest, rfl⟩
  exact
    name.not_mem_lower (c := ' ') rfl (by decide)
      (hPiece.subset (List.mem_append_left rest hBlank))

/- The message says that something is not found. -/
theorem fits_tableNotFound_missingTable
    (table database : Identifier) :
    fits (missingTableText table database) tableNotFound =
      true := by
  rw [fits_iff]
  refine
    ⟨.followed "table " missing, by decide, _,
      @Pattern.Writes.followed "table " missing
        ('\'' ::
          ((Text.lower table.text).toList ++ ['\'', ' ']))
        "not found" ?_ (by decide), ?_⟩
  · rw [List.forall_mem_cons, List.forall_mem_append,
      List.forall_mem_cons, List.forall_mem_singleton]
    exact
      ⟨rfl, fun c => table.isLineEnd_of_mem_lower, rfl, rfl⟩
  · rw [toList_lower_missingTable]
    exact
      ⟨[], " in database ".toList ++
        (Text.lower database.text).toList, by simp⟩

------------------------------------------------------------
-- The Category
------------------------------------------------------------

/-
  The category of the message: the first one whose words a
  name contains, or else that of missing tables.
-/
theorem ofMessage_missingTable
    (table database : Identifier) :
    ofMessage (missingTableText table database) =
      if fits table.text connection ||
          fits database.text connection then
        connection
      else if fits table.text authentication ||
          fits database.text authentication then
        authentication
      else
        tableNotFound := by
  rw [← fits_missingTable (by decide),
    ← fits_missingTable (by decide)]
  have hExists :
      fits (missingTableText table database) alreadyExists =
        false := by
    rw [fits_missingTable (by decide), fits_alreadyExists_name,
      fits_alreadyExists_name, Bool.or_false]
  have hMissing :=
    fits_tableNotFound_missingTable table database
  rw [ofMessage, tried,
    List.find?_cons_of_neg (by simp [hExists])]
  split
  · rename_i hFits
    rw [List.find?_cons_of_pos hFits, Option.getD_some]
  · rename_i hConnection
    rw [List.find?_cons_of_neg hConnection]
    split
    · rename_i hFits
      rw [List.find?_cons_of_pos hFits, Option.getD_some]
    · rename_i hAuthentication
      rw [List.find?_cons_of_neg hAuthentication,
        List.find?_cons_of_pos hMissing, Option.getD_some]

/- A table whose name contains the word network. -/
theorem missingTable_network :
    ¬ ∀ table database : Identifier,
      (ofMessage (missingTableText table database)).label =
        "table not found" := by
  intro hAlways
  have hMissing :=
    hAlways ⟨"social_network", by decide⟩
      ⟨"hackernews", by decide⟩
  exact absurd hMissing (by decide)

end Category

end KbConsole
