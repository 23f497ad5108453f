import KbConsole.Json.Parser
import KbConsole.Json.Printer
import KbConsole.Proofs.Characters

/-
  JSON strings are read back as they were written.

  Key definitions include:
    * `Json.IsBare`
    * `Json.charUnit`
    * `Json.keptUnits`

  How a character is escaped is said once, by
  `Json.escapeChar_cases`.

  The main statement is `Json.readString_escapeChars`. It
  takes two steps: the units that are read are those kept
  (`Json.readUnits_escapeChars`), and they make up the
  characters again (`Json.joinUnits_keptUnits`).
-/

namespace KbConsole

namespace Json

------------------------------------------------------------
-- Escapes
------------------------------------------------------------

/- A character that stands for itself inside a string. -/
structure IsBare (c : Char) : Prop where
  ne_quote : c ≠ '"'
  ne_backslash : c ≠ '\\'
  not_control : ¬ c.toNat < 0x20

/- The unit that an escaped character is read as. -/
def charUnit (c : Char) : Nat :=
  if Text.isHalf c then Text.halfUnit c else c.toNat

theorem charUnit_of_lt
    {c : Char}
    (hSmall : c.toNat < 0x10F800) :
    charUnit c = c.toNat := by
  have hHalf : Text.isHalf c = false := by
    rw [Text.isHalf, decide_eq_false_iff_not, Text.firstHalf]
    omega
  rw [charUnit, hHalf, if_neg (by decide)]

/-
  A character is escaped by a letter or by its unit, or it
  stands for itself.
-/
theorem escapeChar_cases (c : Char) :
    (∃ letter,
      escapeChar c = ['\\', letter] ∧
        escaped? letter = some c ∧ c.toNat < 0x10F800) ∨
    (escapeChar c = escapeUnit (charUnit c) ∧
      charUnit c < 0x10000) ∨
    (escapeChar c = [c] ∧ IsBare c ∧ charUnit c = c.toNat) := by
  have hLetter
      {letter d : Char}
      (hEscaped : escaped? letter = some d)
      (hSmall : d.toNat < 0x10F800) :
      ∃ letter',
        ['\\', letter] = ['\\', letter'] ∧
          escaped? letter' = some d ∧ d.toNat < 0x10F800 :=
    ⟨letter, rfl, hEscaped, hSmall⟩
  unfold escapeChar
  split
  · subst c
    exact Or.inl (hLetter (by decide) (by decide))
  split
  · subst c
    exact Or.inl (hLetter (by decide) (by decide))
  split
  · subst c
    exact Or.inl (hLetter (by decide) (by decide))
  split
  · subst c
    exact Or.inl (hLetter (by decide) (by decide))
  split
  · subst c
    exact Or.inl (hLetter (by decide) (by decide))
  split
  · subst c
    exact Or.inl (hLetter (by decide) (by decide))
  split
  · subst c
    exact Or.inl (hLetter (by decide) (by decide))
  split
  · rename_i hControl
    rw [charUnit_of_lt (by omega)]
    exact Or.inr (Or.inl ⟨rfl, by omega⟩)
  split
  · rename_i hHalf
    rw [charUnit, if_pos hHalf]
    exact Or.inr (Or.inl ⟨rfl, Text.halfUnit_lt c⟩)
  · rename_i hQuote hBackslash _ _ _ _ _ hControl hHalf
    rw [charUnit, if_neg hHalf]
    exact Or.inr
      (Or.inr ⟨rfl, ⟨hQuote, hBackslash, hControl⟩, rfl⟩)

/- A half in a pair stands for itself. -/
theorem isBare_of_half
    {c : Char}
    (hHalf : Text.firstHalf ≤ c.toNat) :
    IsBare c := by
  rw [Text.firstHalf] at hHalf
  constructor
  · rintro rfl
    exact absurd hHalf (by decide)
  · rintro rfl
    exact absurd hHalf (by decide)
  · omega

/- Both characters of a pair are halves. -/
theorem halves_of_pair
    {c d : Char}
    (hPair :
      (Text.isHighHalf c && Text.isLowHalf d) = true) :
    Text.firstHalf ≤ c.toNat ∧ Text.firstHalf ≤ d.toNat := by
  simp only [Text.isHighHalf, Text.isLowHalf,
    Bool.and_eq_true, decide_eq_true_eq] at hPair
  have hOrder : Text.firstHalf ≤ Text.firstLowHalf := by
    decide
  exact ⟨hPair.1.1, Nat.le_trans hOrder hPair.2⟩

------------------------------------------------------------
-- Single Units
------------------------------------------------------------

/- Put a unit in front of what was read. -/
def withUnit (unit : Nat)
    (read : List Nat × List Char) : List Nat × List Char :=
  (unit :: read.1, read.2)

theorem readUnits_quote (rest : List Char) :
    readUnits ('"' :: rest) = some ([], rest) := by
  simp [readUnits]

theorem readUnits_bare
    {c : Char}
    (hBare : IsBare c)
    (rest : List Char) :
    readUnits (c :: rest) =
      (readUnits rest).map (withUnit c.toNat) := by
  rcases hBare with ⟨hQuote, hBackslash, hControl⟩
  rw [readUnits]
  · rw [if_neg (by simp [hBackslash, hControl])]
    cases readUnits rest <;> rfl
  · exact hQuote
  · intro a b c' d tail h
    exact absurd h hBackslash
  · intro c' tail h
    exact absurd h hBackslash

/- The escapes of one letter. -/
theorem readUnits_escape
    {c escape : Char}
    (hEscape : escaped? escape = some c)
    (rest : List Char) :
    readUnits ('\\' :: escape :: rest) =
      (readUnits rest).map (withUnit c.toNat) := by
  have hNone : escaped? 'u' = none := by decide
  have hLetter : escape ≠ 'u' := by
    rintro rfl
    rw [hNone] at hEscape
    cases hEscape
  rw [readUnits]
  · rw [hEscape]
    cases readUnits rest <;> rfl
  · intro a b c' d tail h
    exact absurd h hLetter

theorem readUnits_hex
    {a b c d : Char}
    {unit : Nat}
    (hUnit : hexUnit? a b c d = some unit)
    (rest : List Char) :
    readUnits ('\\' :: 'u' :: a :: b :: c :: d :: rest) =
      (readUnits rest).map (withUnit unit) := by
  rw [readUnits, hUnit]
  cases readUnits rest <;> rfl

theorem hexValue?_hexDigit
    {n : Nat}
    (hDigit : n < 0x10) :
    Text.hexValue? (Text.hexDigit n) = some n := by
  interval_cases n <;> decide

/- Four digits write a unit below 2^16. -/
theorem readUnits_escapeUnit
    {unit : Nat}
    (hUnit : unit < 0x10000)
    (rest : List Char) :
    readUnits (escapeUnit unit ++ rest) =
      (readUnits rest).map (withUnit unit) := by
  refine readUnits_hex ?_ rest
  have hFirst : unit / 0x1000 < 0x10 := by omega
  have hSecond : unit / 0x100 % 0x10 < 0x10 :=
    Nat.mod_lt _ (by decide)
  have hThird : unit / 0x10 % 0x10 < 0x10 :=
    Nat.mod_lt _ (by decide)
  have hFourth : unit % 0x10 < 0x10 :=
    Nat.mod_lt _ (by decide)
  simp only [hexUnit?, hexValue?_hexDigit hFirst,
    hexValue?_hexDigit hSecond, hexValue?_hexDigit hThird,
    hexValue?_hexDigit hFourth, Option.bind_eq_bind,
    Option.bind_some, Option.pure_def, Option.some.injEq]
  omega

theorem readUnits_escapeChar
    (c : Char)
    (rest : List Char) :
    readUnits (escapeChar c ++ rest) =
      (readUnits rest).map (withUnit (charUnit c)) := by
  rcases escapeChar_cases c with
    ⟨letter, hEq, hEscaped, hSmall⟩ | ⟨hEq, hUnit⟩ |
      ⟨hEq, hBare, hUnit⟩
  · rw [hEq, charUnit_of_lt hSmall]
    exact readUnits_escape hEscaped rest
  · rw [hEq]
    exact readUnits_escapeUnit hUnit rest
  · rw [hEq, hUnit]
    exact readUnits_bare hBare rest

------------------------------------------------------------
-- Strings
------------------------------------------------------------

/-
  The units that a list of characters is read back as. Two
  halves that belong together count as they stand.
-/
def keptUnits : List Char → List Nat
  | [] => []
  | [c] => [charUnit c]
  | c :: d :: rest =>
      if Text.isHighHalf c && Text.isLowHalf d then
        c.toNat :: d.toNat :: keptUnits rest
      else
        charUnit c :: keptUnits (d :: rest)

theorem readUnits_escapeChars
    (cs rest : List Char) :
    readUnits (escapeChars cs ++ '"' :: rest) =
      some (keptUnits cs, rest) := by
  induction cs using escapeChars.induct with
  | case1 => exact readUnits_quote rest
  | case2 c =>
      rw [escapeChars, readUnits_escapeChar, readUnits_quote]
      rfl
  | case3 c d tail hPair ih =>
      rw [escapeChars, if_pos hPair, keptUnits, if_pos hPair]
      rcases halves_of_pair hPair with ⟨hHigh, hLow⟩
      rw [List.cons_append, List.cons_append,
        readUnits_bare (isBare_of_half hHigh),
        readUnits_bare (isBare_of_half hLow), ih]
      rfl
  | case4 c d tail hPair ih =>
      rw [escapeChars, if_neg hPair, keptUnits, if_neg hPair,
        List.append_assoc, readUnits_escapeChar, ih]
      rfl

------------------------------------------------------------
-- Joining Units
------------------------------------------------------------

/- No valid character has the number of a half's unit. -/
theorem isUnit_toNat (c : Char) :
    isHighUnit c.toNat = false ∧ isLowUnit c.toNat = false := by
  simp only [isHighUnit, isLowUnit, Bool.and_eq_false_iff,
    decide_eq_false_iff_not]
  rcases Text.not_surrogate c with h | h
  · omega
  · omega

theorem unitChar_toNat (c : Char) : unitChar c.toNat = c := by
  rw [unitChar, (isUnit_toNat c).1, (isUnit_toNat c).2,
    Bool.or_self, if_neg (by decide), Char.ofNat_toNat]

theorem charUnit_eq (c : Char) :
    (0x10F800 ≤ c.toNat ∧
        charUnit c = 0xD800 + (c.toNat - 0x10F800)) ∨
      (c.toNat < 0x10F800 ∧ charUnit c = c.toNat) := by
  by_cases hHalf : 0x10F800 ≤ c.toNat
  · refine Or.inl ⟨hHalf, ?_⟩
    rw [charUnit, Text.isHalf, Text.firstHalf,
      decide_eq_true hHalf]
    rfl
  · exact Or.inr
      ⟨Nat.lt_of_not_le hHalf,
        charUnit_of_lt (Nat.lt_of_not_le hHalf)⟩

/- An escaped half is in the range of its kind. -/
theorem isUnit_charUnit (c : Char) :
    isHighUnit (charUnit c) = Text.isHighHalf c ∧
      isLowUnit (charUnit c) = Text.isLowHalf c := by
  have hLt := Text.toNat_lt c
  have hUnit := charUnit_eq c
  have hValid := Text.not_surrogate c
  constructor
  · rw [Bool.eq_iff_iff]
    simp only [isHighUnit, Text.isHighHalf,
      Bool.and_eq_true, decide_eq_true_eq]
    rw [Text.firstHalf, Text.firstLowHalf]
    omega
  · rw [Bool.eq_iff_iff]
    simp only [isLowUnit, Text.isLowHalf, Bool.and_eq_true,
      decide_eq_true_eq]
    rw [Text.firstLowHalf]
    omega

theorem unitChar_charUnit (c : Char) :
    unitChar (charUnit c) = c := by
  cases hHalf : Text.isHalf c with
  | false =>
      rw [charUnit, hHalf, if_neg (by decide)]
      exact unitChar_toNat c
  | true =>
      have hUnit := isUnit_charUnit c
      have hKind :
          (Text.isHighHalf c || Text.isLowHalf c) = true := by
        rw [Text.isHalf, decide_eq_true_eq] at hHalf
        simp only [Text.isHighHalf, Text.isLowHalf,
          Bool.or_eq_true, Bool.and_eq_true,
          decide_eq_true_eq]
        omega
      rw [unitChar, hUnit.1, hUnit.2, if_pos hKind, charUnit,
        if_pos hHalf, Text.half, Text.halfUnit,
        Nat.add_sub_cancel_left]
      rw [Text.isHalf, decide_eq_true_eq] at hHalf
      rw [Nat.add_sub_cancel' hHalf, Char.ofNat_toNat]

/- Two units are joined only if they are halves of one. -/
theorem joinUnits_cons
    {unit : Nat}
    {units : List Nat}
    (hAlone :
      ∀ next ∈ units.head?,
        (isHighUnit unit && isLowUnit next) = false) :
    joinUnits (unit :: units) =
      unitChar unit :: joinUnits units := by
  cases units with
  | nil => rfl
  | cons next units =>
      rw [joinUnits, hAlone next rfl, if_neg (by decide)]

/- The first unit kept is a second half only when it is one. -/
theorem isLowUnit_head_keptUnits
    {d : Char}
    {rest : List Char}
    {unit : Nat}
    (hHead : unit ∈ (keptUnits (d :: rest)).head?)
    (hLow : isLowUnit unit = true) :
    Text.isLowHalf d = true := by
  rw [← (isUnit_charUnit d).2]
  cases rest with
  | nil =>
      obtain rfl : charUnit d = unit := by
        simpa [keptUnits] using hHead
      exact hLow
  | cons e rest =>
      rw [keptUnits] at hHead
      split at hHead
      · obtain rfl : d.toNat = unit := by simpa using hHead
        rw [(isUnit_toNat d).2] at hLow
        cases hLow
      · obtain rfl : charUnit d = unit := by
          simpa using hHead
        exact hLow

theorem joinUnits_keptUnits (cs : List Char) :
    joinUnits (keptUnits cs) = cs := by
  induction cs using keptUnits.induct with
  | case1 => rfl
  | case2 c => exact congrArg ([·]) (unitChar_charUnit c)
  | case3 c d rest hPair ih =>
      rw [keptUnits, if_pos hPair]
      have hAlone (c : Char) (units : List Nat) :
          joinUnits (c.toNat :: units) =
            c :: joinUnits units := by
        rw [joinUnits_cons, unitChar_toNat]
        intro next _
        rw [(isUnit_toNat c).1, Bool.false_and]
      rw [hAlone, hAlone, ih]
  | case4 c d rest hPair ih =>
      rw [keptUnits, if_neg hPair]
      have hAlone :
          ∀ next ∈ (keptUnits (d :: rest)).head?,
            (isHighUnit (charUnit c) && isLowUnit next) =
              false := by
        intro next hNext
        rw [← Bool.not_eq_true, Bool.and_eq_true,
          (isUnit_charUnit c).1]
        rintro ⟨hHigh, hLow⟩
        apply hPair
        rw [hHigh, isLowUnit_head_keptUnits hNext hLow]
        rfl
      rw [joinUnits_cons hAlone, unitChar_charUnit, ih]

/- A string is read back as it was written. -/
theorem readString_escapeChars
    (s : String)
    (rest : List Char) :
    readString (escapeChars s.toList ++ '"' :: rest) =
      some (s, rest) := by
  rw [readString, readUnits_escapeChars]
  simp only [Option.bind_eq_bind, Option.bind_some,
    joinUnits_keptUnits, String.ofList_toList]
  rfl

end Json

end KbConsole
