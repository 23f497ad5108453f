import KbConsole.Number.Count
import KbConsole.Proofs.Characters

/-
  The integers that texts write, and the counts among them.

  A count is an integer of at least one. Up to the largest
  exact integer it keeps its value, however many zeros it
  begins with, and it is written again without them.

  Key definitions include:
    * `Text.WritesInteger`

  The main statements are `Number.count?_of_writesInteger`
  and `Number.count?_eq_none_iff`.
-/

namespace KbConsole

/-
  Decimal digits, with a plus sign, a minus sign or no sign
  in front of them, write an integer.
-/
inductive Text.WritesInteger : List Char → Int → Prop where
  | unsigned
      {digits : List Char}
      (hDigits : Text.isNumeral digits = true) :
      WritesInteger digits (Text.numeral digits)
  | plus
      {digits : List Char}
      (hDigits : Text.isNumeral digits = true) :
      WritesInteger ('+' :: digits) (Text.numeral digits)
  | minus
      {digits : List Char}
      (hDigits : Text.isNumeral digits = true) :
      WritesInteger ('-' :: digits) (-Text.numeral digits)

namespace Number

variable {text : String}

------------------------------------------------------------
-- Signs
------------------------------------------------------------

/- Digits have no sign in front of them. -/
theorem isDigit_head_of_isNumeral
    {c : Char}
    {cs : List Char}
    (hNumeral : Text.isNumeral (c :: cs) = true) :
    c.isDigit = true := by
  simp only [Text.isNumeral, List.all_cons, Bool.and_eq_true]
    at hNumeral
  exact hNumeral.2.1

theorem countDigits_of_isNumeral
    {digits : List Char}
    (hDigits : Text.isNumeral digits = true) :
    countDigits digits = digits := by
  cases digits with
  | nil => rfl
  | cons c cs =>
      have hDigit := isDigit_head_of_isNumeral hDigits
      rw [countDigits]
      rintro rest hPlus
      rw [(List.cons.inj hPlus).1] at hDigit
      exact absurd hDigit (by decide)

/- What has digits up to its plus sign writes their number. -/
theorem writesInteger_of_countDigits
    {cs : List Char}
    (hDigits : Text.isNumeral (countDigits cs) = true) :
    Text.WritesInteger cs (Text.numeral (countDigits cs)) := by
  unfold countDigits at hDigits ⊢
  split at hDigits
  · exact .plus hDigits
  · exact .unsigned hDigits

/- An integer of at least one has no minus sign. -/
theorem countDigits_of_writesInteger
    {cs : List Char}
    {n : Int}
    (hWrites : Text.WritesInteger cs n)
    (hPositive : 1 ≤ n) :
    Text.isNumeral (countDigits cs) = true ∧
      (Text.numeral (countDigits cs) : Int) = n := by
  cases hWrites with
  | unsigned hDigits =>
      rw [countDigits_of_isNumeral hDigits]
      exact ⟨hDigits, rfl⟩
  | plus hDigits => exact ⟨hDigits, rfl⟩
  | minus hDigits => omega

------------------------------------------------------------
-- Counts
------------------------------------------------------------

theorem ofNumeral_eq_integer
    {digits : List Char}
    (hExact : Text.numeral digits ≤ largestExact) :
    ofNumeral digits = .integer (Text.numeral digits) := by
  unfold ofNumeral ofDecimal
  by_cases hZero : Text.numeral digits = 0
  · rw [if_pos hZero, hZero]
    rfl
  · rw [if_neg hZero, if_pos ⟨rfl, hExact⟩]
    rfl

/- A count is the integer that the text writes. -/
theorem count?_of_writesInteger
    {n : Nat}
    (hWrites :
      Text.WritesInteger (Text.trimChars text.toList) n)
    (hPositive : 1 ≤ n)
    (hExact : n ≤ largestExact) :
    count? text = some (.integer n) := by
  rcases countDigits_of_writesInteger hWrites (by omega) with
    ⟨hDigits, hValue⟩
  have hValue :
      Text.numeral
          (countDigits (Text.trimChars text.toList)) = n := by
    omega
  unfold count?
  dsimp only
  rw [hDigits, ofNumeral_eq_integer (by omega), hValue,
    if_pos (by simpa using by omega)]

/- A text is no count if no integer above zero is written. -/
theorem count?_eq_none_iff :
    count? text = none ↔
      ∀ n,
        Text.WritesInteger (Text.trimChars text.toList) n →
          n < 1 := by
  unfold count?
  dsimp only
  constructor
  · intro hNone n hWrites
    by_contra hPositive
    rcases countDigits_of_writesInteger hWrites (by omega) with
      ⟨hDigits, hValue⟩
    rw [hDigits, if_pos (by simpa using by omega)] at hNone
    cases hNone
  · intro hSmall
    rw [if_neg]
    intro hCount
    rw [Bool.and_eq_true, bne_iff_ne] at hCount
    have hLess :=
      hSmall _ (writesInteger_of_countDigits hCount.1)
    omega

------------------------------------------------------------
-- Numerals
------------------------------------------------------------

/- An integer from zero is written by its own numeral. -/
theorem text_natCast (n : Nat) :
    (Number.integer n).text = toString n := by
  have hSign : ¬ (n : Int) < 0 := by omega
  have hChars : (Number.integer n).chars = digits n := by
    rw [Number.chars, if_neg hSign]
    rfl
  rw [Number.text, hChars]
  rfl

theorem toList_text_natCast (n : Nat) :
    (integer n).text.toList = digits n := by
  rw [text_natCast]
  exact String.toList_ofList

theorem isNumeral_digits (n : Nat) :
    Text.isNumeral (digits n) = true := by
  rw [Text.isNumeral, Bool.and_eq_true, List.all_eq_true]
  constructor
  · rcases exists_cons_digits n with ⟨c, cs, hCons⟩
    rw [hCons]
    rfl
  · intro c hMember
    exact isDigit_of_mem_digits hMember

theorem ofNumeral_digits (n : Nat) :
    ofNumeral (digits n) = ofDecimal false n 0 := by
  rw [ofNumeral, numeral_digits]

theorem ofDecimal_eq_integer
    {n : Nat}
    (hExact : n ≤ largestExact) :
    ofDecimal false n 0 = .integer n := by
  have hDigits := numeral_digits n
  rw [← ofNumeral_digits, ofNumeral_eq_integer (by omega),
    hDigits]

end Number

end KbConsole
