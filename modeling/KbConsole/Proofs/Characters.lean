import KbConsole.Identifier
import KbConsole.Number.Notation
import KbConsole.Text.Units
import Mathlib.Tactic.IntervalCases

/-
  Halves, widths and cases of characters, the characters of
  joined texts, of names and of numbers, as their readers
  need them.

  Key definitions include:
    * `Number.isNumberChar`

  The main statements are `Number.numeral_digits`: digits
  write the number that they came from;
  `Number.digits_numeral`: without leading zeros they are
  its only digits; and `Number.isNumberChar_of_mem_chars`:
  the text of a finite number holds no letter but the mark
  of an exponent.
-/

namespace KbConsole

------------------------------------------------------------
-- Halves
------------------------------------------------------------

namespace Text

theorem toNat_lt (c : Char) : c.toNat < 0x110000 := by
  rcases c.valid with h | h
  · exact Nat.lt_trans h (by decide)
  · exact h.2

/- A half's unit has four hexadecimal digits. -/
theorem halfUnit_lt (c : Char) : halfUnit c < 0x10000 := by
  have hLt := toNat_lt c
  unfold halfUnit firstHalf
  omega

/- A valid character is no surrogate. -/
theorem not_surrogate (c : Char) :
    c.toNat < 0xD800 ∨ 0xDFFF < c.toNat := by
  rcases c.valid with h | h
  · exact Or.inl h
  · exact Or.inr h.1

------------------------------------------------------------
-- Widths
------------------------------------------------------------

theorem charsWidth_append (cs ds : List Char) :
    charsWidth (cs ++ ds) = charsWidth cs + charsWidth ds := by
  induction cs with
  | nil => simp [charsWidth]
  | cons c cs ih =>
      rw [List.cons_append, charsWidth, charsWidth, ih,
        Nat.add_assoc]

------------------------------------------------------------
-- Digits and Letters
------------------------------------------------------------

section Letters

variable {c : Char}

theorem toNat_of_isDigit
    (hDigit : c.isDigit = true) :
    48 ≤ c.toNat ∧ c.toNat ≤ 57 :=
  Char.isDigit_iff_toNat.mp hDigit

theorem isUpper_iff_toNat :
    c.isUpper = true ↔ 65 ≤ c.toNat ∧ c.toNat ≤ 90 :=
  decide_eq_true_iff

theorem isLower_iff_toNat :
    c.isLower = true ↔ 97 ≤ c.toNat ∧ c.toNat ≤ 122 :=
  Bool.and_eq_true_iff.trans
    (and_congr decide_eq_true_iff decide_eq_true_iff)

/- A letter or a digit, by its number. -/
theorem isAlphanum_iff_toNat :
    c.isAlphanum = true ↔
      (65 ≤ c.toNat ∧ c.toNat ≤ 90) ∨
        (97 ≤ c.toNat ∧ c.toNat ≤ 122) ∨
          (48 ≤ c.toNat ∧ c.toNat ≤ 57) := by
  have hAlphanum :
      c.isAlphanum =
        ((c.isUpper || c.isLower) || c.isDigit) :=
    rfl
  rw [hAlphanum, Bool.or_eq_true, Bool.or_eq_true, or_assoc,
    isUpper_iff_toNat, isLower_iff_toNat,
    Char.isDigit_iff_toNat]
  rfl

/- Only the upper-case letters A to Z are changed. -/
theorem toLower_eq_self
    (hOther : ¬ (65 ≤ c.toNat ∧ c.toNat ≤ 90)) :
    c.toLower = c :=
  dif_neg hOther

/- Only the lower-case letters a to z are changed. -/
theorem toUpper_eq_self
    (hOther : ¬ (97 ≤ c.toNat ∧ c.toNat ≤ 122)) :
    c.toUpper = c :=
  dif_neg hOther

theorem toNat_toLower
    (hUpper : 65 ≤ c.toNat ∧ c.toNat ≤ 90) :
    c.toLower.toNat = c.toNat + 32 := by
  have hVal : c.toLower.val = c.val + 32 :=
    congrArg Char.val (dif_pos hUpper)
  rw [← Char.toNat_val, hVal, UInt32.toNat_add]
  simp only [Char.toNat_val, UInt32.reduceToNat]
  omega

theorem toNat_toUpper
    (hLower : 97 ≤ c.toNat ∧ c.toNat ≤ 122) :
    c.toUpper.toNat = c.toNat - 32 := by
  have hVal :
      c.toUpper.val = c.val + ('A'.val - 'a'.val) := by
    unfold Char.toUpper
    split
    · rfl
    · rename_i hOther
      exact absurd hLower hOther
  rw [← Char.toNat_val, hVal, UInt32.toNat_add,
    UInt32.toNat_sub]
  simp only [Char.toNat_val, Char.reduceToNat]
  omega

theorem toLower_toLower : c.toLower.toLower = c.toLower := by
  by_cases hUpper : 65 ≤ c.toNat ∧ c.toNat ≤ 90
  · apply toLower_eq_self
    rw [toNat_toLower hUpper]
    omega
  · rw [toLower_eq_self hUpper, toLower_eq_self hUpper]

theorem toLower_toUpper : c.toUpper.toLower = c.toLower := by
  by_cases hLower : 97 ≤ c.toNat ∧ c.toNat ≤ 122
  · have hUpper := toNat_toUpper hLower
    have hSame : c.toLower = c :=
      toLower_eq_self (by omega)
    rw [← Char.toNat_inj, hSame, toNat_toLower (by omega),
      hUpper]
    omega
  · rw [toUpper_eq_self hLower]

end Letters

------------------------------------------------------------
-- Joined Texts
------------------------------------------------------------

/- Parts between separators: each follows a separator. -/
theorem toList_intercalate_cons
    (separator first : String)
    (parts : List String) :
    (separator.intercalate (first :: parts)).toList =
      first.toList ++ parts.flatMap fun part =>
        separator.toList ++ part.toList := by
  induction parts generalizing first with
  | nil => simp
  | cons part parts ih =>
      rw [String.intercalate_cons_cons, String.toList_append,
        ih]
      simp

/- What is in joined texts is in one of them or between. -/
theorem mem_intercalate
    {c : Char}
    {separator : String}
    {parts : List String}
    (hMember : c ∈ (separator.intercalate parts).toList) :
    c ∈ separator.toList ∨ ∃ part ∈ parts, c ∈ part.toList := by
  cases parts with
  | nil => simp at hMember
  | cons first parts =>
      rw [toList_intercalate_cons, List.mem_append,
        List.mem_flatMap] at hMember
      rcases hMember with hFirst | ⟨part, hPart, hMember⟩
      · exact Or.inr ⟨first, List.mem_cons_self, hFirst⟩
      · rcases List.mem_append.mp hMember with
          hBetween | hLater
        · exact Or.inl hBetween
        · exact Or.inr
            ⟨part, List.mem_cons_of_mem first hPart, hLater⟩

variable {first second both : String}

/- Two neighbours behind a text may be joined first. -/
theorem append_joined
    (hBoth : first ++ second = both)
    (front : String) :
    front ++ first ++ second = front ++ both := by
  rw [String.append_assoc, hBoth]

/- Two neighbours before a text may be joined first. -/
theorem joined_append
    (hBoth : first ++ second = both)
    (rest : String) :
    first ++ (second ++ rest) = both ++ rest := by
  rw [← String.append_assoc, hBoth]

end Text

------------------------------------------------------------
-- Names
------------------------------------------------------------

namespace Identifier

/- A name consists of letters, digits and underscores. -/
theorem isAlphanum_of_mem
    (name : Identifier)
    {c : Char}
    (hMember : c ∈ name.text.toList)
    (hUnderscore : c ≠ '_') :
    c.isAlphanum = true := by
  have hSafe := name.safe
  rw [Identifier.isSafe, Bool.and_eq_true] at hSafe
  apply List.all_eq_true.mp hSafe.2
  rw [List.mem_filter]
  exact ⟨hMember, by simpa using hUnderscore⟩

/- No other character is part of a name. -/
theorem ne_of_mem
    {name : Identifier}
    {c other : Char}
    (hMember : c ∈ name.text.toList)
    (hAlphanum : other.isAlphanum = false)
    (hUnderscore : other ≠ '_') :
    c ≠ other := by
  rintro rfl
  have hName :=
    isAlphanum_of_mem name hMember hUnderscore
  rw [hAlphanum] at hName
  cases hName

/- A name is not empty. -/
theorem exists_cons (name : Identifier) :
    ∃ c cs, name.text.toList = c :: cs := by
  apply List.exists_cons_of_ne_nil
  intro hEmpty
  have hSafe := name.safe
  simp [isSafe, hEmpty] at hSafe

end Identifier

------------------------------------------------------------
-- Decimal Digits
------------------------------------------------------------

namespace Number

theorem isDigit_of_mem_digits
    {n : Nat}
    {c : Char}
    (hMember : c ∈ digits n) :
    c.isDigit = true :=
  Nat.isDigit_of_mem_toDigits (by decide) (by decide) hMember

/- A number has at least one digit. -/
theorem exists_cons_digits (n : Nat) :
    ∃ c cs, digits n = c :: cs :=
  List.exists_cons_of_ne_nil Nat.toDigits_ne_nil

/- Digits write the number that they came from. -/
theorem numeral_digits (n : Nat) :
    Text.numeral (digits n) = n := by
  have hFold :
      Text.numeral (digits n) =
        Nat.ofDigitChars 10 (digits n) 0 := by
    rw [Nat.ofDigitChars_eq_foldl]
    rfl
  rw [hFold]
  exact Nat.ofDigitChars_toDigits (by decide) (by decide)

/- Only zero is written with a leading zero. -/
theorem eq_zero_of_head?_digits
    {n : Nat}
    (hHead : (digits n).head? = some '0') :
    n = 0 := by
  induction n using Nat.strong_induction_on with
  | h n ih =>
      rw [digits, Nat.toDigits_eq_if (by decide)] at hHead
      split at hHead
      · rename_i hSmall
        interval_cases n <;> simp_all [Nat.digitChar]
      · rename_i hLarge
        rcases exists_cons_digits (n / 10) with
          ⟨c, cs, hCons⟩
        have hFront : (digits (n / 10)).head? = some '0' := by
          rw [digits] at hCons ⊢
          rw [hCons, List.cons_append] at hHead
          rw [hCons]
          exact hHead
        have hZero := ih (n / 10) (by omega) hFront
        omega

/- A digit is written by its value. -/
theorem digits_digitValue
    {c : Char}
    (hDigit : c.isDigit = true) :
    digits (Text.digitValue c) = [c] := by
  have hRange := Text.toNat_of_isDigit hDigit
  have hValue : Text.digitValue c = c.toNat - 48 := rfl
  rw [digits, Nat.toDigits_of_lt_base (by omega),
    List.singleton_inj, ← Char.toNat_inj,
    Nat.toNat_digitChar_of_lt_ten (by omega)]
  omega

/- Digits behind a number above zero continue it. -/
theorem digits_append
    {cs : List Char}
    (hDigits : ∀ c ∈ cs, c.isDigit = true)
    {n : Nat}
    (hPositive : 0 < n) :
    digits n ++ cs =
      digits
        (cs.foldl (fun n c => 10 * n + Text.digitValue c) n) := by
  induction cs generalizing n with
  | nil => exact List.append_nil _
  | cons c cs ih =>
      rw [List.forall_mem_cons] at hDigits
      have hRange := Text.toNat_of_isDigit hDigits.1
      have hValue : Text.digitValue c = c.toNat - 48 := rfl
      have hDigit :
          digits n ++ [c] =
            digits (10 * n + Text.digitValue c) := by
        rw [← digits_digitValue hDigits.1]
        exact
          Nat.toDigits_append_toDigits (by decide) hPositive
            (by omega)
      rw [List.foldl_cons, ← ih hDigits.2 (by omega), ← hDigit,
        List.append_assoc, List.singleton_append]

/- Without leading zeros, a number is written in one way. -/
theorem digits_numeral
    {cs : List Char}
    (hNumeral : Text.isNumeral cs = true)
    (hLeading : cs.head? ≠ some '0' ∨ cs.length = 1) :
    digits (Text.numeral cs) = cs := by
  rw [Text.isNumeral, Bool.and_eq_true, List.all_eq_true]
    at hNumeral
  cases cs with
  | nil => cases hNumeral.1
  | cons c cs =>
      have hDigits := List.forall_mem_cons.mp hNumeral.2
      have hFirst := digits_digitValue hDigits.1
      have hNumber :
          Text.numeral (c :: cs) =
            cs.foldl (fun n c => 10 * n + Text.digitValue c)
              (Text.digitValue c) := by
        rw [Text.numeral, List.foldl_cons, Nat.mul_zero,
          Nat.zero_add]
      rw [hNumber]
      by_cases hZero : Text.digitValue c = 0
      · rw [hZero] at hFirst
        obtain rfl : '0' = c := List.singleton_inj.mp hFirst
        have hLength :=
          hLeading.resolve_left fun hOther => hOther rfl
        rw [List.length_cons, Nat.add_eq_right,
          List.length_eq_zero_iff] at hLength
        rw [hLength]
        rfl
      · rw [← digits_append hDigits.2 (by omega), hFirst,
          List.singleton_append]

------------------------------------------------------------
-- Texts of Numbers
------------------------------------------------------------

/- The characters that texts of finite numbers consist of. -/
def isNumberChar (c : Char) : Bool :=
  c.isDigit || c == '.' || c == 'e' || c == '+' || c == '-'

theorem isNumberChar_of_mem_digits
    {n : Nat}
    {c : Char}
    (hMember : c ∈ digits n) :
    isNumberChar c = true := by
  have hDigit := isDigit_of_mem_digits hMember
  simp [isNumberChar, hDigit]

theorem isNumberChar_of_mem_exponentPart
    {exponent : Int}
    {c : Char}
    (hMember : c ∈ exponentPart exponent) :
    isNumberChar c = true := by
  rw [exponentPart, List.mem_cons, List.mem_cons] at hMember
  rcases hMember with rfl | rfl | hMember
  · rfl
  · split <;> rfl
  · exact isNumberChar_of_mem_digits hMember

/- The layout adds zeros, a point and an exponent. -/
theorem isNumberChar_of_mem_layOut
    {ds : List Char}
    (hDigits : ∀ c ∈ ds, isNumberChar c = true)
    {point : Int}
    {c : Char}
    (hMember : c ∈ layOut ds point) :
    isNumberChar c = true := by
  have hZeros (n : Nat) :
      ∀ c ∈ List.replicate n '0', isNumberChar c = true := by
    intro c hZero
    rw [List.eq_of_mem_replicate hZero]
    rfl
  have hPoint : isNumberChar '.' = true := rfl
  unfold layOut at hMember
  split at hMember
  · rcases List.mem_append.mp hMember with hMember | hMember
    · exact hDigits c hMember
    · exact hZeros _ c hMember
  split at hMember
  · rcases List.mem_append.mp hMember with hMember | hMember
    · exact hDigits c (List.mem_of_mem_take hMember)
    · rcases List.mem_cons.mp hMember with rfl | hMember
      · exact hPoint
      · exact hDigits c (List.mem_of_mem_drop hMember)
  split at hMember
  · rw [List.mem_cons, List.mem_cons, List.mem_append]
      at hMember
    rcases hMember with rfl | rfl | hMember | hMember
    · rfl
    · exact hPoint
    · exact hZeros _ c hMember
    · exact hDigits c hMember
  split at hMember
  · cases hMember
  · rename_i d
    rcases List.mem_cons.mp hMember with rfl | hMember
    · exact hDigits c (by simp)
    · exact isNumberChar_of_mem_exponentPart hMember
  · rename_i d ds _
    rw [List.mem_cons, List.mem_cons, List.mem_append]
      at hMember
    rcases hMember with rfl | rfl | hMember | hMember
    · exact hDigits c (by simp)
    · exact hPoint
    · exact hDigits c (List.mem_cons_of_mem _ hMember)
    · exact isNumberChar_of_mem_exponentPart hMember

theorem isNumberChar_of_mem_magnitudeChars
    {mantissa : Nat}
    {exponent : Int}
    {c : Char}
    (hMember : c ∈ magnitudeChars mantissa exponent) :
    isNumberChar c = true := by
  unfold magnitudeChars at hMember
  split at hMember
  · rw [List.mem_singleton.mp hMember]
    rfl
  · apply isNumberChar_of_mem_layOut _ hMember
    intro c hDigit
    exact isNumberChar_of_mem_digits hDigit

theorem isNumberChar_of_mem_chars
    {n : Number}
    (hFinite : n.isFinite = true)
    {c : Char}
    (hMember : c ∈ n.chars) :
    isNumberChar c = true := by
  have hSign : isNumberChar '-' = true := rfl
  cases n with
  | integer value =>
      rw [chars] at hMember
      split at hMember
      · rcases List.mem_cons.mp hMember with rfl | hMember
        · exact hSign
        · exact isNumberChar_of_mem_digits hMember
      · exact isNumberChar_of_mem_digits hMember
  | binary negative mantissa exponent =>
      rw [chars] at hMember
      split at hMember
      · rcases List.mem_cons.mp hMember with rfl | hMember
        · exact hSign
        · exact isNumberChar_of_mem_magnitudeChars hMember
      · exact isNumberChar_of_mem_magnitudeChars hMember
  | infinite negative => cases hFinite
  | undefined => cases hFinite

/- A text with another character writes no finite number. -/
theorem text_ne_of_not_isNumberChar
    {n : Number}
    (hFinite : n.isFinite = true)
    {word : String}
    {c : Char}
    (hMember : c ∈ word.toList)
    (hOther : isNumberChar c = false) :
    n.text ≠ word := by
  intro hText
  have hChars : c ∈ n.chars := by
    rw [← hText, text, String.toList_ofList] at hMember
    exact hMember
  have hNumber := isNumberChar_of_mem_chars hFinite hChars
  rw [hOther] at hNumber
  cases hNumber

end Number

end KbConsole
