import KbConsole.Number.Count
import Mathlib.Algebra.Order.Field.Power
import Mathlib.Data.Nat.Log
import Mathlib.Data.Rat.Cast.Order

/-
  Counts are at least one, however many digits they have.

  A count that is not exact is rounded; it may become
  infinite, but it never falls below one.

  Key definitions include:
    * `Number.AtLeastOne`

  The main statements are `Number.atLeastOne_ofNumeral` and
  `Number.atLeastOne_count?`.
-/

namespace KbConsole

namespace Number

/- A number has a value of one or more. -/
def AtLeastOne : Number → Prop
  | integer value => 1 ≤ value
  | binary negative mantissa exponent =>
      negative = false ∧ (1 : ℚ) ≤ mantissa * 2 ^ exponent
  | infinite negative => negative = false
  | undefined => False

------------------------------------------------------------
-- Rounding
------------------------------------------------------------

theorem div_le_roundEven (num den : Nat) :
    num / den ≤ roundEven num den := by
  unfold roundEven
  dsimp only
  split
  · exact Nat.le_refl _
  · split <;> omega

/-
  The power of two by which a large integer is divided
  leaves something of it.
-/
theorem one_le_roundEven
    {n k : Nat}
    (hPower : 2 ^ k ≤ n) :
    1 ≤ roundEven n (2 ^ k) := by
  have hQuotient : 1 ≤ n / 2 ^ k :=
    (Nat.one_le_div_iff (Nat.two_pow_pos k)).mpr hPower
  exact hQuotient.trans (div_le_roundEven n (2 ^ k))

theorem scale_one
    {exponent : Int}
    (hExponent : 0 ≤ exponent)
    (n : Nat) :
    scale n 1 exponent = (n, 2 ^ exponent.toNat) := by
  unfold scale
  rw [if_pos hExponent, Nat.one_mul]
  rfl

theorem one_le_mantissa
    {n : Nat}
    (hNonzero : n ≠ 0)
    {exponent : Int}
    (hLow : 0 ≤ exponent)
    (hHigh : exponent ≤ Nat.log2 n) :
    1 ≤ roundEven (scale n 1 exponent).1
      (scale n 1 exponent).2 := by
  rw [scale_one hLow]
  apply one_le_roundEven
  have hPower : exponent.toNat ≤ Nat.log2 n := by omega
  calc
    2 ^ exponent.toNat ≤ 2 ^ Nat.log2 n :=
      Nat.pow_le_pow_right (by decide) hPower
    _ ≤ n := Nat.log2_self_le hNonzero

/-
  An integer beyond the exact ones has a mantissa, and its
  exponent is not negative.
-/
theorem nearest_of_large
    {n : Nat}
    (hLarge : largestExact < n) :
    1 ≤ (nearest n 1).1 ∧ 0 ≤ (nearest n 1).2 := by
  have hNonzero : n ≠ 0 := by omega
  have hLog : 53 ≤ Nat.log2 n := by
    apply (Nat.le_log2 hNonzero).mpr
    unfold largestExact at hLarge
    omega
  have hOne : Nat.log2 1 = 0 := by decide
  unfold nearest
  dsimp only
  generalize hExponent : max (_ : Int) (-1074) = exponent
  have hLow : 0 ≤ exponent := by
    rw [← hExponent, hOne]
    split <;> omega
  have hHigh : exponent ≤ Nat.log2 n := by
    rw [← hExponent, hOne]
    split <;> omega
  have hMantissa := one_le_mantissa hNonzero hLow hHigh
  split
  · exact ⟨hMantissa, hLow⟩
  · exact ⟨Nat.one_le_two_pow, by omega⟩

------------------------------------------------------------
-- Counts
------------------------------------------------------------

theorem atLeastOne_signed
    {n : Nat}
    (hPositive : 1 ≤ n) :
    (signed false n).AtLeastOne := by
  unfold signed AtLeastOne
  rw [if_neg (by decide)]
  omega

theorem atLeastOne_binary
    {mantissa : Nat}
    {exponent : Int}
    (hMantissa : 1 ≤ mantissa)
    (hExponent : 0 ≤ exponent) :
    (binary false mantissa exponent).AtLeastOne := by
  have hWhole : (1 : ℚ) ≤ mantissa := by
    exact_mod_cast hMantissa
  have hPower : (1 : ℚ) ≤ 2 ^ exponent :=
    one_le_zpow₀ (by norm_num) hExponent
  exact ⟨rfl, one_le_mul_of_one_le_of_one_le hWhole hPower⟩

theorem atLeastOne_ofFraction
    {n : Nat}
    (hLarge : largestExact < n) :
    (ofFraction false n 1).AtLeastOne := by
  rcases nearest_of_large hLarge with ⟨hMantissa, hExponent⟩
  unfold ofFraction
  dsimp only
  split
  · exact rfl
  · split
    · omega
    · split
      · exact atLeastOne_binary hMantissa hExponent
      · -- Without an exponent the mantissa is the number.
        have hZero : (nearest n 1).2 = 0 := by omega
        have hUnit : Nat.pow 2 (-0 : Int).toNat = 1 := rfl
        rw [hZero, hUnit, if_pos (Nat.mod_one _), Nat.div_one]
        exact atLeastOne_signed hMantissa

theorem ofNumeral_of_zero
    {digits : List Char}
    (hZero : Text.numeral digits = 0) :
    ofNumeral digits = integer 0 := by
  unfold ofNumeral ofDecimal
  exact if_pos hZero

/- Only zeros write less than one. -/
theorem atLeastOne_ofNumeral
    {digits : List Char}
    (hNonzero : Text.numeral digits ≠ 0) :
    (ofNumeral digits).AtLeastOne := by
  have hPositive : 1 ≤ Text.numeral digits := by omega
  unfold ofNumeral ofDecimal
  dsimp only
  rw [if_neg hNonzero]
  split
  · exact atLeastOne_signed hPositive
  · rename_i hInexact
    have hLarge : largestExact < Text.numeral digits := by
      omega
    split
    · exact rfl
    · split
      · omega
      · rw [if_pos (Int.le_refl 0)]
        have hPower : Nat.pow 10 (0 : Int).toNat = 1 := rfl
        rw [hPower, Nat.mul_one]
        exact atLeastOne_ofFraction hLarge

theorem atLeastOne_count?
    {text : String}
    {n : Number}
    (hCount : count? text = some n) :
    n.AtLeastOne := by
  unfold count? at hCount
  dsimp only at hCount
  split at hCount
  · rename_i hDigits
    obtain rfl := Option.some.inj hCount
    apply atLeastOne_ofNumeral
    rw [Bool.and_eq_true, bne_iff_ne] at hDigits
    exact hDigits.2
  · cases hCount

end Number

end KbConsole
