import KbConsole.Text.Letter

/-
  Numbers as the server and the settings exchange them:
  the values of a 64-bit binary floating-point format, held
  exactly.

  Integers up to 2^53 - 1 in magnitude have a constructor
  of their own, so that a limit or a count is a plain
  integer. Every other finite value is a mantissa times a
  power of two; minus zero is among these.

  Key definitions include:
    * `Number`
    * `Number.ofDecimal`
    * `Number.isFinite`
-/

namespace KbConsole

------------------------------------------------------------
-- Values
------------------------------------------------------------

/-
  A number: an exact integer, a binary fraction
  `mantissa * 2 ^ exponent` with a sign, an infinity, or
  the undefined value.
-/
inductive Number where
  | integer (value : Int)
  | binary
      (negative : Bool)
      (mantissa : Nat)
      (exponent : Int)
  | infinite (negative : Bool)
  | undefined
deriving DecidableEq, Repr, Inhabited

namespace Number

/- The largest integer below which all integers are exact. -/
def largestExact : Nat :=
  9007199254740991

/- Minus zero, which differs from the integer zero. -/
def minusZero : Number :=
  binary true 0 0

/- A zero with a sign. -/
def zero (negative : Bool) : Number :=
  if negative then minusZero else integer 0

/- An integer with a separate sign. -/
def signed (negative : Bool) (n : Nat) : Number :=
  integer (if negative then -(n : Int) else n)

/- A number that is neither infinite nor undefined. -/
def isFinite : Number → Bool
  | integer _ => true
  | binary _ _ _ => true
  | infinite _ => false
  | undefined => false

------------------------------------------------------------
-- Rounding
------------------------------------------------------------

/-
  The integer nearest to `num / den`; of two equally near
  ones, the even one.
-/
def roundEven (num den : Nat) : Nat :=
  let floor := num / den
  let rest := 2 * (num % den)
  if rest < den then
    floor
  else if den < rest then
    floor + 1
  else
    floor + floor % 2

/- Divide a fraction by a power of two. -/
def scale (num den : Nat) (exponent : Int) : Nat × Nat :=
  if 0 ≤ exponent then
    (num, den * Nat.pow 2 exponent.toNat)
  else
    (num * Nat.pow 2 (-exponent).toNat, den)

/-
  The mantissa and exponent nearest to a positive fraction.
  The mantissa has 53 bits, fewer at the smallest exponent.
-/
def nearest (num den : Nat) : Nat × Int :=
  let guess : Int := Nat.log2 num - Nat.log2 den - 53
  let wide := scale num den guess
  let exponent : Int :=
    if wide.1 / wide.2 < Nat.pow 2 53 then guess else guess + 1
  let exponent := max exponent (-1074)
  let fraction := scale num den exponent
  let mantissa := roundEven fraction.1 fraction.2
  if mantissa < Nat.pow 2 53 then
    (mantissa, exponent)
  else
    (Nat.pow 2 52, exponent + 1)

/- The number nearest to a positive fraction, with a sign. -/
def ofFraction
    (negative : Bool)
    (num den : Nat) : Number :=
  let (mantissa, exponent) := nearest num den
  if 971 < exponent then
    infinite negative
  else if mantissa = 0 then
    zero negative
  else if 0 < exponent then
    binary negative mantissa exponent
  else
    let unit := Nat.pow 2 (-exponent).toNat
    if mantissa % unit = 0 then
      signed negative (mantissa / unit)
    else
      binary negative mantissa exponent

/- The number of decimal digits that write an integer. -/
def decimalLength (n : Nat) : Nat :=
  (Nat.toDigits 10 n).length

/-
  The number nearest to `digits * 10 ^ exponent`, with a
  sign. Magnitudes that are certain to be infinite or zero
  are settled without computing the power.
-/
def ofDecimal
    (negative : Bool)
    (digits : Nat)
    (exponent : Int) : Number :=
  let magnitude := decimalLength digits + exponent
  if digits = 0 then
    zero negative
  else if exponent = 0 ∧ digits ≤ largestExact then
    signed negative digits
  else if 310 < magnitude then
    infinite negative
  else if magnitude < -330 then
    zero negative
  else if 0 ≤ exponent then
    ofFraction negative (digits * Nat.pow 10 exponent.toNat) 1
  else
    ofFraction negative digits (Nat.pow 10 (-exponent).toNat)

/- The number written by a list of decimal digits. -/
def ofNumeral (digits : List Char) : Number :=
  ofDecimal false (Text.numeral digits) 0

end Number

end KbConsole
