import KbConsole.Number.Shortest

/-
  The text of a number.

  A number is written with the fewest digits that read back
  as it. From a millionth up to 10^21 it is positional;
  outside, it has an exponent with a sign.

  Key definitions include:
    * `Number.layOut`
    * `Number.text`
-/

namespace KbConsole

namespace Number

------------------------------------------------------------
-- Layout
------------------------------------------------------------

/- Decimal digits of a natural number. -/
def digits (n : Nat) : List Char :=
  Nat.toDigits 10 n

/- The exponent part of a scientific numeral. -/
def exponentPart (exponent : Int) : List Char :=
  let sign := if exponent < 0 then '-' else '+'
  'e' :: sign :: digits exponent.natAbs

/-
  Lay out `0.d₁d₂d₃… * 10 ^ point`: positionally when the
  point falls near the digits, else with an exponent.
-/
def layOut (ds : List Char) (point : Int) : List Char :=
  if ds.length ≤ point ∧ point ≤ 21 then
    ds ++ List.replicate (point.toNat - ds.length) '0'
  else if 0 < point ∧ point ≤ 21 then
    ds.take point.toNat ++ '.' :: ds.drop point.toNat
  else if -6 < point ∧ point ≤ 0 then
    '0' :: '.' ::
      (List.replicate (-point).toNat '0' ++ ds)
  else
    match ds with
    | [] => []
    | [d] => d :: exponentPart (point - 1)
    | d :: ds => d :: '.' :: (ds ++ exponentPart (point - 1))

/- The characters of a number without its sign. -/
def magnitudeChars (mantissa : Nat) (exponent : Int) :
    List Char :=
  if mantissa = 0 then
    ['0']
  else
    let (value, scale) := shortest mantissa exponent
    let ds := digits value
    layOut ds (ds.length + scale)

------------------------------------------------------------
-- Text
------------------------------------------------------------

/- The characters of a number; minus zero has no sign. -/
def chars : Number → List Char
  | integer value =>
      if value < 0 then
        '-' :: digits value.natAbs
      else
        digits value.natAbs
  | binary negative mantissa exponent =>
      if negative && mantissa != 0 then
        '-' :: magnitudeChars mantissa exponent
      else
        magnitudeChars mantissa exponent
  | infinite negative =>
      if negative then
        "-Infinity".toList
      else
        "Infinity".toList
  | undefined => "NaN".toList

/- The text of a number. -/
def text (n : Number) : String :=
  String.ofList n.chars

end Number

end KbConsole
