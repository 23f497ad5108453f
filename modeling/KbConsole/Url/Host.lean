import KbConsole.Text.Blank
import KbConsole.Text.Units
import KbConsole.Text.Letter

/-
  The forms that the host of a web address may take: an
  IPv4 address, an IPv6 address, or a domain name.

  Key definitions include:
    * `Url.isIpv4`
    * `Url.isIpv6`
    * `Url.isDomain`
-/

namespace KbConsole

namespace Url

------------------------------------------------------------
-- IPv4
------------------------------------------------------------

/- A number from 0 to 255 without leading zeros. -/
def isOctet (cs : List Char) : Bool :=
  Text.isNumeral cs && cs.length ≤ 3 &&
    (cs.head? != some '0' || cs.length == 1) &&
    Text.numeral cs ≤ 255

/- Four octets between points. -/
def isIpv4 (cs : List Char) : Bool :=
  let parts := Text.splitBy (· == '.') cs
  parts.length == 4 && parts.all isOctet

------------------------------------------------------------
-- IPv6
------------------------------------------------------------

/- One to four hexadecimal digits. -/
def isHexGroup (cs : List Char) : Bool :=
  !cs.isEmpty && cs.length ≤ 4 &&
    cs.all (fun c => (Text.hexValue? c).isSome)

/-
  The number of groups in a list of parts, each of them a
  hexadecimal group; the last may be an IPv4 address, which
  takes the room of two.
-/
def groupCount? : List (List Char) → Option Nat
  | [] => some 0
  | [part] =>
      if isHexGroup part then some 1
      else if isIpv4 part then some 2
      else none
  | part :: parts =>
      if isHexGroup part then
        (groupCount? parts).map (· + 1)
      else
        none

/- The parts between colons; an empty text has none. -/
def colonParts (cs : List Char) : List (List Char) :=
  if cs.isEmpty then [] else Text.splitBy (· == ':') cs

/- The characters before and after the first double colon. -/
def cutAtGap : List Char → Option (List Char × List Char)
  | ':' :: ':' :: cs => some ([], cs)
  | c :: cs =>
      (cutAtGap cs).map fun halves => (c :: halves.1, halves.2)
  | [] => none

/-
  Eight groups, or fewer around one gap. An IPv4 address
  may only end the whole.
-/
def isIpv6Address (cs : List Char) : Bool :=
  match cutAtGap cs with
  | none => groupCount? (colonParts cs) == some 8
  | some (front, back) =>
      let front := colonParts front
      match groupCount? (colonParts back) with
      | none => false
      | some count =>
          front.all isHexGroup && front.length + count ≤ 7

/- The name of a network zone. -/
def isZone (cs : List Char) : Bool :=
  !cs.isEmpty && cs.all (fun c => c.isAlphanum || c == '.')

/- An IPv6 address, with or without a zone. -/
def isIpv6 (cs : List Char) : Bool :=
  let address := cs.takeWhile (· != '%')
  match cs.dropWhile (· != '%') with
  | [] => isIpv6Address address
  | _ :: zone => isIpv6Address address && isZone zone

------------------------------------------------------------
-- Domain Names
------------------------------------------------------------

/-
  A character of a domain name: a letter, a digit, a hyphen
  or any character from the inverted exclamation mark on,
  but no full-width form.
-/
def isDomainChar (c : Char) : Bool :=
  let n := c.toNat
  c.isAlphanum || c == '-' ||
    (0xA1 ≤ n && !(0xFF01 ≤ n && n ≤ 0xFF5E))

/-
  A part of a domain name: at most 63 units, with no hyphen
  at either end.
-/
def isDomainPart (cs : List Char) : Bool :=
  !cs.isEmpty && Text.charsWidth cs ≤ 63 &&
    cs.all isDomainChar &&
    cs.head? != some '-' && cs.getLast? != some '-'

/- Parts between points, the last one not a number. -/
def isDomain (cs : List Char) : Bool :=
  let parts := Text.splitBy (· == '.') cs
  let last := parts.getLast?.getD []
  parts.all isDomainPart && !Text.isNumeral last

end Url

end KbConsole
