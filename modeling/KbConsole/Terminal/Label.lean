import KbConsole.Config
import KbConsole.Text.Units

/-
  Labels that depend on what may be shown: secrets are
  masked, and icons have a plain form.

  Key definitions include:
    * `Secret.mask`
    * `Icon`
    * `Icon.text`
-/

namespace KbConsole

------------------------------------------------------------
-- Secrets
------------------------------------------------------------

namespace Secret

/- How many units of a long secret are shown. -/
def shown : Nat :=
  2

/- The largest number of stars after them. -/
def mostStars : Nat :=
  8

/-
  A secret for display: the first units of a long one, and
  stars. A short one is all stars.
-/
def mask (secret : Option String) : String :=
  match given? secret with
  | none => "(empty)"
  | some text =>
      let width := Text.width text
      if width ≤ shown then
        Text.repeated '*' width
      else
        Text.takeUnits shown text ++
          Text.repeated '*' (min (width - shown) mostStars)

end Secret

------------------------------------------------------------
-- Icons
------------------------------------------------------------

/- An icon, and what stands for it on a plain terminal. -/
structure Icon where
  emoji : String
  fallback : String := ""
deriving DecidableEq, Repr, Inhabited

/- Whether icons are written as emoji. -/
def Environment.usesEmoji (environment : Environment) : Bool :=
  Keyed.get? "KBFORGE_NO_EMOJI" environment != some "1"

/- The text of an icon. -/
def Icon.text (environment : Environment) (icon : Icon) :
    String :=
  if environment.usesEmoji then icon.emoji else icon.fallback

end KbConsole
