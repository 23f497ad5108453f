/-
  Halves of characters.

  A character outside the basic plane takes two UTF-16
  units, its halves. A half can come alone: JSON may escape
  one, and a cut may leave one. A text keeps it as a
  stand-in, one of the last 2048 characters of Unicode,
  which are for private use.

  A text from outside that holds such a character is
  received as its two halves, so that a stand-in is always a
  half. When a text is shown, halves that belong together
  are joined again, and a half alone is replaced.

  Key definitions include:
    * `Text.isHalf`, `Text.half`
    * `Text.received`
    * `Text.shown`

  The main statement is `Text.shown_received`: a text from
  outside is shown as it came.
-/

namespace KbConsole

namespace Text

------------------------------------------------------------
-- Stand-ins
------------------------------------------------------------

/- The number of the first stand-in. -/
def firstHalf : Nat :=
  0x10F800

/- The number of the first stand-in of a second half. -/
def firstLowHalf : Nat :=
  0x10FC00

/- Whether a character stands for a half. -/
def isHalf (c : Char) : Bool :=
  firstHalf ≤ c.toNat

/- Whether a character stands for a first half. -/
def isHighHalf (c : Char) : Bool :=
  firstHalf ≤ c.toNat && c.toNat < firstLowHalf

/- Whether a character stands for a second half. -/
def isLowHalf (c : Char) : Bool :=
  firstLowHalf ≤ c.toNat

/- The stand-in of a unit that is a half. -/
def half (unit : Nat) : Char :=
  Char.ofNat (firstHalf + (unit - 0xD800))

/- The unit that a stand-in stands for. -/
def halfUnit (c : Char) : Nat :=
  0xD800 + (c.toNat - firstHalf)

------------------------------------------------------------
-- Cutting and Joining
------------------------------------------------------------

/- The number that the two halves of a character share out. -/
def beyondPlane (c : Char) : Nat :=
  c.toNat - 0x10000

/- The first half of a character outside the basic plane. -/
def highHalf (c : Char) : Char :=
  Char.ofNat (firstHalf + beyondPlane c / 0x400)

/- The second half of a character outside the basic plane. -/
def lowHalf (c : Char) : Char :=
  Char.ofNat (firstLowHalf + beyondPlane c % 0x400)

/- The character of two halves. -/
def joined (high low : Char) : Char :=
  Char.ofNat
    (0x10000 + (high.toNat - firstHalf) * 0x400 +
      (low.toNat - firstLowHalf))

------------------------------------------------------------
-- Texts from and for Outside
------------------------------------------------------------

/- A character from outside, as texts keep it. -/
def receivedChar (c : Char) : List Char :=
  if isHalf c then [highHalf c, lowHalf c] else [c]

/- A text from outside, as texts are kept. -/
def received (s : String) : String :=
  String.ofList (s.toList.flatMap receivedChar)

/- What is shown for a half that is alone. -/
def replacement : Char := '\uFFFD'

/- A character as it is shown, unless it is part of a pair. -/
def shownChar (c : Char) : Char :=
  if isHalf c then replacement else c

/- Characters as they are shown. -/
def shownChars : List Char → List Char
  | [] => []
  | [c] => [shownChar c]
  | c :: d :: rest =>
      if isHighHalf c && isLowHalf d then
        joined c d :: shownChars rest
      else
        shownChar c :: shownChars (d :: rest)

/- A text as it is shown. -/
def shown (s : String) : String :=
  String.ofList (shownChars s.toList)

------------------------------------------------------------
-- What is Received is Shown
------------------------------------------------------------

/- A number above the surrogates is that of its character. -/
theorem toNat_ofNat_of_lt
    {n : Nat}
    (h₁ : 0xDFFF < n)
    (h₂ : n < 0x110000) :
    (Char.ofNat n).toNat = n := by
  have hValid : n.isValidChar := Or.inr ⟨h₁, h₂⟩
  rw [Char.ofNat, dif_pos hValid]
  rfl

/- Twenty bits are shared out between the halves. -/
theorem beyondPlane_lt (c : Char) :
    beyondPlane c < 0x100000 := by
  have hLt : c.toNat < 0x110000 := by
    rcases c.valid with h | h
    · exact Nat.lt_trans h (by decide)
    · exact h.2
  unfold beyondPlane
  omega

theorem toNat_highHalf (c : Char) :
    (highHalf c).toNat = firstHalf + beyondPlane c / 0x400 := by
  have hLt := beyondPlane_lt c
  rw [highHalf, firstHalf]
  exact toNat_ofNat_of_lt (by omega) (by omega)

theorem toNat_lowHalf (c : Char) :
    (lowHalf c).toNat =
      firstLowHalf + beyondPlane c % 0x400 := by
  rw [lowHalf, firstLowHalf]
  exact toNat_ofNat_of_lt (by omega) (by omega)

theorem isHighHalf_highHalf (c : Char) :
    isHighHalf (highHalf c) = true := by
  have hLt := beyondPlane_lt c
  simp only [isHighHalf, toNat_highHalf, firstHalf,
    firstLowHalf, Bool.and_eq_true, decide_eq_true_eq]
  omega

theorem isLowHalf_lowHalf (c : Char) :
    isLowHalf (lowHalf c) = true := by
  simp only [isLowHalf, toNat_lowHalf, firstLowHalf,
    decide_eq_true_eq]
  omega

/- The halves of a character make it up again. -/
theorem joined_halves
    {c : Char}
    (h : isHalf c = true) :
    joined (highHalf c) (lowHalf c) = c := by
  rw [isHalf, decide_eq_true_eq, firstHalf] at h
  have hSum :
      0x10000 + beyondPlane c / 0x400 * 0x400 +
        beyondPlane c % 0x400 = c.toNat := by
    unfold beyondPlane
    omega
  rw [joined, toNat_highHalf, toNat_lowHalf,
    Nat.add_sub_cancel_left, Nat.add_sub_cancel_left, hSum,
    Char.ofNat_toNat]

/- A character that is no half is shown as it is. -/
theorem shownChars_cons
    {c : Char}
    (h : isHalf c = false)
    (cs : List Char) :
    shownChars (c :: cs) = c :: shownChars cs := by
  have hHigh : isHighHalf c = false := by
    rw [isHalf, decide_eq_false_iff_not] at h
    simp [isHighHalf, h]
  cases cs with
  | nil => simp [shownChars, shownChar, h]
  | cons d rest => simp [shownChars, shownChar, h, hHigh]

/- Received characters are shown as they came. -/
theorem shownChars_flatMap_receivedChar (cs : List Char) :
    shownChars (cs.flatMap receivedChar) = cs := by
  induction cs with
  | nil => rfl
  | cons c cs ih =>
      rw [List.flatMap_cons]
      cases h : isHalf c with
      | false =>
          simp only [receivedChar, h]
          exact (shownChars_cons h _).trans (congrArg _ ih)
      | true =>
          simp only [receivedChar, h, if_true,
            List.cons_append, List.nil_append, shownChars,
            isHighHalf_highHalf, isLowHalf_lowHalf,
            Bool.and_self, joined_halves h, ih]

/- A text from outside is shown as it came. -/
@[simp] theorem shown_received (s : String) :
    shown (received s) = s := by
  rw [shown, received, String.toList_ofList,
    shownChars_flatMap_receivedChar, String.ofList_toList]

end Text

end KbConsole
