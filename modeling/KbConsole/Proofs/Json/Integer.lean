import KbConsole.Json.Parser
import KbConsole.Json.Printer
import KbConsole.Proofs.Characters

/-
  Exact integers are read back from JSON as they were
  written.

  Key definitions include:
    * `Json.EndsNumber`

  The main statement is `Json.readNumber_integer`.
-/

namespace KbConsole

namespace Json

/- What follows a number does not continue it. -/
def EndsNumber (rest : List Char) : Prop :=
  ∀ c ∈ rest.head?,
    c.isDigit = false ∧ c ≠ '.' ∧ c ≠ 'e' ∧ c ≠ 'E'

variable {rest : List Char}

theorem readDigits_digits
    (hEnds : EndsNumber rest)
    (n : Nat) :
    readDigits (Number.digits n ++ rest) =
      (Number.digits n, rest) := by
  have hAll :
      ∀ c ∈ Number.digits n, c.isDigit = true :=
    fun _ hMember => Number.isDigit_of_mem_digits hMember
  rw [readDigits, List.takeWhile_append_of_pos hAll,
    List.dropWhile_append_of_pos hAll]
  cases rest with
  | nil => simp
  | cons c rest =>
      have hDigit := (hEnds c rfl).1
      simp [hDigit]

theorem readFraction_end
    (hEnds : EndsNumber rest) :
    readFraction rest = some ([], rest) := by
  cases rest with
  | nil => rfl
  | cons c rest =>
      have hPoint := (hEnds c rfl).2.1
      rw [readFraction]
      intro tail hEq
      exact hPoint (List.cons.inj hEq).1

theorem readExponent_end
    (hEnds : EndsNumber rest) :
    readExponent rest = some (0, rest) := by
  cases rest with
  | nil => rfl
  | cons c rest =>
      have hMark := (hEnds c rfl).2.2
      simp [readExponent, hMark]

theorem readMagnitude_digits
    (negative : Bool)
    (n : Nat)
    (hEnds : EndsNumber rest) :
    readMagnitude negative (Number.digits n ++ rest) =
      some (Number.ofDecimal negative n 0, rest) := by
  have hLeading :
      ((Number.digits n).isEmpty ||
        ((Number.digits n).head? == some '0' &&
          (Number.digits n).length != 1)) = false := by
    rw [Bool.or_eq_false_iff, Bool.and_eq_false_iff]
    constructor
    · rcases Number.exists_cons_digits n with
        ⟨c, cs, hCons⟩
      rw [hCons]
      rfl
    · by_cases hHead :
          (Number.digits n).head? = some '0'
      · rw [Number.eq_zero_of_head?_digits hHead]
        exact Or.inr (by decide)
      · exact Or.inl (by simpa using hHead)
  rw [readMagnitude, readDigits_digits hEnds]
  simp only [hLeading, readFraction_end hEnds,
    readExponent_end hEnds, Option.bind_eq_bind,
    Option.bind_some, List.append_nil, Number.numeral_digits,
    List.length_nil]
  rfl

theorem ofDecimal_exact
    (negative : Bool)
    {n : Nat}
    (hExact : n ≤ Number.largestExact)
    (hSign : negative = true → n ≠ 0) :
    Number.ofDecimal negative n 0 =
      Number.signed negative n := by
  rw [Number.ofDecimal]
  by_cases hZero : n = 0
  · have hPositive : negative = false := by
      by_contra hNegative
      exact hSign (by simpa using hNegative) hZero
    simp [hZero, hPositive, Number.zero, Number.signed]
  · simp [hZero, hExact]

theorem readNumber_integer
    {value : Int}
    (hExact : value.natAbs ≤ Number.largestExact)
    (hEnds : EndsNumber rest) :
    readNumber ((Number.integer value).chars ++ rest) =
      some (.integer value, rest) := by
  rw [Number.chars]
  split
  · rename_i hNegative
    rw [List.cons_append, readNumber,
      readMagnitude_digits true _ hEnds,
      ofDecimal_exact true hExact (fun _ => by omega)]
    have hValue : -(value.natAbs : Int) = value := by omega
    rw [Number.signed, if_pos rfl, hValue]
  · rename_i hPositive
    rcases Number.exists_cons_digits value.natAbs with
      ⟨c, cs, hCons⟩
    have hMinus : c ≠ '-' := by
      rintro rfl
      have hDigit : '-'.isDigit = true :=
        Number.isDigit_of_mem_digits
          (hCons ▸ List.mem_cons_self)
      exact absurd hDigit (by decide)
    have hValue : (value.natAbs : Int) = value := by omega
    have hRead :
        readNumber (Number.digits value.natAbs ++ rest) =
          readMagnitude false
            (Number.digits value.natAbs ++ rest) := by
      rw [hCons, List.cons_append, readNumber]
      intro tail hEq
      exact hMinus (List.cons.inj hEq).1
    rw [hRead, readMagnitude_digits false _ hEnds,
      ofDecimal_exact false hExact (by simp), Number.signed,
      if_neg (by decide), hValue]

end Json

end KbConsole
