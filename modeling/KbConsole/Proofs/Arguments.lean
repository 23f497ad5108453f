import KbConsole.Arguments
import KbConsole.Proofs.Margins
import KbConsole.Proofs.Result

/-
  What the readers of arguments give.

  A word has no margins, so that it may be handed on as an
  argument of its own.

  The main statement is `Arguments.word?_cons_word`.
-/

namespace KbConsole

/- A text counts as given unless it is empty. -/
theorem given?_eq_some_iff
    {value : Option String}
    {text : String} :
    given? value = some text ↔
      value = some text ∧ text ≠ "" := by
  rw [given?, Option.filter_eq_some_iff, bne_iff_ne]

theorem given?_of_ne
    {text : String}
    (hText : text ≠ "") :
    given? (some text) = some text :=
  given?_eq_some_iff.mpr ⟨rfl, hText⟩

namespace Arguments

variable {args : Arguments}
variable {key label : String}

------------------------------------------------------------
-- Words
------------------------------------------------------------

theorem word?_eq_some_iff {word : String} :
    args.word? key = some word ↔
      ∃ value,
        Keyed.get? key args = some (.text value) ∧
          Text.isVoid value = false ∧
          Text.trim value = word := by
  unfold word?
  split
  · rename_i value hValue
    rw [hValue]
    by_cases hVoid : Text.isVoid value = true
    · simp [hVoid]
    · simp [hVoid]
  · rename_i hOther
    constructor
    · intro hWord
      cases hWord
    · rintro ⟨value, hValue, -⟩
      exact absurd hValue (hOther value)

/- A word is also the word of an argument that holds it. -/
theorem word?_cons_word
    {word : String}
    (hWord : args.word? key = some word)
    (other : String)
    (rest : Arguments) :
    word? ((other, .text word) :: rest) other =
      some word := by
  rcases word?_eq_some_iff.mp hWord with
    ⟨value, -, hVoid, rfl⟩
  apply word?_eq_some_iff.mpr
  refine ⟨Text.trim value, ?_, ?_, Text.trim_trim value⟩
  · exact if_pos rfl
  · rw [Text.isVoid_trim, hVoid]

theorem word?_cons_of_ne
    {other : String}
    (hKey : other ≠ key)
    (value : Argument) :
    word? ((other, value) :: args) key = args.word? key := by
  unfold word?
  rw [Keyed.get?, if_neg hKey]

theorem demand_eq_ok_iff
    {α : Type}
    {value : Option α}
    {found : α} :
    demand label value = .ok found ↔ value = some found := by
  cases value with
  | none => simp [demand]
  | some other => simp [demand]

theorem word_eq_ok
    {word : String}
    (hWord : args.word? key = some word)
    (label : String) :
    args.word key label = .ok word :=
  demand_eq_ok_iff.mpr hWord

theorem count_eq_ok
    {word : String}
    {n : Number}
    (hWord : args.word? key = some word)
    (hCount : Number.count? word = some n)
    (label : String)
    (fallback : Nat) :
    args.count key label fallback = .ok n := by
  unfold count
  rw [hWord]
  simp only [hCount]

------------------------------------------------------------
-- Texts and Values
------------------------------------------------------------

/- A text that counts as given is the whole text. -/
theorem text?_eq_some_iff {text : String} :
    args.text? key = some text ↔
      Keyed.get? key args = some (.text text) ∧
        Text.isVoid text = false := by
  unfold text?
  split
  · rename_i value hValue
    rw [hValue]
    by_cases hVoid : Text.isVoid value = true
    · rw [if_pos hVoid]
      simp only [Option.some.injEq, Argument.text.injEq]
      constructor
      · intro hText
        cases hText
      · rintro ⟨rfl, hFilled⟩
        rw [hVoid] at hFilled
        cases hFilled
    · rw [if_neg hVoid]
      simp only [Option.some.injEq, Argument.text.injEq]
      constructor
      · rintro rfl
        exact ⟨rfl, Bool.eq_false_iff.mpr hVoid⟩
      · rintro ⟨rfl, -⟩
        rfl
  · rename_i hOther
    constructor
    · intro hText
      cases hText
    · rintro ⟨hValue, -⟩
      exact absurd hValue (hOther text)

/- A given text counts as given unless it is blank. -/
theorem text?_of_get?
    {text : String}
    (hText : Keyed.get? key args = some (.text text)) :
    args.text? key =
      if Text.isVoid text then none else some text := by
  unfold text?
  rw [hText]

/- A text that is taken whole is the text that was given. -/
theorem get?_of_text
    {text : String}
    (hText : args.text key label = .ok text) :
    Keyed.get? key args = some (.text text) :=
  (text?_eq_some_iff.mp (demand_eq_ok_iff.mp hText)).1

theorem ne_empty_of_text?
    {text : String}
    (hText : args.text? key = some text) :
    text ≠ "" := by
  rintro rfl
  have hFilled := (text?_eq_some_iff.mp hText).2
  revert hFilled
  decide

/- A text that counts as given is not empty. -/
theorem given?_text? (args : Arguments) (key : String) :
    given? (args.text? key) = args.text? key := by
  cases hText : args.text? key with
  | none => rfl
  | some text => exact given?_of_ne (ne_empty_of_text? hText)

/- A list is there when a word is. -/
theorem list?_eq_none_iff
    {listed : Option (List String)}
    (hList : args.list? key label = .ok listed) :
    listed = none ↔ args.word? key = none := by
  unfold list? at hList
  split at hList
  · rename_i hNone
    obtain rfl := Except.ok.inj hList
    simp [hNone]
  · rename_i hWord
    simp only [bind_eq_ok_iff, pure_eq_ok_iff] at hList
    rcases hList with ⟨entries, -, rfl⟩
    simp [hWord]

/- An option holds the JSON value that its text writes. -/
theorem json?_eq_ok_iff {json : Json} :
    args.json? key label = .ok (some json) ↔
      ∃ text,
        args.word? key = some text ∧
          Json.parse? text = some json := by
  unfold json? parseJson
  cases args.word? key with
  | none => simp
  | some text =>
      cases hParse : Json.parse? text with
      | none => simp [hParse, bind, Except.bind]
      | some value =>
          simp [hParse, bind, Except.bind, pure, Except.pure]

end Arguments

end KbConsole
