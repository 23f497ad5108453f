import KbConsole.Proofs.Arguments
import KbConsole.Request.Names

/-
  Parameters with a key and a value, as they are written.

  The first equals sign divides a parameter. The text before
  it is the key, without its margins; the text after it is
  the value, whatever it holds.

  Key definitions include:
    * `Parameter.IsDivided`
    * `Parameter.IsWrittenAs`
    * `Parameter.IsMalformed`

  The main statements are `Parameter.ofText_eq_ok_iff`,
  `Parameter.listOfTexts_eq_ok_iff` and
  `Parameter.exists_listOfTexts_eq_error_iff`.
-/

namespace KbConsole

namespace Parameter

------------------------------------------------------------
-- One Parameter
------------------------------------------------------------

/- The first equals sign of a text divides it. -/
structure IsDivided
    (text : String)
    (front : List Char)
    (value : String) : Prop where
  joined : text.toList = front ++ '=' :: value.toList
  first : '=' ∉ front

/- How a parameter is written: its key may have margins. -/
def IsWrittenAs
    (text : String)
    (param : String × String) : Prop :=
  ∃ front,
    IsDivided text front param.2 ∧
      param.1 = String.ofList (Text.trimChars front) ∧
      param.1 ≠ ""

/-
  A text that is no parameter: it has no equals sign, or
  nothing but blanks in front of the first one.
-/
def IsMalformed (text : String) : Prop :=
  '=' ∉ text.toList ∨
    ∃ front value,
      IsDivided text front value ∧
        ∀ c ∈ front, Text.isBlank c = true

variable {text : String}
variable {front : List Char}
variable {value : String}

theorem takeWhile_of_isDivided
    (hDivided : IsDivided text front value) :
    text.toList.takeWhile (· != '=') = front ∧
      text.toList.dropWhile (· != '=') =
        '=' :: value.toList := by
  have hFront : ∀ c ∈ front, (c != '=') = true := by
    intro c hMember
    rw [bne_iff_ne]
    rintro rfl
    exact hDivided.first hMember
  rw [hDivided.joined, List.takeWhile_append_of_pos hFront,
    List.dropWhile_append_of_pos hFront]
  simp

/- A text without an equals sign is not divided. -/
theorem notMem_or_exists_isDivided (text : String) :
    '=' ∉ text.toList ∨
      ∃ front value, IsDivided text front value := by
  by_cases hSign : '=' ∈ text.toList
  · right
    rcases List.eq_append_cons_of_mem hSign with
      ⟨front, rest, hJoined, hFirst⟩
    refine ⟨front, String.ofList rest, ?_, hFirst⟩
    rw [hJoined, String.toList_ofList]
  · exact Or.inl hSign

theorem ofText_of_notMem
    (hNone : '=' ∉ text.toList) :
    ofText text = .error (.malformedParameter text) := by
  have hRest : text.toList.dropWhile (· != '=') = [] := by
    rw [List.dropWhile_eq_nil_iff]
    intro c hMember
    rw [bne_iff_ne]
    rintro rfl
    exact hNone hMember
  unfold ofText
  simp only [hRest]

theorem ofText_of_isDivided
    (hDivided : IsDivided text front value) :
    ofText text =
      if Text.trimChars front = [] then
        .error (.malformedParameter text)
      else
        .ok
          (String.ofList (Text.trimChars front), value) := by
  rcases takeWhile_of_isDivided hDivided with ⟨hFront, hRest⟩
  unfold ofText
  simp only [hFront, hRest, List.isEmpty_iff,
    String.ofList_toList]

/- A text is read as the parameter that it writes. -/
theorem ofText_eq_ok_iff {param : String × String} :
    ofText text = .ok param ↔ IsWrittenAs text param := by
  have hKey (front : List Char) :
      String.ofList (Text.trimChars front) = "" ↔
        Text.trimChars front = [] := by
    rw [← String.toList_eq_nil_iff, String.toList_ofList]
  constructor
  · intro hParam
    rcases notMem_or_exists_isDivided text with
      hNone | ⟨front, value, hDivided⟩
    · rw [ofText_of_notMem hNone] at hParam
      cases hParam
    · rw [ofText_of_isDivided hDivided] at hParam
      split at hParam
      · cases hParam
      · rename_i hSome
        obtain rfl := Except.ok.inj hParam
        exact ⟨front, hDivided, rfl, mt (hKey front).mp hSome⟩
  · rcases param with ⟨key, value⟩
    rintro ⟨front, hDivided, rfl, hSome⟩
    rw [ofText_of_isDivided hDivided,
      if_neg (mt (hKey front).mpr hSome)]

/- A text is refused when it is malformed. -/
theorem ofText_eq_error_iff {problem : Problem} :
    ofText text = .error problem ↔
      IsMalformed text ∧
        .malformedParameter text = problem := by
  have hBlank (front : List Char) :
      Text.trimChars front = [] ↔
        ∀ c ∈ front, Text.isBlank c = true := by
    rw [Text.trimChars_eq_nil_iff, List.all_eq_true]
  constructor
  · intro hProblem
    rcases notMem_or_exists_isDivided text with
      hNone | ⟨front, value, hDivided⟩
    · rw [ofText_of_notMem hNone] at hProblem
      exact ⟨Or.inl hNone, Except.error.inj hProblem⟩
    · rw [ofText_of_isDivided hDivided] at hProblem
      split at hProblem
      · rename_i hEmpty
        exact
          ⟨Or.inr ⟨front, value, hDivided,
              (hBlank front).mp hEmpty⟩,
            Except.error.inj hProblem⟩
      · cases hProblem
  · rintro ⟨hNone | ⟨front, value, hDivided, hFront⟩, rfl⟩
    · exact ofText_of_notMem hNone
    · rw [ofText_of_isDivided hDivided,
        if_pos ((hBlank front).mpr hFront)]

------------------------------------------------------------
-- Lists of Parameters
------------------------------------------------------------

variable {texts : List String}

theorem listOfTexts_eq_mapM (texts : List String) :
    listOfTexts texts = texts.mapM ofText := by
  induction texts with
  | nil => rfl
  | cons text texts ih =>
      rw [listOfTexts, List.mapM_cons, ih]

/- Each text is read, in order, and none is left out. -/
theorem listOfTexts_eq_ok_iff
    {params : List (String × String)} :
    listOfTexts texts = .ok params ↔
      List.Forall₂ IsWrittenAs texts params := by
  rw [listOfTexts_eq_mapM, mapM_eq_ok_iff]
  simp only [ofText_eq_ok_iff]

/- All texts are read unless one of them is malformed. -/
theorem exists_listOfTexts_iff :
    (∃ params, listOfTexts texts = .ok params) ↔
      ∀ text ∈ texts, ¬ IsMalformed text := by
  have hOne (text : String) :
      (∃ param, ofText text = .ok param) ↔
        ¬ IsMalformed text := by
    cases hText : ofText text with
    | error problem =>
        simp [(ofText_eq_error_iff.mp hText).1]
    | ok param =>
        have hFine : ¬ IsMalformed text := by
          intro hMalformed
          rw [ofText_eq_error_iff.mpr ⟨hMalformed, rfl⟩]
            at hText
          cases hText
        simp [hFine]
  rw [listOfTexts_eq_mapM, exists_mapM_iff]
  simp only [hOne]

/- One text that is malformed is enough. -/
theorem exists_listOfTexts_eq_error_iff :
    (∃ problem, listOfTexts texts = .error problem) ↔
      ∃ text ∈ texts, IsMalformed text := by
  have hAll :
      (∃ params, listOfTexts texts = .ok params) ↔
        ∀ text ∈ texts, ¬ IsMalformed text :=
    exists_listOfTexts_iff
  cases hTexts : listOfTexts texts with
  | error problem =>
      rw [hTexts] at hAll
      simpa using hAll
  | ok params =>
      rw [hTexts] at hAll
      simpa using hAll

theorem failsWith_listOfTexts (texts : List String) :
    FailsWith (fun problem => problem.kind = .invalidValue)
      (listOfTexts texts) := by
  rw [listOfTexts_eq_mapM]
  apply FailsWith.mapM
  intro text
  constructor
  intro problem hProblem
  rcases ofText_eq_error_iff.mp hProblem with ⟨-, rfl⟩
  rfl

end Parameter

end KbConsole
