import Mathlib.Data.List.Forall2

/-
  What computations that may fail give, and how they fail.

  Key definitions include:
    * `FailsWith`

  The main statements are `bind_eq_ok_iff`, by which the
  steps of a computation are taken apart, `mapM_eq_ok_iff`,
  which pairs the results of a list of computations with
  their inputs, and `FailsWith.bind`, by which failures are
  followed from step to step.
-/

namespace KbConsole

variable {ε α β : Type}

/- A step hands its result on to the next one. -/
theorem ok_bind
    {value : α}
    {second : α → Except ε β} :
    Except.ok value >>= second = second value :=
  rfl

theorem ok_map
    {f : α → β}
    {value : α} :
    (Except.ok value : Except ε α).map f = .ok (f value) :=
  rfl

theorem map_map
    {γ : Type}
    {f : α → β}
    {g : β → γ}
    {first : Except ε α} :
    (first.map f).map g =
      first.map fun value => g (f value) := by
  cases first with
  | error e => rfl
  | ok value => rfl

/- A last step that only returns is a map. -/
theorem bind_pure_eq_map
    {f : α → β}
    {first : Except ε α} :
    (first >>= fun value => pure (f value)) = first.map f := by
  cases first with
  | error e => rfl
  | ok value => rfl

/- Two steps give a result when both of them do. -/
theorem bind_eq_ok_iff
    {first : Except ε α}
    {second : α → Except ε β}
    {result : β} :
    first >>= second = .ok result ↔
      ∃ value,
        first = .ok value ∧ second value = .ok result := by
  cases first with
  | error e => simp [bind, Except.bind]
  | ok value => simp [bind, Except.bind]

/- A step that only returns gives what it returns. -/
theorem pure_eq_ok_iff
    {value result : α} :
    (pure value : Except ε α) = .ok result ↔
      value = result := by
  simp [pure, Except.pure]

theorem map_eq_ok_iff
    {f : α → β}
    {first : Except ε α}
    {result : β} :
    first.map f = .ok result ↔
      ∃ value, first = .ok value ∧ f value = result := by
  cases first with
  | error e => simp [Except.map]
  | ok value => simp [Except.map]

theorem map_eq_error_iff
    {f : α → β}
    {first : Except ε α}
    {e : ε} :
    first.map f = .error e ↔ first = .error e := by
  cases first with
  | error other => simp [Except.map]
  | ok value => simp [Except.map]

/- A list of computations gives one result for each input. -/
theorem mapM_eq_ok_iff
    {f : α → Except ε β}
    {inputs : List α}
    {results : List β} :
    inputs.mapM f = .ok results ↔
      List.Forall₂ (fun input result => f input = .ok result)
        inputs results := by
  induction inputs generalizing results with
  | nil =>
      rw [List.mapM_nil, pure_eq_ok_iff,
        List.forall₂_nil_left_iff, eq_comm]
  | cons input inputs ih =>
      simp only [List.mapM_cons, bind_eq_ok_iff,
        pure_eq_ok_iff, List.forall₂_cons_left_iff]
      constructor
      · rintro ⟨first, hFirst, others, hOthers, rfl⟩
        exact ⟨first, others, hFirst, ih.mp hOthers, rfl⟩
      · rintro ⟨first, others, hFirst, hOthers, rfl⟩
        exact ⟨first, hFirst, others, ih.mpr hOthers, rfl⟩

/- What holds of each result holds of the list of results. -/
theorem map_eq_of_mapM
    {γ : Type}
    {f : α → Except ε β}
    {g : β → γ}
    {h : α → γ}
    (hEach :
      ∀ input result, f input = .ok result → g result = h input)
    {inputs : List α}
    {results : List β}
    (hResults : inputs.mapM f = .ok results) :
    results.map g = inputs.map h := by
  rw [mapM_eq_ok_iff] at hResults
  induction hResults with
  | nil => rfl
  | cons hFirst _ ih =>
      rw [List.map_cons, List.map_cons, ih, hEach _ _ hFirst]

/- A list of computations succeeds when each of them does. -/
theorem exists_mapM_iff
    {f : α → Except ε β}
    {inputs : List α} :
    (∃ results, inputs.mapM f = .ok results) ↔
      ∀ input ∈ inputs, ∃ result, f input = .ok result := by
  induction inputs with
  | nil => simp [pure_eq_ok_iff]
  | cons input inputs ih =>
      rw [List.forall_mem_cons, ← ih]
      simp only [List.mapM_cons, bind_eq_ok_iff,
        pure_eq_ok_iff]
      constructor
      · rintro ⟨_, first, hFirst, others, hOthers, -⟩
        exact ⟨⟨first, hFirst⟩, others, hOthers⟩
      · rintro ⟨⟨first, hFirst⟩, others, hOthers⟩
        exact ⟨_, first, hFirst, others, hOthers, rfl⟩

/- Each of two paired lists has a partner for its elements. -/
theorem exists_of_mem_forall₂
    {R : α → β → Prop}
    {inputs : List α}
    {results : List β}
    (hPaired : List.Forall₂ R inputs results)
    {input : α}
    (hMember : input ∈ inputs) :
    ∃ result ∈ results, R input result := by
  induction hPaired with
  | nil => cases hMember
  | @cons _ result _ results hFirst _ ih =>
      rcases List.mem_cons.mp hMember with rfl | hMember
      · exact ⟨result, by simp, hFirst⟩
      · rcases ih hMember with ⟨later, hLater, hOther⟩
        exact ⟨later, List.mem_cons_of_mem _ hLater, hOther⟩

/- Each of a list of results comes from one of the inputs. -/
theorem exists_of_mem_mapM
    {f : α → Except ε β}
    {inputs : List α}
    {results : List β}
    (hResults : inputs.mapM f = .ok results)
    {result : β}
    (hMember : result ∈ results) :
    ∃ input ∈ inputs, f input = .ok result :=
  exists_of_mem_forall₂ (mapM_eq_ok_iff.mp hResults).flip
    hMember

------------------------------------------------------------
-- Failures
------------------------------------------------------------

/- If a computation fails, its failure has a property. -/
structure FailsWith
    (P : ε → Prop)
    (result : Except ε α) : Prop where
  of_eq_error : ∀ e, result = .error e → P e

namespace FailsWith

variable {P : ε → Prop}

theorem ok (value : α) :
    FailsWith P (.ok value : Except ε α) := by
  constructor
  intro e hError
  cases hError

theorem error
    {e : ε}
    (hError : P e) :
    FailsWith P (.error e : Except ε α) := by
  constructor
  intro other hOther
  obtain rfl := Except.error.inj hOther
  exact hError

theorem mono
    {Q : ε → Prop}
    {result : Except ε α}
    (hResult : FailsWith P result)
    (hProperty : ∀ e, P e → Q e) :
    FailsWith Q result := by
  constructor
  intro e hError
  exact hProperty e (hResult.of_eq_error e hError)

/- A later step only matters after the first one. -/
theorem bind
    {first : Except ε α}
    {second : α → Except ε β}
    (hFirst : FailsWith P first)
    (hSecond :
      ∀ value,
        first = .ok value → FailsWith P (second value)) :
    FailsWith P (first >>= second) := by
  cases first with
  | error e => exact error (hFirst.of_eq_error e rfl)
  | ok value => exact hSecond value rfl

/- A last step that only returns cannot fail. -/
theorem bind_pure
    {first : Except ε α}
    (hFirst : FailsWith P first)
    (f : α → β) :
    FailsWith P (first >>= fun value => pure (f value)) := by
  apply hFirst.bind
  intro value _
  exact ok (f value)

theorem map
    {f : α → β}
    {first : Except ε α}
    (hFirst : FailsWith P first) :
    FailsWith P (first.map f) := by
  rw [← bind_pure_eq_map]
  exact hFirst.bind_pure f

theorem mapM
    {f : α → Except ε β}
    (hEach : ∀ input, FailsWith P (f input))
    (inputs : List α) :
    FailsWith P (inputs.mapM f) := by
  induction inputs with
  | nil => exact ok []
  | cons input inputs ih =>
      rw [List.mapM_cons]
      apply (hEach input).bind
      intro first _
      exact ih.bind_pure _

end FailsWith

end KbConsole
