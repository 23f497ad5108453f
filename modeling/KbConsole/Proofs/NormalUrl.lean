import KbConsole.Proofs.Url

/-
  Addresses in normal form.

  An address loses its margins, and then the slashes at its
  end. It is not trimmed again. Where a blank stands before
  these slashes, it is left at the end, and bringing the
  address into normal form once more makes it shorter.

  Key definitions include:
    * `Url.IsNormal`, `Url.HasSpacedSlash`
    * `Url.IsStrippedFrom`

  The main statements are `Url.isStrippedFrom_normalize`,
  `Url.isNormal_normalize_iff` and
  `Url.normalize_eq_self_iff`.
-/

namespace KbConsole

namespace Url

------------------------------------------------------------
-- Normal Forms
------------------------------------------------------------

/- An address without margins and without a last slash. -/
structure IsNormal (url : String) : Prop where
  first : ∀ c ∈ url.toList.head?, Text.isBlank c = false
  last :
    ∀ c ∈ url.toList.getLast?,
      Text.isBlank c = false ∧ c ≠ '/'

/- An address with a blank at its end. -/
def EndsInBlank (url : String) : Prop :=
  ∃ c ∈ url.toList.getLast?, Text.isBlank c = true

/-
  A blank that is followed by one or more slashes at the
  end, and maybe by blanks, with something else before it.
-/
def HasSpacedSlash (raw : String) : Prop :=
  ∃ (front : List Char) (blank : Char)
      (slashes margin : List Char),
    raw.toList = front ++ blank :: slashes ++ margin ∧
      (∃ c ∈ front, Text.isBlank c = false) ∧
      Text.isBlank blank = true ∧
      (slashes ≠ [] ∧ ∀ c ∈ slashes, c = '/') ∧
      ∀ c ∈ margin, Text.isBlank c = true

/-
  An address that was stripped of margins, and of slashes at
  its end. It may only still end in a blank, and it does so
  exactly if there was a spaced slash.
-/
structure IsStrippedFrom (raw url : String) : Prop where
  cut :
    ∃ margin slashes ending : List Char,
      raw.toList =
          margin ++ (url.toList ++ slashes) ++ ending ∧
        (∀ c ∈ margin, Text.isBlank c = true) ∧
        (∀ c ∈ slashes, c = '/') ∧
        ∀ c ∈ ending, Text.isBlank c = true
  first : ∀ c ∈ url.toList.head?, Text.isBlank c = false
  noSlash : url.toList.getLast? ≠ some '/'
  endsInBlank : EndsInBlank url ↔ HasSpacedSlash raw

variable {raw url : String}

/- What is removed from an address, and what stops it. -/
theorem exists_normalize_append (raw : String) :
    ∃ margin slashes ending : List Char,
      raw.toList =
          margin ++ ((normalize raw).toList ++ slashes) ++
            ending ∧
        (∀ c ∈ margin, Text.isBlank c = true) ∧
        (∀ c ∈ slashes, c = '/') ∧
        (∀ c ∈ ending, Text.isBlank c = true) ∧
        Text.trimChars raw.toList =
          (normalize raw).toList ++ slashes := by
  rcases Text.exists_trimChars_append raw.toList with
    ⟨margin, ending, hRaw, hMargin, hEnding⟩
  rcases Text.exists_dropEnd_append (· == '/')
      (Text.trimChars raw.toList) with
    ⟨slashes, hTrim, hSlashes⟩
  have hLeft :
      Text.trimChars raw.toList =
        (normalize raw).toList ++ slashes := by
    rw [normalize, String.toList_ofList]
    exact hTrim
  refine
    ⟨margin, slashes, ending, ?_, hMargin, ?_, hEnding, hLeft⟩
  · rw [← hLeft]
    exact hRaw
  · intro c hMember
    exact beq_iff_eq.mp (hSlashes c hMember)

theorem head?_normalize
    {c : Char}
    (hFirst : (normalize raw).toList.head? = some c) :
    Text.isBlank c = false := by
  rcases exists_normalize_append raw with
    ⟨-, slashes, -, -, -, -, -, hTrim⟩
  apply Text.head?_trimChars
  rw [hTrim, List.head?_append, hFirst]
  rfl

/- A blank before the slashes is left at the end. -/
theorem endsInBlank_of_spacedSlash
    (hSpaced : HasSpacedSlash raw) :
    EndsInBlank (normalize raw) := by
  rcases hSpaced with
    ⟨front, blank, slashes, margin, hRaw,
      ⟨c, hMember, hFirst⟩, hBlank, ⟨hSome, hSlashes⟩,
      hMargin⟩
  rcases List.append_of_mem hMember with
    ⟨before, after, rfl⟩
  have hLast :
      ∀ x ∈ (c :: (after ++ [blank])).getLast?,
        (x == '/') = false := by
    intro x hMember
    rw [← List.cons_append, List.getLast?_concat] at hMember
    obtain rfl := Option.some.inj hMember
    rw [beq_eq_false_iff_ne]
    rintro rfl
    revert hBlank
    decide
  have hEnding :
      ∀ x ∈ slashes,
        (x == '/') = true ∧ Text.isBlank x = false := by
    intro x hMember
    rw [hSlashes x hMember]
    decide
  have hChars :
      raw.toList =
        before ++ c :: (after ++ [blank]) ++ slashes ++
          margin := by
    rw [hRaw]
    simp
  have hLeft :
      (normalize raw).toList =
        before.dropWhile Text.isBlank ++ c :: after ++
          [blank] := by
    rw [normalize, String.toList_ofList, hChars,
      Text.dropEnd_trimChars hFirst hLast hSome hEnding
        hMargin]
    simp
  refine ⟨blank, ?_, hBlank⟩
  rw [hLeft, List.getLast?_concat]
  rfl

/- A blank is left at the end only before slashes. -/
theorem spacedSlash_of_endsInBlank
    (hBlank : EndsInBlank (normalize raw)) :
    HasSpacedSlash raw := by
  rcases hBlank with ⟨blank, hLast, hBlank⟩
  rcases List.getLast?_eq_some_iff.mp hLast with
    ⟨kept, hKept⟩
  rcases exists_normalize_append raw with
    ⟨margin, slashes, ending, hRaw, -, hSlashes, hEnding,
      hTrim⟩
  rw [hKept] at hRaw hTrim
  -- Without slashes the blank would have been in the margin.
  have hSome : slashes ≠ [] := by
    rintro rfl
    rw [List.append_nil] at hTrim
    have hOther : Text.isBlank blank = false := by
      apply Text.getLast?_trimChars
      rw [hTrim, List.getLast?_concat]
    rw [hBlank] at hOther
    cases hOther
  have hFirst : ∃ c ∈ kept, Text.isBlank c = false := by
    cases kept with
    | nil =>
        have hOther : Text.isBlank blank = false := by
          apply head?_normalize
          rw [hKept]
          rfl
        rw [hBlank] at hOther
        cases hOther
    | cons c rest =>
        refine ⟨c, List.mem_cons_self, ?_⟩
        apply head?_normalize
        rw [hKept]
        rfl
  rcases hFirst with ⟨c, hMember, hFirst⟩
  refine
    ⟨margin ++ kept, blank, slashes, ending, ?_,
      ⟨c, List.mem_append_right margin hMember, hFirst⟩,
      hBlank, ⟨hSome, hSlashes⟩, hEnding⟩
  rw [hRaw]
  simp

theorem isStrippedFrom_normalize (raw : String) :
    IsStrippedFrom raw (normalize raw) := by
  rcases exists_normalize_append raw with
    ⟨margin, slashes, ending, hRaw, hMargin, hSlashes,
      hEnding, -⟩
  constructor
  · exact
      ⟨margin, slashes, ending, hRaw, hMargin, hSlashes,
        hEnding⟩
  · intro c hFirst
    exact head?_normalize hFirst
  · exact getLast?_normalize raw
  · exact
      ⟨spacedSlash_of_endsInBlank,
        endsInBlank_of_spacedSlash⟩

theorem IsStrippedFrom.isNormal_iff
    (hStripped : IsStrippedFrom raw url) :
    IsNormal url ↔ ¬ HasSpacedSlash raw := by
  rw [← hStripped.endsInBlank]
  constructor
  · rintro hNormal ⟨c, hLast, hBlank⟩
    rw [(hNormal.last c hLast).1] at hBlank
    cases hBlank
  · intro hOther
    refine ⟨hStripped.first, ?_⟩
    intro c hLast
    constructor
    · by_contra hBlank
      exact hOther ⟨c, hLast, by simpa using hBlank⟩
    · rintro rfl
      exact hStripped.noSlash hLast

/- The normal addresses are those that stay as they are. -/
theorem normalize_eq_self_iff :
    normalize url = url ↔ IsNormal url := by
  constructor
  · intro hSame
    rcases exists_normalize_append url with
      ⟨margin, slashes, ending, hUrl, -, -, -, hTrim⟩
    rw [hSame] at hUrl hTrim
    -- Nothing was removed, so nothing is left to remove.
    have hNone : slashes = [] := by
      have hLength := congrArg List.length hUrl
      simp only [List.length_append] at hLength
      apply List.eq_nil_of_length_eq_zero
      omega
    rw [hNone, List.append_nil] at hTrim
    constructor
    · intro c hFirst
      rw [← hTrim] at hFirst
      exact Text.head?_trimChars hFirst
    · intro c hLast
      constructor
      · rw [← hTrim] at hLast
        exact Text.getLast?_trimChars hLast
      · rintro rfl
        rw [← hSame] at hLast
        exact getLast?_normalize url hLast
  · intro hNormal
    have hTrim : Text.trimChars url.toList = url.toList :=
      Text.trimChars_eq_self hNormal.first
        fun c hLast => (hNormal.last c hLast).1
    have hEnd :
        Text.dropEnd (· == '/') url.toList = url.toList := by
      apply Text.dropEnd_eq_self
      intro c hLast
      exact beq_eq_false_iff_ne.mpr (hNormal.last c hLast).2
    rw [normalize, hTrim, hEnd, String.ofList_toList]

theorem isNormal_normalize_iff :
    IsNormal (normalize raw) ↔ ¬ HasSpacedSlash raw :=
  (isStrippedFrom_normalize raw).isNormal_iff

instance (url : String) : Decidable (IsNormal url) :=
  decidable_of_iff (normalize url = url) normalize_eq_self_iff

------------------------------------------------------------
-- Several Addresses
------------------------------------------------------------

/- Addresses in normal form, without the empty ones. -/
def normalizeAll (urls : List String) : List String :=
  (urls.map normalize).filter (· ≠ "")

theorem normalizeAll_append (urls others : List String) :
    normalizeAll (urls ++ others) =
      normalizeAll urls ++ normalizeAll others := by
  simp only [normalizeAll, List.map_append, List.filter_append]

theorem forall_normalizeAll_iff {urls : List String} :
    (∀ url ∈ normalizeAll urls, IsNormal url) ↔
      ∀ raw ∈ urls, ¬ HasSpacedSlash raw := by
  constructor
  · intro hNormal raw hRaw hSpaced
    have hBlank := endsInBlank_of_spacedSlash hSpaced
    have hSome : normalize raw ≠ "" := by
      intro hNone
      rw [hNone] at hBlank
      rcases hBlank with ⟨c, hLast, -⟩
      cases hLast
    have hMember : normalize raw ∈ normalizeAll urls :=
      List.mem_filter.mpr
        ⟨List.mem_map_of_mem hRaw, decide_eq_true hSome⟩
    exact
      isNormal_normalize_iff.mp (hNormal _ hMember) hSpaced
  · intro hNone url hUrl
    rcases List.mem_map.mp (List.mem_filter.mp hUrl).1 with
      ⟨raw, hRaw, rfl⟩
    exact isNormal_normalize_iff.mpr (hNone raw hRaw)

end Url

end KbConsole
