import KbConsole.Check
import KbConsole.Proofs.Margins
import KbConsole.Proofs.Parts
import Mathlib.Data.List.TakeWhile

/-
  Addresses that lose the slashes at their end, and
  addresses that a path is added to.

  Key definitions include:
    * `Url.HasAuthority`, `Url.IsAddress`
    * `Url.HasTail`
    * `Url.EndsInPath`

  The main statements are `Url.isValid_normalize`, that an
  address stays valid without its last slashes, and
  `Url.endsInPath_append` and `Url.not_hasTail_of_paths`,
  that an address may be the base of others exactly when it
  has no fragment and no query.
-/

namespace KbConsole

------------------------------------------------------------
-- Texts
------------------------------------------------------------

namespace Text

theorem after?_append_of_eq_some
    {start cs rest : List Char}
    (hRest : after? start cs = some rest)
    (others : List Char) :
    after? start (cs ++ others) = some (rest ++ others) := by
  rw [after?_eq_some_iff] at hRest ⊢
  rw [hRest, List.append_assoc]

/- A start that only the longer text has is all of it. -/
theorem eq_nil_of_after?_append
    {start cs rest : List Char}
    {c : Char}
    (hNone : after? start cs = none)
    (hRest : after? start (cs ++ [c]) = some rest) :
    rest = [] := by
  cases rest using List.reverseRecOn with
  | nil => rfl
  | append_singleton front last =>
      rw [after?_eq_some_iff, ← List.append_assoc] at hRest
      have hShort : cs = start ++ front :=
        (List.append_inj' hRest rfl).1
      rw [← after?_eq_some_iff, hNone] at hShort
      cases hShort

/- A character that stops the reading hides what follows. -/
theorem takeWhile_append_of_mem
    {p : Char → Bool}
    {c : Char}
    {cs : List Char}
    (hMember : c ∈ cs)
    (hStops : p c = false)
    (others : List Char) :
    (cs ++ others).takeWhile p = cs.takeWhile p := by
  rw [List.takeWhile_append, if_neg]
  intro hLength
  have hWhole : cs.takeWhile p = cs :=
    (List.takeWhile_prefix p).eq_of_length hLength
  rw [← hWhole] at hMember
  rw [List.mem_takeWhile_imp hMember] at hStops
  cases hStops

end Text

namespace Url

------------------------------------------------------------
-- Valid Addresses
------------------------------------------------------------

/- A protocol that is accepted, with a host after it. -/
def HasAuthority (cs : List Char) : Prop :=
  ∃ rest,
    afterProtocol? cs = some rest ∧
      isAuthority (rest.takeWhile (· != '/')) = true

/- What makes a text an acceptable server address. -/
structure IsAddress (cs : List Char) : Prop where
  allowed : ∀ c ∈ cs, isForbidden c = false
  noMail : ¬ "mailto:".toList <+: cs
  short : Text.charsWidth cs ≤ longest
  authority : HasAuthority (withoutTail cs)

theorem isAuthority_nil : isAuthority [] = false := by
  decide

theorem HasAuthority.ne_nil
    {cs : List Char}
    (hAuthority : HasAuthority cs) :
    cs ≠ [] := by
  rintro rfl
  rcases hAuthority with ⟨rest, hRest, -⟩
  cases hRest

theorem isValid_iff {s : String} :
    isValid s = true ↔ IsAddress s.toList := by
  unfold isValid
  constructor
  · intro hValid
    simp only at hValid
    split at hValid
    · cases hValid
    · rename_i hAccepted
      simp only [Bool.or_eq_true, not_or] at hAccepted
      split at hValid
      · cases hValid
      · rename_i rest hRest
        simp only [Bool.and_eq_true] at hValid
        refine ⟨?_, ?_, ?_, rest, hRest, hValid.2⟩
        · simpa using hAccepted.1.1.2
        · rw [← Text.isSome_after?_iff]
          exact hAccepted.1.2
        · simpa using hAccepted.2
  · intro hAddress
    have hText : s.toList ≠ [] := by
      intro hNone
      apply hAddress.authority.ne_nil
      rw [hNone]
      rfl
    have hMail := hAddress.noMail
    rw [← Text.isSome_after?_iff] at hMail
    rcases hAddress.authority with ⟨rest, hRest, hAuthority⟩
    have hSome : rest ≠ [] := by
      rintro rfl
      rw [List.takeWhile_nil, isAuthority_nil] at hAuthority
      cases hAuthority
    have hAccepted :
        ¬ (s.toList.isEmpty || s.toList.any isForbidden ||
          (Text.after? "mailto:".toList s.toList).isSome ||
          decide (longest < Text.charsWidth s.toList)) =
            true := by
      simp only [Bool.or_eq_true, not_or]
      refine ⟨⟨⟨?_, ?_⟩, hMail⟩, ?_⟩
      · simpa using hText
      · simpa using hAddress.allowed
      · simpa using hAddress.short
    simp only [if_neg hAccepted, hRest, hAuthority,
      Bool.and_true, Bool.not_eq_true',
      List.isEmpty_eq_false_iff]
    exact hSome

/- Blanks are forbidden, so an address has no margins. -/
theorem IsAddress.trimChars_eq
    {cs : List Char}
    (hAddress : IsAddress cs) :
    Text.trimChars cs = cs := by
  have hText : ∀ c ∈ cs, Text.isBlank c = false := by
    intro c hMember
    have hAllowed := hAddress.allowed c hMember
    simp only [isForbidden, Bool.or_eq_false_iff] at hAllowed
    exact hAllowed.1.1
  apply Text.trimChars_eq_self
  · intro c hFirst
    exact hText c (List.mem_of_head? hFirst)
  · intro c hLast
    exact hText c (List.mem_of_getLast? hLast)

------------------------------------------------------------
-- A Slash at the End
------------------------------------------------------------

theorem takeWhile_append_slash (cs : List Char) :
    (cs ++ ['/']).takeWhile (· != '/') =
      cs.takeWhile (· != '/') := by
  induction cs with
  | nil => rfl
  | cons c cs ih =>
      rw [List.cons_append, List.takeWhile_cons,
        List.takeWhile_cons, ih]

/- A last slash belongs to what follows the colon. -/
theorem cutProtocol?_append_slash (cs : List Char) :
    cutProtocol? (cs ++ ['/']) =
      (cutProtocol? cs).map fun halves =>
        (halves.1, halves.2 ++ ['/']) := by
  unfold cutProtocol?
  rw [List.dropWhile_append]
  cases hRest : cs.dropWhile (· != ':') with
  | nil => simp
  | cons colon rest =>
      have hColon : ':' ∈ cs := by
        by_contra hNone
        have hAll : ∀ c ∈ cs, (c != ':') = true := by
          intro c hMember
          exact bne_iff_ne.mpr
            (ne_of_mem_of_not_mem hMember hNone)
        rw [List.dropWhile_eq_nil_iff.mpr hAll] at hRest
        cases hRest
      rw [Text.takeWhile_append_of_mem hColon (by simp)]
      cases cs.takeWhile (· != ':') with
      | nil => rfl
      | cons first others =>
          simp only [List.isEmpty_cons, Bool.false_eq_true,
            if_false, List.cons_append]
          split <;> rfl

theorem hidesProtocol_append_slash (rest : List Char) :
    hidesProtocol (rest ++ ['/']) = hidesProtocol rest := by
  unfold hidesProtocol
  rw [takeWhile_append_slash]
  cases rest with
  | nil => rfl
  | cons c rest => rfl

/-
  What follows the protocol begins alike with and without a
  last slash, unless nothing follows.
-/
theorem exists_afterProtocol?_of_append_slash
    {cs rest : List Char}
    (hRest : afterProtocol? (cs ++ ['/']) = some rest)
    (hAuthority : rest.takeWhile (· != '/') ≠ []) :
    ∃ front,
      afterProtocol? cs = some front ∧
        front.takeWhile (· != '/') =
          rest.takeWhile (· != '/') := by
  unfold afterProtocol? at hRest ⊢
  rw [cutProtocol?_append_slash] at hRest
  cases hCut : cutProtocol? cs with
  | none =>
      rw [hCut] at hRest
      cases hRest
  | some halves =>
      rcases halves with ⟨name, after⟩
      simp only [hCut, Option.map_some, Option.bind_eq_bind,
        Option.bind_some, hidesProtocol_append_slash]
        at hRest ⊢
      cases hAfter : Text.after? ['/', '/'] after with
      | some front =>
          rw [Text.after?_append_of_eq_some hAfter] at hRest
          simp only [Option.ite_none_right_eq_some,
            Option.some.injEq] at hRest ⊢
          refine ⟨front, ⟨hRest.1, rfl⟩, ?_⟩
          rw [← hRest.2, takeWhile_append_slash]
      | none =>
          cases hLonger :
            Text.after? ['/', '/'] (after ++ ['/']) with
          | some front =>
              -- The last slash ends the double slash, and
              -- no host is left.
              rcases Text.eq_nil_of_after?_append hAfter hLonger
                with rfl
              simp only [hLonger,
                Option.ite_none_right_eq_some,
                Option.some.injEq] at hRest
              rw [← hRest.2] at hAuthority
              exact absurd rfl hAuthority
          | none =>
              simp only [hLonger,
                Option.ite_none_right_eq_some,
                Option.some.injEq] at hRest ⊢
              refine ⟨after, ⟨hRest.1, rfl⟩, ?_⟩
              rw [← hRest.2, takeWhile_append_slash]

theorem HasAuthority.of_append_slash
    {cs : List Char}
    (hAuthority : HasAuthority (cs ++ ['/'])) :
    HasAuthority cs := by
  rcases hAuthority with ⟨rest, hRest, hValid⟩
  have hSome : rest.takeWhile (· != '/') ≠ [] := by
    intro hNone
    rw [hNone, isAuthority_nil] at hValid
    cases hValid
  rcases exists_afterProtocol?_of_append_slash hRest hSome with
    ⟨front, hFront, hSame⟩
  rw [← hSame] at hValid
  exact ⟨front, hFront, hValid⟩

------------------------------------------------------------
-- Fragments and Queries
------------------------------------------------------------

/- Whether an address has a fragment or a query. -/
def HasTail (cs : List Char) : Prop :=
  '#' ∈ cs ∨ '?' ∈ cs

instance (cs : List Char) : Decidable (HasTail cs) :=
  inferInstanceAs (Decidable ('#' ∈ cs ∨ '?' ∈ cs))

/- Without a fragment and a query nothing is cut off. -/
theorem withoutTail_append
    {cs : List Char}
    (hTail : ¬ HasTail cs)
    (others : List Char) :
    withoutTail (cs ++ others) = cs ++ withoutTail others := by
  rw [HasTail, not_or] at hTail
  unfold withoutTail
  rw [List.takeWhile_append_of_pos,
    List.takeWhile_append_of_pos]
  · intro c hMember
    exact bne_iff_ne.mpr (ne_of_mem_of_not_mem hMember hTail.2)
  · intro c hMember
    exact bne_iff_ne.mpr (ne_of_mem_of_not_mem hMember hTail.1)

theorem withoutTail_eq_self
    {cs : List Char}
    (hTail : ¬ HasTail cs) :
    withoutTail cs = cs := by
  have hNothing := withoutTail_append hTail []
  rw [List.append_nil] at hNothing
  exact hNothing.trans (List.append_nil cs)

/- After a fragment or a query, all belongs to it. -/
theorem withoutTail_append_of_hasTail
    {cs : List Char}
    (hTail : HasTail cs)
    (others : List Char) :
    withoutTail (cs ++ others) = withoutTail cs := by
  unfold withoutTail
  by_cases hFragment : '#' ∈ cs
  · rw [Text.takeWhile_append_of_mem hFragment (by simp)]
  · have hQuery : '?' ∈ cs := hTail.resolve_left hFragment
    have hWhole : ∀ c ∈ cs, (c != '#') = true := by
      intro c hMember
      exact bne_iff_ne.mpr
        (ne_of_mem_of_not_mem hMember hFragment)
    rw [List.takeWhile_append_of_pos hWhole,
      List.takeWhile_eq_self_iff.mpr hWhole,
      Text.takeWhile_append_of_mem hQuery (by simp)]

------------------------------------------------------------
-- Normal Forms
------------------------------------------------------------

/- Only a slash of the path or of the tail can be the last. -/
theorem IsAddress.of_append_slash
    {cs : List Char}
    (hAddress : IsAddress (cs ++ ['/'])) :
    IsAddress cs := by
  constructor
  · intro c hMember
    exact hAddress.allowed c (List.mem_append_left _ hMember)
  · intro hMail
    exact hAddress.noMail (hMail.trans (List.prefix_append _ _))
  · have hShort := hAddress.short
    rw [Text.charsWidth_append] at hShort
    omega
  · have hAuthority := hAddress.authority
    by_cases hTail : HasTail cs
    · rw [withoutTail_append_of_hasTail hTail] at hAuthority
      exact hAuthority
    · rw [withoutTail_append hTail] at hAuthority
      rw [withoutTail_eq_self hTail]
      exact hAuthority.of_append_slash

/- An address stays valid without its last slashes. -/
theorem isValid_normalize
    {s : String}
    (hValid : isValid s = true) :
    isValid (normalize s) = true := by
  rw [isValid_iff] at hValid ⊢
  rw [normalize, String.toList_ofList, hValid.trimChars_eq]
  apply Text.dropEnd_of_step _ hValid
  intro cs c hSlash hLonger
  rw [beq_iff_eq.mp hSlash] at hLonger
  exact hLonger.of_append_slash

theorem getLast?_normalize (s : String) :
    (normalize s).toList.getLast? ≠ some '/' := by
  rw [normalize, String.toList_ofList]
  exact Text.getLast?_dropEnd_ne '/' _

------------------------------------------------------------
-- Base Addresses
------------------------------------------------------------

/-
  Whether an address ends in a path, its fragment and query
  left aside.
-/
def EndsInPath (url path : String) : Prop :=
  path.toList <:+ withoutTail url.toList

instance (url path : String) :
    Decidable (EndsInPath url path) :=
  inferInstanceAs
    (Decidable (path.toList <:+ withoutTail url.toList))

theorem endsInPath_append
    {url path : String}
    (hUrl : ¬ HasTail url.toList)
    (hPath : ¬ HasTail path.toList) :
    EndsInPath (url ++ path) path := by
  rw [EndsInPath, String.toList_append,
    withoutTail_append hUrl, withoutTail_eq_self hPath]
  exact List.suffix_append _ _

/-
  With a fragment or a query all paths are lost, so that two
  addresses cannot end in paths of their own.
-/
theorem not_hasTail_of_paths
    {url path other : String}
    (hPath : EndsInPath (url ++ path) path)
    (hOther : EndsInPath (url ++ other) other)
    (hApart :
      ¬ (path.toList <:+ other.toList ∨
        other.toList <:+ path.toList)) :
    ¬ HasTail url.toList := by
  intro hTail
  rw [EndsInPath, String.toList_append,
    withoutTail_append_of_hasTail hTail] at hPath hOther
  exact hApart
    (List.suffix_or_suffix_of_suffix hPath hOther)

end Url

------------------------------------------------------------
-- Checked Addresses
------------------------------------------------------------

namespace Check

theorem url_eq_none_iff {s : String} :
    url s = none ↔
      Text.isVoid s = false ∧ Url.isValid s = true := by
  unfold url
  split
  · simp_all
  · split
    · simp_all
    · simp_all

/- A valid address is not blank. -/
theorem url_of_isValid
    {s : String}
    (hValid : Url.isValid s = true) :
    url s = none := by
  refine url_eq_none_iff.mpr ⟨?_, hValid⟩
  have hAddress := Url.isValid_iff.mp hValid
  by_contra hVoid
  rw [Bool.not_eq_false, Text.isVoid] at hVoid
  apply hAddress.authority.ne_nil
  have hText : s.toList = [] := by
    rw [List.eq_nil_iff_forall_not_mem]
    intro c hMember
    have hAllowed := hAddress.allowed c hMember
    have hBlank := List.all_eq_true.mp hVoid c hMember
    simp [Url.isForbidden, hBlank] at hAllowed
  rw [hText]
  rfl

/- What the check accepts it accepts in normal form, too. -/
theorem url_normalize
    {s : String}
    (hAccepted : url s = none) :
    url (Url.normalize s) = none :=
  url_of_isValid
    (Url.isValid_normalize (url_eq_none_iff.mp hAccepted).2)

end Check

end KbConsole
