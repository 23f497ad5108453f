import KbConsole.Keyed
import KbConsole.Proofs.Characters
import Mathlib.Data.List.Dedup
import Mathlib.Data.List.Nodup

/-
  Entries that keep their order, keys that stay distinct,
  and the values that are found under them.

  Key definitions include:
    * `Keyed.IsPut`
    * `Keyed.Precedes`
    * `Keyed.IsOrdered`

  The main statements are `Keyed.nodup_keys_ofList`: a key
  that arrives again takes no second place;
  `Keyed.pairwise_precedes_ofList`: indexes come first, by
  value; `Keyed.ofList_eq_self_iff`: entries are shown as
  they arrive exactly if they arrive in this order;
  `Keyed.get?_put`: setting a key changes its value alone;
  and `Keyed.get?_perm`: distinct keys are found in any
  order of the entries.
-/

namespace KbConsole

namespace Keyed

variable {α : Type}

theorem keys_cons (entry : String × α) (entries : Keyed α) :
    keys (entry :: entries) = entry.1 :: keys entries :=
  rfl

theorem has_eq_false
    {entries : Keyed α}
    {key : String}
    (hNew : key ∉ keys entries) :
    has key entries = false := by
  rw [has, List.any_eq_false]
  intro entry hMember
  rw [beq_iff_eq]
  rintro rfl
  exact hNew (List.mem_map_of_mem hMember)

theorem has_eq_true
    {entries : Keyed α}
    {key : String}
    (hKey : key ∈ keys entries) :
    has key entries = true := by
  rcases List.mem_map.mp hKey with ⟨entry, hMember, rfl⟩
  rw [has, List.any_eq_true]
  exact ⟨entry, hMember, beq_self_eq_true entry.1⟩

/- A new key that is no index goes to the end. -/
theorem put_eq_append
    {entries : Keyed α}
    {key : String}
    (hNew : key ∉ keys entries)
    (hName : index? key = none)
    (value : α) :
    put entries key value = entries ++ [(key, value)] := by
  rw [put, has_eq_false hNew, if_neg (by decide), hName]

------------------------------------------------------------
-- Distinct Keys
------------------------------------------------------------

theorem keys_replace
    (key : String)
    (value : α)
    (entries : Keyed α) :
    keys (replace key value entries) = keys entries := by
  rw [keys, keys, replace, List.map_map]
  apply List.map_congr_left
  intro entry _
  by_cases hKey : entry.1 = key
  · simp [hKey]
  · simp [hKey]

theorem keys_insertIndex
    (i : Nat)
    (key : String)
    (value : α)
    (entries : Keyed α) :
    (keys (insertIndex i key value entries)).Perm
      (key :: keys entries) := by
  induction entries with
  | nil => exact List.Perm.refl _
  | cons entry entries ih =>
      unfold insertIndex
      split
      · exact List.Perm.refl _
      · split
        · exact (ih.cons entry.1).trans
            (List.Perm.swap key entry.1 (keys entries))
        · exact List.Perm.refl _

theorem nodup_keys_put
    {entries : Keyed α}
    (hDistinct : (keys entries).Nodup)
    (key : String)
    (value : α) :
    (keys (put entries key value)).Nodup := by
  by_cases hKey : key ∈ keys entries
  · rw [put, if_pos (has_eq_true hKey), keys_replace]
    exact hDistinct
  · rw [put, has_eq_false hKey, if_neg (by decide)]
    split
    · rw [keys, List.map_append]
      apply List.Nodup.append hDistinct (by simp)
      simpa using hKey
    · apply (keys_insertIndex _ key value entries).nodup_iff.mpr
      exact List.nodup_cons.mpr ⟨hKey, hDistinct⟩

theorem nodup_keys_foldl_put
    {entries : Keyed α}
    (hDistinct : (keys entries).Nodup)
    (pairs : List (String × α)) :
    (keys (pairs.foldl
      (fun entries p => put entries p.1 p.2)
        entries)).Nodup := by
  induction pairs generalizing entries with
  | nil => exact hDistinct
  | cons pair pairs ih =>
      exact ih (nodup_keys_put hDistinct pair.1 pair.2)

/- A key that arrives again takes no second place. -/
theorem nodup_keys_ofList (pairs : List (String × α)) :
    (keys (ofList pairs)).Nodup := by
  have hNone : (keys ([] : Keyed α)).Nodup := List.nodup_nil
  exact nodup_keys_foldl_put hNone pairs

------------------------------------------------------------
-- Values of Keys
------------------------------------------------------------

/- A key is there when a value is found under it. -/
theorem mem_keys_iff
    {entries : Keyed α}
    {key : String} :
    key ∈ keys entries ↔
      ∃ value, get? key entries = some value := by
  induction entries with
  | nil => simp [keys, get?]
  | cons entry entries ih =>
      rw [keys, List.map_cons, List.mem_cons, get?]
      by_cases hKey : entry.1 = key
      · simp [hKey]
      · rw [if_neg hKey, ← ih]
        simp [keys, Ne.symm hKey]

/- The first entries come first. -/
theorem get?_append
    (key : String)
    (first second : Keyed α) :
    get? key (first ++ second) =
      (get? key first).or (get? key second) := by
  induction first with
  | nil => rfl
  | cons entry first ih =>
      rw [List.cons_append, get?, get?, ih]
      split <;> rfl

/- Under distinct keys, what is there is what is found. -/
theorem get?_eq_some_iff
    {entries : Keyed α}
    (hDistinct : (keys entries).Nodup)
    {key : String}
    {value : α} :
    get? key entries = some value ↔
      (key, value) ∈ entries := by
  induction entries with
  | nil => simp [get?]
  | cons entry entries ih =>
      rcases entry with ⟨name, first⟩
      rw [keys_cons, List.nodup_cons] at hDistinct
      rw [get?, List.mem_cons, Prod.mk.injEq]
      by_cases hName : name = key
      · subst hName
        have hLater : (name, value) ∉ entries := by
          intro hMember
          exact hDistinct.1
            (List.mem_map.mpr ⟨_, hMember, rfl⟩)
        simp [hLater, eq_comm]
      · rw [if_neg hName, ih hDistinct.2]
        simp [Ne.symm hName]

/- Under distinct keys, entries are filtered by their keys. -/
theorem mem_keys_filter_iff
    {entries : Keyed α}
    (hDistinct : (keys entries).Nodup)
    {entry : String × α}
    (hEntry : entry ∈ entries)
    (p : String × α → Bool) :
    entry.1 ∈ keys (entries.filter p) ↔ p entry = true := by
  constructor
  · intro hKey
    rcases List.mem_map.mp hKey with ⟨other, hOther, hSame⟩
    rw [List.mem_filter] at hOther
    obtain rfl : other = entry :=
      List.inj_on_of_nodup_map hDistinct hOther.1 hEntry hSame
    exact hOther.2
  · intro hKept
    exact
      List.mem_map_of_mem
        (List.mem_filter.mpr ⟨hEntry, hKept⟩)

/- Under distinct keys, the order of entries is no matter. -/
theorem get?_perm
    {entries others : Keyed α}
    (hPerm : entries.Perm others)
    (hDistinct : (keys entries).Nodup)
    (key : String) :
    get? key entries = get? key others := by
  have hOthers : (keys others).Nodup :=
    (hPerm.map Prod.fst).nodup_iff.mp hDistinct
  apply Option.ext
  intro value
  rw [get?_eq_some_iff hDistinct, get?_eq_some_iff hOthers]
  exact hPerm.mem_iff

/- Values that are changed one by one keep their keys. -/
theorem get?_map
    {β : Type}
    (f : α → β)
    (key : String)
    (entries : Keyed α) :
    get? key (entries.map fun entry => (entry.1, f entry.2)) =
      (get? key entries).map f := by
  induction entries with
  | nil => rfl
  | cons entry entries ih =>
      rw [List.map_cons, get?, get?, ih]
      split <;> rfl

/- One key has a new value, and no other key changes. -/
def IsPut
    (key : String)
    (value : α)
    (before after : Keyed α) : Prop :=
  ∀ other,
    get? other after =
      if key = other then some value else get? other before

theorem IsPut.cons
    {key name : String}
    {value : α}
    {before after : Keyed α}
    (hPut : IsPut key value before after)
    (hName : name ≠ key)
    (first : α) :
    IsPut key value ((name, first) :: before)
      ((name, first) :: after) := by
  intro other
  rw [get?, get?, hPut other]
  by_cases hOther : key = other
  · subst hOther
    rw [if_neg hName, if_pos rfl, if_pos rfl]
  · rw [if_neg hOther, if_neg hOther]

theorem get?_replace_of_ne
    {key other : String}
    (hOther : key ≠ other)
    (value : α)
    (entries : Keyed α) :
    get? other (replace key value entries) =
      get? other entries := by
  induction entries with
  | nil => rfl
  | cons entry entries ih =>
      rcases entry with ⟨name, first⟩
      rw [replace, List.map_cons]
      by_cases hName : name = key
      · subst hName
        rw [if_pos rfl, get?, get?, if_neg hOther,
          if_neg hOther]
        exact ih
      · rw [if_neg hName, get?, get?]
        exact congrArg _ ih

theorem isPut_replace
    {key : String}
    {entries : Keyed α}
    (hKey : key ∈ keys entries)
    (value : α) :
    IsPut key value entries (replace key value entries) := by
  induction entries with
  | nil => cases hKey
  | cons entry entries ih =>
      rcases entry with ⟨name, first⟩
      by_cases hName : name = key
      · subst hName
        intro other
        by_cases hOther : name = other
        · rw [replace, List.map_cons, if_pos rfl, get?,
            if_pos hOther, if_pos hOther]
        · rw [if_neg hOther, get?_replace_of_ne hOther]
      · rw [replace, List.map_cons, if_neg hName]
        apply IsPut.cons _ hName
        apply ih
        rw [keys, List.map_cons, List.mem_cons] at hKey
        exact hKey.resolve_left (Ne.symm hName)

theorem isPut_append
    {key : String}
    {entries : Keyed α}
    (hNew : key ∉ keys entries)
    (value : α) :
    IsPut key value entries (entries ++ [(key, value)]) := by
  induction entries with
  | nil => exact fun other => rfl
  | cons entry entries ih =>
      rw [keys, List.map_cons, List.mem_cons, not_or] at hNew
      exact (ih hNew.2).cons (Ne.symm hNew.1) entry.2

theorem isPut_insertIndex
    {key : String}
    {entries : Keyed α}
    (hNew : key ∉ keys entries)
    (i : Nat)
    (value : α) :
    IsPut key value entries
      (insertIndex i key value entries) := by
  induction entries with
  | nil => exact fun other => rfl
  | cons entry entries ih =>
      rw [keys, List.map_cons, List.mem_cons, not_or] at hNew
      unfold insertIndex
      split
      · exact fun other => rfl
      · split
        · exact (ih hNew.2).cons (Ne.symm hNew.1) entry.2
        · exact fun other => rfl

/- Setting a key changes the value of this key alone. -/
theorem get?_put
    (entries : Keyed α)
    (key : String)
    (value : α)
    (other : String) :
    get? other (put entries key value) =
      if key = other then some value
      else get? other entries := by
  by_cases hKey : key ∈ keys entries
  · rw [put, if_pos (has_eq_true hKey)]
    exact isPut_replace hKey value other
  · rw [put, has_eq_false hKey, if_neg (by decide)]
    split
    · exact isPut_append hKey value other
    · exact isPut_insertIndex hKey _ value other

/- What was put somewhere is there. -/
theorem put_ne_nil
    (entries : Keyed α)
    (key : String)
    (value : α) :
    put entries key value ≠ [] := by
  intro hNil
  have hValue := get?_put entries key value key
  rw [hNil, if_pos rfl] at hValue
  cases hValue

/- Only the key that is set can be new. -/
theorem mem_keys_put_iff
    {entries : Keyed α}
    {key other : String}
    {value : α} :
    other ∈ keys (put entries key value) ↔
      other = key ∨ other ∈ keys entries := by
  rw [mem_keys_iff, mem_keys_iff, get?_put]
  by_cases hKey : key = other
  · simp [hKey]
  · simp [hKey, Ne.symm hKey]

theorem mem_keys_foldl_put_iff
    {entries pairs : List (String × α)}
    {key : String} :
    key ∈ keys
        (pairs.foldl (fun entries p => put entries p.1 p.2)
          entries) ↔
      key ∈ keys entries ∨ key ∈ keys pairs := by
  induction pairs generalizing entries with
  | nil => simp [keys]
  | cons pair pairs ih =>
      rw [List.foldl_cons, ih, mem_keys_put_iff, keys_cons,
        List.mem_cons, or_assoc, or_left_comm]

/- Every key that arrives has one place. -/
theorem keys_ofList_perm (pairs : List (String × α)) :
    (keys (ofList pairs)).Perm (keys pairs).dedup := by
  rw [List.perm_ext_iff_of_nodup (nodup_keys_ofList pairs)
    (List.nodup_dedup _)]
  intro key
  rw [List.mem_dedup]
  have hNone : key ∉ keys ([] : Keyed α) := List.not_mem_nil
  exact mem_keys_foldl_put_iff.trans (or_iff_right hNone)

------------------------------------------------------------
-- Order of Keys
------------------------------------------------------------

section Order

variable
  {β : Type}
  {left : Keyed α}
  {right : Keyed β}

theorem keys_insertIndex_congr
    (hKeys : keys left = keys right)
    (i : Nat)
    (key : String)
    (value : α)
    (other : β) :
    keys (insertIndex i key value left) =
      keys (insertIndex i key other right) := by
  induction left generalizing right with
  | nil =>
      rw [List.map_eq_nil_iff.mp hKeys.symm]
      rfl
  | cons entry left ih =>
      obtain ⟨name, first⟩ := entry
      cases right with
      | nil => cases hKeys
      | cons entry right =>
          obtain ⟨name', first'⟩ := entry
          rw [keys_cons, keys_cons, List.cons.injEq] at hKeys
          obtain ⟨rfl, hRest⟩ := hKeys
          cases hIndex : index? name with
          | none =>
              simp only [insertIndex, hIndex, keys_cons, hRest]
          | some j =>
              simp only [insertIndex, hIndex]
              split
              · rw [keys_cons, keys_cons, ih hRest]
              · simp only [keys_cons, hRest]

/- Where a key is put does not depend on any value. -/
theorem keys_put_congr
    (hKeys : keys left = keys right)
    (key : String)
    (value : α)
    (other : β) :
    keys (put left key value) = keys (put right key other) := by
  by_cases hKey : key ∈ keys left
  · have hRight : key ∈ keys right := hKeys ▸ hKey
    rw [put, put, if_pos (has_eq_true hKey),
      if_pos (has_eq_true hRight), keys_replace, keys_replace,
      hKeys]
  · have hRight : key ∉ keys right := hKeys ▸ hKey
    rw [put, put, has_eq_false hKey, has_eq_false hRight,
      if_neg (by decide), if_neg (by decide)]
    split
    · rw [keys, keys, List.map_append, List.map_append]
      exact congrArg (· ++ [key]) hKeys
    · exact keys_insertIndex_congr hKeys _ key value other

/- The order of keys is that in which they arrive. -/
theorem keys_foldl_put_congr
    {pairs : List (String × α)}
    {others : List (String × β)}
    (hKeys : keys left = keys right)
    (hPairs : keys pairs = keys others) :
    keys
        (pairs.foldl (fun entries p => put entries p.1 p.2)
          left) =
      keys
        (others.foldl (fun entries p => put entries p.1 p.2)
          right) := by
  induction pairs generalizing others left right with
  | nil =>
      rw [List.map_eq_nil_iff.mp hPairs.symm]
      exact hKeys
  | cons pair pairs ih =>
      cases others with
      | nil => cases hPairs
      | cons other others =>
          rw [keys_cons, keys_cons, List.cons.injEq] at hPairs
          rw [List.foldl_cons, List.foldl_cons, hPairs.1]
          exact ih (keys_put_congr hKeys _ _ _) hPairs.2

end Order

/- Indexes come first, by value, and then the other keys. -/
def Precedes (first second : String) : Prop :=
  match index? first, index? second with
  | some i, some j => i ≤ j
  | none, some _ => False
  | _, none => True

theorem Precedes.trans_index
    {key first second : String}
    {i j : Nat}
    (hKey : index? key = some i)
    (hFirst : index? first = some j)
    (hOrder : i ≤ j)
    (hSecond : Precedes first second) :
    Precedes key second := by
  unfold Precedes at hSecond ⊢
  rw [hKey]
  rw [hFirst] at hSecond
  cases hIndex : index? second with
  | none => exact trivial
  | some k =>
      rw [hIndex] at hSecond
      exact Nat.le_trans hOrder hSecond

/- No index comes after another key. -/
theorem Precedes.index?_eq_none
    {first second : String}
    (hFirst : index? first = none)
    (hSecond : Precedes first second) :
    index? second = none := by
  unfold Precedes at hSecond
  rw [hFirst] at hSecond
  cases hIndex : index? second with
  | none => rfl
  | some k =>
      rw [hIndex] at hSecond
      exact hSecond.elim

theorem precedes_of_index?_eq_none
    (first : String)
    {second : String}
    (hSecond : index? second = none) :
    Precedes first second := by
  unfold Precedes
  rw [hSecond]
  cases index? first <;> exact trivial

theorem pairwise_precedes_insertIndex
    {entries : Keyed α}
    (hOrder : (keys entries).Pairwise Precedes)
    {i : Nat}
    {key : String}
    (hKey : index? key = some i)
    (value : α) :
    (keys (insertIndex i key value entries)).Pairwise
      Precedes := by
  induction entries with
  | nil => exact List.pairwise_singleton Precedes key
  | cons entry entries ih =>
      rw [keys_cons, List.pairwise_cons] at hOrder
      unfold insertIndex
      split
      · rename_i hName
        refine List.pairwise_cons.mpr
          ⟨?_, List.pairwise_cons.mpr hOrder⟩
        intro other hOther
        apply precedes_of_index?_eq_none
        rcases List.mem_cons.mp hOther with rfl | hLater
        · exact hName
        · exact (hOrder.1 other hLater).index?_eq_none hName
      · rename_i j hIndex
        split
        · rename_i hBefore
          refine List.pairwise_cons.mpr ⟨?_, ih hOrder.2⟩
          intro other hOther
          have hMember :=
            (keys_insertIndex i key value entries).mem_iff.mp
              hOther
          rcases List.mem_cons.mp hMember with rfl | hLater
          · unfold Precedes
            rw [hIndex, hKey]
            exact Nat.le_of_lt hBefore
          · exact hOrder.1 other hLater
        · rename_i hAfter
          refine List.pairwise_cons.mpr
            ⟨?_, List.pairwise_cons.mpr hOrder⟩
          intro other hOther
          rcases List.mem_cons.mp hOther with rfl | hLater
          · unfold Precedes
            rw [hIndex, hKey]
            exact Nat.le_of_not_lt hAfter
          · exact (hOrder.1 other hLater).trans_index hKey
              hIndex (Nat.le_of_not_lt hAfter)

theorem pairwise_precedes_put
    {entries : Keyed α}
    (hOrder : (keys entries).Pairwise Precedes)
    (key : String)
    (value : α) :
    (keys (put entries key value)).Pairwise Precedes := by
  by_cases hKey : key ∈ keys entries
  · rw [put, if_pos (has_eq_true hKey), keys_replace]
    exact hOrder
  · rw [put, has_eq_false hKey, if_neg (by decide)]
    split
    · rename_i hName
      rw [keys, List.map_append]
      apply List.pairwise_append.mpr
      refine ⟨hOrder, List.pairwise_singleton Precedes key, ?_⟩
      intro other _ last hLast
      rw [List.mem_singleton.mp hLast]
      exact precedes_of_index?_eq_none other hName
    · rename_i i hIndex
      exact pairwise_precedes_insertIndex hOrder hIndex value

/- Whatever arrives, indexes come first, and by value. -/
theorem pairwise_precedes_ofList (pairs : List (String × α)) :
    (keys (ofList pairs)).Pairwise Precedes := by
  have hFold (entries : Keyed α) :
      (keys entries).Pairwise Precedes →
        (keys (pairs.foldl
          (fun entries p => put entries p.1 p.2)
            entries)).Pairwise Precedes := by
    induction pairs generalizing entries with
    | nil => exact id
    | cons pair pairs ih =>
        intro hOrder
        exact ih _ (pairwise_precedes_put hOrder pair.1 pair.2)
  exact hFold [] List.Pairwise.nil

------------------------------------------------------------
-- Ordered Entries
------------------------------------------------------------

/- An index is written in one way. -/
theorem toList_of_index?
    {key : String}
    {i : Nat}
    (hIndex : index? key = some i) :
    key.toList = Number.digits i := by
  unfold index? at hIndex
  simp only at hIndex
  split at hIndex
  · rename_i hKey
    simp only [Bool.and_eq_true, Bool.or_eq_true, bne_iff_ne,
      beq_iff_eq] at hKey
    rw [← Option.some.inj hIndex,
      Number.digits_numeral hKey.1.1 hKey.1.2]
  · cases hIndex

/- An index that precedes another key is smaller. -/
theorem Precedes.exists_lt
    {first second : String}
    (hPrecedes : Precedes first second)
    (hOther : first ≠ second)
    {i : Nat}
    (hSecond : index? second = some i) :
    ∃ j, index? first = some j ∧ j < i := by
  unfold Precedes at hPrecedes
  rw [hSecond] at hPrecedes
  cases hFirst : index? first with
  | none =>
      rw [hFirst] at hPrecedes
      exact hPrecedes.elim
  | some j =>
      rw [hFirst] at hPrecedes
      refine ⟨j, rfl, Nat.lt_of_le_of_ne hPrecedes ?_⟩
      rintro rfl
      apply hOther
      rw [← String.toList_inj, toList_of_index? hFirst,
        toList_of_index? hSecond]

/-
  Entries in the order in which they are shown: each key has
  one place, behind the keys that precede it.
-/
structure IsOrdered (entries : Keyed α) : Prop where
  distinct : (keys entries).Nodup
  inOrder : (keys entries).Pairwise Precedes

theorem isOrdered_nil : IsOrdered ([] : Keyed α) :=
  ⟨List.nodup_nil, List.Pairwise.nil⟩

theorem IsOrdered.put
    {entries : Keyed α}
    (hOrdered : IsOrdered entries)
    (key : String)
    (value : α) :
    IsOrdered (put entries key value) where
  distinct := nodup_keys_put hOrdered.distinct key value
  inOrder := pairwise_precedes_put hOrdered.inOrder key value

/- Only the keys are ordered, with whatever values. -/
theorem IsOrdered.map
    {β : Type}
    {entries : Keyed α}
    (hOrdered : IsOrdered entries)
    (f : α → β) :
    IsOrdered (entries.map fun entry => (entry.1, f entry.2)) := by
  have hKeys :
      keys (entries.map fun entry => (entry.1, f entry.2)) =
        keys entries := by
    rw [keys, keys, List.map_map]
    rfl
  constructor
  · rw [hKeys]
    exact hOrdered.distinct
  · rw [hKeys]
    exact hOrdered.inOrder

theorem insertIndex_eq_append
    {entries : Keyed α}
    {i : Nat}
    (hSmaller :
      ∀ key ∈ keys entries, ∃ j, index? key = some j ∧ j < i)
    (key : String)
    (value : α) :
    insertIndex i key value entries =
      entries ++ [(key, value)] := by
  induction entries with
  | nil => rfl
  | cons entry entries ih =>
      rw [keys_cons, List.forall_mem_cons] at hSmaller
      rcases hSmaller.1 with ⟨j, hIndex, hLt⟩
      rw [insertIndex, hIndex]
      simp only
      rw [if_pos hLt, ih hSmaller.2, List.cons_append]

/- A new key that all others precede goes to the end. -/
theorem put_eq_append_of_precedes
    {entries : Keyed α}
    {key : String}
    (hNew : key ∉ keys entries)
    (hLast : ∀ other ∈ keys entries, Precedes other key)
    (value : α) :
    put entries key value = entries ++ [(key, value)] := by
  cases hIndex : index? key with
  | none => exact put_eq_append hNew hIndex value
  | some i =>
      rw [put, has_eq_false hNew, if_neg (by decide), hIndex]
      apply insertIndex_eq_append
      intro other hMember
      apply (hLast other hMember).exists_lt _ hIndex
      rintro rfl
      exact hNew hMember

theorem foldl_put_eq_append
    {entries pairs : Keyed α}
    (hOrdered : IsOrdered (entries ++ pairs)) :
    pairs.foldl (fun entries p => put entries p.1 p.2)
        entries =
      entries ++ pairs := by
  induction pairs generalizing entries with
  | nil => simp
  | cons pair pairs ih =>
      have hDistinct := hOrdered.distinct
      have hInOrder := hOrdered.inOrder
      rw [keys, List.map_append, List.nodup_append]
        at hDistinct
      rw [keys, List.map_append, List.pairwise_append]
        at hInOrder
      have hPut :
          put entries pair.1 pair.2 = entries ++ [pair] := by
        apply put_eq_append_of_precedes
        · intro hMember
          exact hDistinct.2.2 _ hMember _ List.mem_cons_self rfl
        · intro other hMember
          exact hInOrder.2.2 other hMember _ List.mem_cons_self
      rw [← List.singleton_append, ← List.append_assoc]
        at hOrdered
      rw [List.foldl_cons, hPut, ih hOrdered, List.append_assoc,
        List.singleton_append]

theorem isOrdered_ofList (pairs : List (String × α)) :
    IsOrdered (ofList pairs) where
  distinct := nodup_keys_ofList pairs
  inOrder := pairwise_precedes_ofList pairs

/- Exactly ordered entries are kept as they arrive. -/
theorem ofList_eq_self_iff {pairs : Keyed α} :
    ofList pairs = pairs ↔ IsOrdered pairs := by
  constructor
  · intro hSame
    rw [← hSame]
    exact isOrdered_ofList pairs
  · intro hOrdered
    have hFold :
        pairs.foldl (fun entries p => put entries p.1 p.2) [] =
          [] ++ pairs :=
      foldl_put_eq_append hOrdered
    exact hFold

/- Distinct keys that are no indexes are ordered. -/
theorem isOrdered_of_names
    {entries : Keyed α}
    (hDistinct : (keys entries).Nodup)
    (hNames : ∀ key ∈ keys entries, index? key = none) :
    IsOrdered entries := by
  refine ⟨hDistinct, List.pairwise_of_forall_mem_list ?_⟩
  intro first _ second hSecond
  exact precedes_of_index?_eq_none first (hNames second hSecond)

theorem ofList_eq_self
    {pairs : List (String × α)}
    (hDistinct : (keys pairs).Nodup)
    (hNames : ∀ key ∈ keys pairs, index? key = none) :
    ofList pairs = pairs :=
  ofList_eq_self_iff.mpr (isOrdered_of_names hDistinct hNames)

end Keyed

end KbConsole
