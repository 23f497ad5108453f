import KbConsole.Proofs.Arguments
import KbConsole.Proofs.Number.Count
import KbConsole.Proofs.Parts
import KbConsole.Request.OrderBy
import KbConsole.Request.Schedule

/-
  What is read from a text has no margins and no blank
  parts.

  Key definitions include:
    * `Text.IsTrimmed`
    * `ColumnList.IsProper`, `TableRef.IsProper`
    * `OrderBy.IsProper`, `Schedule.IsProper`

  The main statements are `ColumnList.isProper_of_ofText`,
  `TableRef.isProper_of_ofText`, `OrderBy.isProper_of_ofText`
  and `Schedule.isProper_of_ofText`, and for the readers of
  arguments `Arguments.isTrimmed_of_word` and
  `Arguments.atLeastOne_of_count`.
-/

namespace KbConsole

------------------------------------------------------------
-- Parts of a Text
------------------------------------------------------------

namespace Text

/- A text that is not empty and has no blank margins. -/
structure IsTrimmed (s : String) : Prop where
  notEmpty : s ≠ ""
  trim_eq : trim s = s

instance (s : String) : Decidable (IsTrimmed s) :=
  decidable_of_iff (s ≠ "" ∧ trim s = s)
    ⟨fun h => ⟨h.1, h.2⟩,
      fun h => ⟨h.notEmpty, h.trim_eq⟩⟩

/- Words are not empty and hold no blanks. -/
theorem of_mem_words
    {s word : String}
    (hWord : word ∈ words s) :
    word ≠ "" ∧ ∀ c ∈ word.toList, isBlank c = false := by
  unfold words at hWord
  rcases List.mem_map.mp hWord with ⟨part, hPart, rfl⟩
  rw [List.mem_filter] at hPart
  constructor
  · intro hEmpty
    have hChars := congrArg String.toList hEmpty
    rw [String.toList_ofList] at hChars
    subst hChars
    exact absurd hPart.2 (by decide)
  · intro c hMember
    rw [String.toList_ofList] at hMember
    exact not_of_mem_splitBy hPart.1 hMember

end Text

/- A text has at least one part. -/
theorem trimmedParts_ne_nil (c : Char) (text : String) :
    trimmedParts c text ≠ [] := by
  intro hNone
  unfold trimmedParts Text.splitOn at hNone
  rw [List.map_eq_nil_iff, List.map_eq_nil_iff] at hNone
  exact Text.splitBy_ne_nil text.toList hNone

/- A part has no margins, and no separator in it. -/
theorem of_mem_trimmedParts
    {c : Char}
    {text part : String}
    (hPart : part ∈ trimmedParts c text) :
    Text.trim part = part ∧ c ∉ part.toList := by
  unfold trimmedParts Text.splitOn at hPart
  rw [List.map_map] at hPart
  rcases List.mem_map.mp hPart with ⟨cs, hSplit, rfl⟩
  refine ⟨Text.trim_trim _, ?_⟩
  intro hMember
  rw [Function.comp_apply, Text.trim, String.toList_ofList,
    String.toList_ofList] at hMember
  have hSeparator :=
    Text.not_of_mem_splitBy hSplit
      (Text.mem_of_mem_trimChars hMember)
  exact absurd (beq_self_eq_true c) (by rw [hSeparator]; decide)

------------------------------------------------------------
-- Lists
------------------------------------------------------------

/-
  The entries of a list with commas: there is one, and each
  has a text without margins and without commas.
-/
structure ColumnList.IsProper
    (entries : List String) : Prop where
  notEmpty : entries ≠ []
  trimmed : ∀ entry ∈ entries, Text.IsTrimmed entry
  noComma : ∀ entry ∈ entries, ',' ∉ entry.toList

theorem ColumnList.isProper_of_ofText
    {label text : String}
    {entries : List String}
    (hEntries : ofText label text = .ok entries) :
    IsProper entries := by
  unfold ofText at hEntries
  dsimp only at hEntries
  split at hEntries
  · cases hEntries
  · rename_i hBlank
    obtain rfl := Except.ok.inj hEntries
    constructor
    · exact trimmedParts_ne_nil ',' text
    · intro entry hEntry
      constructor
      · rintro rfl
        exact hBlank (List.contains_iff_mem.mpr hEntry)
      · exact (of_mem_trimmedParts hEntry).1
    · intro entry hEntry
      exact (of_mem_trimmedParts hEntry).2

------------------------------------------------------------
-- Tables
------------------------------------------------------------

namespace TableRef

/- Both parts of a table have a text without margins. -/
structure IsProper (ref : TableRef) : Prop where
  datasource : Text.IsTrimmed ref.datasource
  table : Text.IsTrimmed ref.table

theorem isProper_of_ofText
    {label text : String}
    {ref : TableRef}
    (hRef : ofText label text = .ok ref) :
    ref.IsProper := by
  unfold ofText at hRef
  split at hRef
  · rename_i datasource table hParts
    split at hRef
    · cases hRef
    · rename_i hBlank
      rw [not_or] at hBlank
      obtain rfl := Except.ok.inj hRef
      have hTrimmed
          (part : String)
          (hPart : part ∈ [datasource, table]) :
          Text.trim part = part := by
        rw [← hParts] at hPart
        exact (of_mem_trimmedParts hPart).1
      constructor
      · exact ⟨hBlank.1, hTrimmed datasource (by simp)⟩
      · exact ⟨hBlank.2, hTrimmed table (by simp)⟩
  · cases hRef

theorem isProper_of_listOfTexts
    {label : String}
    {texts : List String}
    {refs : List TableRef}
    (hRefs : listOfTexts label texts = .ok refs) :
    ∀ ref ∈ refs, ref.IsProper := by
  induction texts generalizing refs with
  | nil =>
      obtain rfl := Except.ok.inj hRefs
      exact List.forall_mem_nil _
  | cons text texts ih =>
      simp only [listOfTexts, bind_eq_ok_iff, pure_eq_ok_iff]
        at hRefs
      rcases hRefs with ⟨first, hFirst, others, hOthers, rfl⟩
      rw [List.forall_mem_cons]
      exact ⟨isProper_of_ofText hFirst, ih hOthers⟩

end TableRef

------------------------------------------------------------
-- Sort Orders and Schedules
------------------------------------------------------------

/- The column of a sort order is one word. -/
structure OrderBy.IsProper (order : OrderBy) : Prop where
  notEmpty : order.column ≠ ""
  noBlank :
    ∀ c ∈ order.column.toList, Text.isBlank c = false

theorem OrderBy.isProper_of_ofText
    {text : String}
    {order : OrderBy}
    (hOrder : ofText text = .ok order) :
    order.IsProper := by
  have hColumn : order.column ∈ Text.words text := by
    unfold ofText at hOrder
    split at hOrder
    · rename_i column hWords
      obtain rfl := Except.ok.inj hOrder
      rw [hWords]
      exact List.mem_cons_self
    · rename_i column word hWords
      split at hOrder
      · cases hOrder
      · obtain rfl := Except.ok.inj hOrder
        rw [hWords]
        exact List.mem_cons_self
    · cases hOrder
  rcases Text.of_mem_words hColumn with ⟨hEmpty, hBlank⟩
  exact ⟨hEmpty, hBlank⟩

/- The count of a schedule is at least one if there is one. -/
def Schedule.IsProper (schedule : Schedule) : Prop :=
  ∀ n, schedule.count = some n → n.AtLeastOne

/- A count that is there is written by digits. -/
theorem Schedule.exists_digits
    {words : List String}
    {schedule : Schedule}
    (hSchedule : ofWords? words = some schedule)
    {n : Number}
    (hCount : schedule.count = some n) :
    ∃ digits, n = .ofNumeral digits := by
  unfold ofWords? at hSchedule
  split at hSchedule
  · rcases Option.map_eq_some_iff.mp hSchedule with
      ⟨unit, -, rfl⟩
    cases hCount
  · rename_i count word
    split at hSchedule
    · rcases Option.map_eq_some_iff.mp hSchedule with
        ⟨unit, -, rfl⟩
      exact ⟨count.toList, (Option.some.inj hCount).symm⟩
    · cases hSchedule
  · cases hSchedule

theorem Schedule.isProper_of_ofText
    {text : String}
    {schedule : Schedule}
    (hSchedule : ofText text = .ok schedule) :
    schedule.IsProper := by
  unfold ofText at hSchedule
  split at hSchedule
  · cases hSchedule
  · rename_i found hFound
    split at hSchedule
    · cases hSchedule
    · rename_i hZero
      obtain rfl := Except.ok.inj hSchedule
      intro n hCount
      rcases exists_digits hFound hCount with ⟨digits, rfl⟩
      apply Number.atLeastOne_ofNumeral
      intro hDigits
      apply hZero
      rw [hCount, Number.ofNumeral_of_zero hDigits]

------------------------------------------------------------
-- Arguments
------------------------------------------------------------

namespace Arguments

variable {args : Arguments}
variable {key label : String}

theorem isTrimmed_of_word?
    {word : String}
    (hWord : args.word? key = some word) :
    Text.IsTrimmed word := by
  rcases word?_eq_some_iff.mp hWord with
    ⟨value, -, hVoid, rfl⟩
  constructor
  · intro hEmpty
    rw [Text.trim_eq_empty_iff.mp hEmpty] at hVoid
    cases hVoid
  · exact Text.trim_trim value

theorem isTrimmed_of_word
    {word : String}
    (hWord : args.word key label = .ok word) :
    Text.IsTrimmed word :=
  isTrimmed_of_word? (demand_eq_ok_iff.mp hWord)

theorem isTrimmed_getD
    {default : String}
    (hDefault : Text.IsTrimmed default) :
    Text.IsTrimmed ((args.word? key).getD default) := by
  cases hWord : args.word? key with
  | none => exact hDefault
  | some word => exact isTrimmed_of_word? hWord

theorem isProper_of_list?
    {entries : List String}
    (hList : args.list? key label = .ok (some entries)) :
    ColumnList.IsProper entries := by
  unfold list? at hList
  split at hList
  · cases hList
  · simp only [bind_eq_ok_iff, pure_eq_ok_iff] at hList
    rcases hList with ⟨found, hFound, hSome⟩
    obtain rfl := Option.some.inj hSome
    exact ColumnList.isProper_of_ofText hFound

theorem atLeastOne_of_count
    {fallback : Nat}
    {n : Number}
    (hFallback : 1 ≤ fallback)
    (hCount : args.count key label fallback = .ok n) :
    n.AtLeastOne := by
  unfold count at hCount
  split at hCount
  · obtain rfl := Except.ok.inj hCount
    exact Int.ofNat_le.mpr hFallback
  · split at hCount
    · cases hCount
    · rename_i found hFound
      obtain rfl := Except.ok.inj hCount
      exact Number.atLeastOne_count? hFound

theorem isTrimmed_of_objectRef
    {ref : ObjectRef}
    (hRef : args.objectRef key label = .ok ref) :
    Text.IsTrimmed ref.name := by
  simp only [objectRef, bind_eq_ok_iff, pure_eq_ok_iff] at hRef
  rcases hRef with ⟨name, hName, rfl⟩
  exact isTrimmed_of_word hName

end Arguments

end KbConsole
