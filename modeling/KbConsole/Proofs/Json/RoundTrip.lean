import KbConsole.Proofs.Json.Integer
import KbConsole.Proofs.Json.Text
import KbConsole.Proofs.Keyed

/-
  JSON values are read back as they were written, compact or
  indented.

  Both ways of writing a value are one, up to the blanks
  between its parts.

  Key definitions include:
    * `Json.Spacing`
    * `Json.spaced`
    * `Json.IsExact`

  The main statements are `Json.parse?_print` and
  `Json.parse?_printIndented`. What else is read, the keys
  of an object are distinct (`Json.nodup_keys_of_parse?`).
-/

namespace KbConsole

namespace Json

------------------------------------------------------------
-- Spacing
------------------------------------------------------------

/- Characters that a reader skips. -/
def IsGap (cs : List Char) : Prop :=
  ∀ c ∈ cs, isSpace c = true

/- The blanks before items of a depth, and after colons. -/
structure Spacing where
  gap : Nat → List Char
  colon : List Char
  isGap_gap : ∀ depth, IsGap (gap depth)
  isGap_colon : IsGap colon

/- The text of a value with blanks between its parts. -/
mutual

def spaced (s : Spacing) (depth : Nat) : Json → List Char
  | null => "null".toList
  | bool value => boolChars value
  | number value => numberChars value
  | text value => quoteChars value
  | array [] => ['[', ']']
  | array (item :: items) =>
      '[' :: (s.gap (depth + 1) ++
        (spaced s (depth + 1) item ++
          spacedRest s depth items))
  | object [] => ['{', '}']
  | object ((key, value) :: members) =>
      '{' :: (s.gap (depth + 1) ++
        (quoteChars key ++ ':' :: (s.colon ++
          (spaced s (depth + 1) value ++
            spacedMembers s depth members))))

/- The items after the first, and the closing bracket. -/
def spacedRest (s : Spacing) (depth : Nat) :
    List Json → List Char
  | [] => s.gap depth ++ [']']
  | item :: items =>
      ',' :: (s.gap (depth + 1) ++
        (spaced s (depth + 1) item ++
          spacedRest s depth items))

/- The members after the first, and the closing brace. -/
def spacedMembers (s : Spacing) (depth : Nat) :
    List (String × Json) → List Char
  | [] => s.gap depth ++ ['}']
  | (key, value) :: members =>
      ',' :: (s.gap (depth + 1) ++
        (quoteChars key ++ ':' :: (s.colon ++
          (spaced s (depth + 1) value ++
            spacedMembers s depth members))))

end

namespace Spacing

/- No blanks at all. -/
def compact : Spacing where
  gap _ := []
  colon := []
  isGap_gap _ _ hMember := by cases hMember
  isGap_colon _ hMember := by cases hMember

/- Every item and member on a line of its own. -/
def indented : Spacing where
  gap := lineBreak
  colon := [' ']
  isGap_gap depth c hMember := by
    rw [lineBreak, List.mem_cons, List.mem_replicate]
      at hMember
    rcases hMember with rfl | ⟨_, rfl⟩
    · decide
    · decide
  isGap_colon c hMember := by
    rcases List.mem_singleton.mp hMember with rfl
    decide

end Spacing

mutual

theorem spaced_compact (depth : Nat) :
    ∀ value : Json,
      spaced .compact depth value = value.chars
  | null => rfl
  | bool _ => rfl
  | number _ => rfl
  | text _ => rfl
  | array [] => rfl
  | array (item :: items) => by
      rw [spaced, chars, spaced_compact (depth + 1) item,
        spacedRest_compact depth items]
      rfl
  | object [] => rfl
  | object ((key, value) :: members) => by
      rw [spaced, chars, spaced_compact (depth + 1) value,
        spacedMembers_compact depth members]
      rfl

theorem spacedRest_compact (depth : Nat) :
    ∀ items : List Json,
      spacedRest .compact depth items = restChars items
  | [] => rfl
  | item :: items => by
      rw [spacedRest, restChars,
        spaced_compact (depth + 1) item,
        spacedRest_compact depth items]
      rfl

theorem spacedMembers_compact (depth : Nat) :
    ∀ members : List (String × Json),
      spacedMembers .compact depth members =
        restMembers members
  | [] => rfl
  | (key, value) :: members => by
      rw [spacedMembers, restMembers,
        spaced_compact (depth + 1) value,
        spacedMembers_compact depth members]
      rfl

end

mutual

theorem spaced_indented (depth : Nat) :
    ∀ value : Json,
      spaced .indented depth value =
        value.indentedChars depth
  | null => rfl
  | bool _ => rfl
  | number _ => rfl
  | text _ => rfl
  | array [] => rfl
  | array (item :: items) => by
      rw [spaced, indentedChars,
        spaced_indented (depth + 1) item,
        spacedRest_indented depth items]
      rfl
  | object [] => rfl
  | object ((key, value) :: members) => by
      rw [spaced, indentedChars,
        spaced_indented (depth + 1) value,
        spacedMembers_indented depth members]
      rfl

theorem spacedRest_indented (depth : Nat) :
    ∀ items : List Json,
      spacedRest .indented depth items =
        indentedRest depth items
  | [] => rfl
  | item :: items => by
      rw [spacedRest, indentedRest,
        spaced_indented (depth + 1) item,
        spacedRest_indented depth items]
      rfl

theorem spacedMembers_indented (depth : Nat) :
    ∀ members : List (String × Json),
      spacedMembers .indented depth members =
        indentedRestMembers depth members
  | [] => rfl
  | (key, value) :: members => by
      rw [spacedMembers, indentedRestMembers,
        spaced_indented (depth + 1) value,
        spacedMembers_indented depth members]
      rfl

end

------------------------------------------------------------
-- Exact Values
------------------------------------------------------------

/-
  A value that JSON text can hold exactly: its numbers are
  exact integers, and its objects show their members in
  the order in which a reader would keep them.
-/
mutual

def IsExact : Json → Prop
  | null => True
  | bool _ => True
  | number n =>
      ∃ value : Int,
        n = .integer value ∧
          value.natAbs ≤ Number.largestExact
  | text _ => True
  | array items => AreExact items
  | object members =>
      Keyed.ofList members = members ∧
        MembersExact members

def AreExact : List Json → Prop
  | [] => True
  | item :: items => IsExact item ∧ AreExact items

def MembersExact : List (String × Json) → Prop
  | [] => True
  | (_, value) :: members =>
      IsExact value ∧ MembersExact members

end

theorem areExact_iff {items : List Json} :
    AreExact items ↔ ∀ item ∈ items, item.IsExact := by
  induction items with
  | nil => simp [AreExact]
  | cons item items ih =>
      rw [AreExact, ih, List.forall_mem_cons]

theorem membersExact_iff {members : List (String × Json)} :
    MembersExact members ↔
      ∀ entry ∈ members, entry.2.IsExact := by
  induction members with
  | nil => simp [MembersExact]
  | cons entry members ih =>
      rw [MembersExact, ih, List.forall_mem_cons]

/- An object is exact if its keys are in their order. -/
theorem isExact_object_iff {members : List (String × Json)} :
    (object members).IsExact ↔
      Keyed.IsOrdered members ∧
        ∀ entry ∈ members, entry.2.IsExact := by
  rw [IsExact, Keyed.ofList_eq_self_iff, membersExact_iff]

/- The names of members may be in any order. -/
theorem isExact_object
    {members : List (String × Json)}
    (names : List String)
    (hKeys : Keyed.keys members = names)
    (hDistinct : names.Nodup)
    (hNames : ∀ key ∈ names, Keyed.index? key = none)
    (hValues : ∀ entry ∈ members, entry.2.IsExact) :
    (object members).IsExact := by
  subst hKeys
  rw [isExact_object_iff]
  exact ⟨Keyed.isOrdered_of_names hDistinct hNames, hValues⟩

------------------------------------------------------------
-- First Characters
------------------------------------------------------------

theorem isGap_nil : IsGap [] := by
  intro c hMember
  cases hMember

theorem skip_gap
    {gap cs : List Char}
    (hGap : IsGap gap)
    (hHead : ∀ c ∈ cs.head?, isSpace c = false) :
    skip (gap ++ cs) = cs := by
  rw [skip, List.dropWhile_append_of_pos hGap]
  cases cs with
  | nil => rfl
  | cons c cs =>
      rw [List.dropWhile_cons_of_neg (by simp [hHead c rfl])]

/- A number begins with a digit or a minus sign. -/
theorem exists_cons_integer (value : Int) :
    ∃ c cs,
      (Number.integer value).chars = c :: cs ∧
        (c.isDigit = true ∨ c = '-') := by
  rcases Number.exists_cons_digits value.natAbs with
    ⟨c, cs, hCons⟩
  rw [Number.chars]
  split
  · exact ⟨'-', _, rfl, Or.inr rfl⟩
  · refine ⟨c, cs, hCons, Or.inl ?_⟩
    exact Number.isDigit_of_mem_digits
      (hCons ▸ List.mem_cons_self)

/- Whether a character can begin what is no number. -/
def beginsOther (c : Char) : Bool :=
  isSpace c || ['"', '[', ']', '\x7b', 'n', 't', 'f'].contains c

theorem beginsOther_of_number
    {c : Char}
    (hFirst : c.isDigit = true ∨ c = '-') :
    beginsOther c = false := by
  rcases hFirst with hDigit | rfl
  · simp only [beginsOther, isSpace, Bool.or_eq_false_iff,
      beq_eq_false_iff_ne, List.contains_eq_mem,
      decide_eq_false_iff_not, List.mem_cons, not_or,
      List.not_mem_nil, not_false_eq_true, and_true]
    refine ⟨⟨⟨⟨?_, ?_⟩, ?_⟩, ?_⟩, ?_, ?_, ?_, ?_, ?_, ?_, ?_⟩ <;>
    · rintro rfl
      exact absurd hDigit (by decide)
  · decide

/- A value begins with no blank and no closing bracket. -/
theorem exists_cons_spaced
    (s : Spacing)
    (depth : Nat)
    {value : Json}
    (hExact : value.IsExact) :
    ∃ c cs,
      spaced s depth value = c :: cs ∧
        isSpace c = false ∧ c ≠ ']' := by
  cases value with
  | null => exact ⟨'n', _, rfl, by decide, by decide⟩
  | bool value =>
      cases value with
      | true => exact ⟨'t', _, rfl, by decide, by decide⟩
      | false => exact ⟨'f', _, rfl, by decide, by decide⟩
  | number n =>
      rcases hExact with ⟨value, rfl, _⟩
      rcases exists_cons_integer value with
        ⟨c, cs, hCons, hFirst⟩
      have hOther := beginsOther_of_number hFirst
      rw [beginsOther, Bool.or_eq_false_iff] at hOther
      refine ⟨c, cs, hCons, hOther.1, ?_⟩
      rintro rfl
      exact absurd hOther.2 (by decide)
  | text value => exact ⟨'"', _, rfl, by decide, by decide⟩
  | array items =>
      cases items with
      | nil => exact ⟨'[', _, rfl, by decide, by decide⟩
      | cons item items =>
          exact ⟨'[', _, rfl, by decide, by decide⟩
  | object members =>
      cases members with
      | nil => exact ⟨'\x7b', _, rfl, by decide, by decide⟩
      | cons entry members =>
          exact ⟨'\x7b', _, rfl, by decide, by decide⟩

------------------------------------------------------------
-- One Step of Reading
------------------------------------------------------------

section Steps

variable
  {gap cs rest : List Char}
  {depth : Nat}

theorem readValue_number
    {value : Int}
    (hGap : IsGap gap)
    (hExact : value.natAbs ≤ Number.largestExact)
    (hEnds : EndsNumber rest) :
    readValue (depth + 1)
        (gap ++ ((Number.integer value).chars ++ rest)) =
      some (.number (.integer value), rest) := by
  have hRead := readNumber_integer hExact hEnds
  rcases exists_cons_integer value with
    ⟨c, cs, hCons, hFirst⟩
  rw [hCons, List.cons_append] at hRead ⊢
  have hOther := beginsOther_of_number hFirst
  rw [beginsOther, Bool.or_eq_false_iff] at hOther
  rw [readValue, skip_gap hGap (by simpa using hOther.1)]
  split
  all_goals simp_all

/-
  Blanks before a value are skipped. The laws below rest on
  this one, so that a value is only opened here.
-/
theorem readValue_gap
    (hGap : IsGap gap)
    (hHead : ∀ c ∈ cs.head?, isSpace c = false) :
    readValue (depth + 1) (gap ++ cs) =
      readValue (depth + 1) cs := by
  have hSelf : skip cs = cs := skip_gap isGap_nil hHead
  rw [readValue, readValue, skip_gap hGap hHead, hSelf]

/- What follows the opening quote of a text. -/
theorem readValue_quote (cs : List Char) :
    readValue (depth + 1) ('"' :: cs) =
      (readString cs).bind fun read =>
        some (.text read.1, read.2) :=
  rfl

theorem readValue_text
    (hGap : IsGap gap)
    (value : String) :
    readValue (depth + 1) (gap ++ (quoteChars value ++ rest)) =
      some (.text value, rest) := by
  rw [readValue_gap hGap (by simp [quoteChars, isSpace])]
  simp only [quoteChars, List.cons_append, List.append_assoc,
    List.nil_append, readValue_quote, readString_escapeChars,
    Option.bind_some]

theorem readValue_bool
    (hGap : IsGap gap)
    (value : Bool) :
    readValue (depth + 1) (gap ++ (boolChars value ++ rest)) =
      some (.bool value, rest) := by
  cases value with
  | true =>
      rw [readValue_gap hGap (by simp [boolChars, isSpace])]
      rfl
  | false =>
      rw [readValue_gap hGap (by simp [boolChars, isSpace])]
      rfl

theorem readValue_null (hGap : IsGap gap) :
    readValue (depth + 1) (gap ++ ("null".toList ++ rest)) =
      some (.null, rest) := by
  rw [readValue_gap hGap (by simp [isSpace])]
  rfl

theorem readValue_noItems (hGap : IsGap gap) :
    readValue (depth + 1) (gap ++ '[' :: ']' :: rest) =
      some (.array [], rest) := by
  rw [readValue_gap hGap (by simp [isSpace])]
  rfl

theorem readValue_noMembers (hGap : IsGap gap) :
    readValue (depth + 1)
        (gap ++ '\x7b' :: '\x7d' :: rest) =
      some (.object [], rest) := by
  rw [readValue_gap hGap (by simp [isSpace])]
  rfl

/- What follows the opening bracket of an array. -/
theorem readValue_bracket (cs : List Char) :
    readValue (depth + 1) ('[' :: cs) =
      match skip cs with
      | ']' :: rest => some (.array [], rest)
      | cs =>
          (readItems depth cs).bind fun read =>
            some (.array read.1, read.2) :=
  rfl

/- What follows the opening brace of an object. -/
theorem readValue_brace (cs : List Char) :
    readValue (depth + 1) ('\x7b' :: cs) =
      match skip cs with
      | '\x7d' :: rest => some (.object [], rest)
      | cs =>
          (readMembers depth cs).bind fun read =>
            some (.object (Keyed.ofList read.1), read.2) :=
  rfl

/- An array whose first item begins with the character. -/
theorem readValue_array
    {c : Char}
    {gap' : List Char}
    {items : List Json}
    (hGap : IsGap gap)
    (hGap' : IsGap gap')
    (hSpace : isSpace c = false)
    (hFirst : c ≠ ']')
    (hItems : readItems depth (c :: cs) = some (items, rest)) :
    readValue (depth + 1) (gap ++ '[' :: (gap' ++ c :: cs)) =
      some (.array items, rest) := by
  rw [readValue_gap hGap (by simp [isSpace]),
    readValue_bracket, skip_gap hGap' (by simpa using hSpace)]
  split
  · rename_i hEq
    exact absurd (List.cons.inj hEq).1 hFirst
  · rw [hItems]
    rfl

theorem readValue_object
    {gap' : List Char}
    {members : List (String × Json)}
    (hGap : IsGap gap)
    (hGap' : IsGap gap')
    (hKept : Keyed.ofList members = members)
    (hMembers :
      readMembers depth ('"' :: cs) = some (members, rest)) :
    readValue (depth + 1)
        (gap ++ '\x7b' :: (gap' ++ '"' :: cs)) =
      some (.object members, rest) := by
  rw [readValue_gap hGap (by simp [isSpace]),
    readValue_brace, skip_gap hGap' (by simp [isSpace])]
  split
  · rename_i hEq
    exact absurd (List.cons.inj hEq).1 (by decide)
  · rw [hMembers]
    simp only [Option.bind_some, hKept]

theorem readItems_last
    {item : Json}
    (hGap : IsGap gap)
    (hItem :
      readValue depth cs = some (item, gap ++ ']' :: rest)) :
    readItems (depth + 1) cs = some ([item], rest) := by
  rw [readItems, hItem]
  simp only [Option.bind_eq_bind, Option.bind_some]
  rw [skip_gap hGap (by simp [isSpace])]
  rfl

theorem readItems_next
    {after : List Char}
    {item : Json}
    {items : List Json}
    (hItem : readValue depth cs = some (item, ',' :: after))
    (hItems : readItems depth after = some (items, rest)) :
    readItems (depth + 1) cs = some (item :: items, rest) := by
  rw [readItems, hItem]
  have hComma : skip (',' :: after) = ',' :: after := rfl
  simp only [Option.bind_eq_bind, Option.bind_some, hComma,
    hItems, Option.pure_def]

theorem readMembers_last
    {gap' : List Char}
    {key : String}
    {value : Json}
    (hGap : IsGap gap)
    (hGap' : IsGap gap')
    (hValue :
      readValue depth cs =
        some (value, gap' ++ '\x7d' :: rest)) :
    readMembers (depth + 1)
        (gap ++ (quoteChars key ++ ':' :: cs)) =
      some ([(key, value)], rest) := by
  rw [readMembers, skip_gap hGap
    (by simp [quoteChars, isSpace])]
  have hColon : skip (':' :: cs) = ':' :: cs := rfl
  simp only [quoteChars, List.cons_append, List.append_assoc,
    List.nil_append, readString_escapeChars,
    Option.bind_eq_bind, Option.bind_some, hColon, hValue]
  rw [skip_gap hGap' (by simp [isSpace])]
  rfl

theorem readMembers_next
    {after : List Char}
    {key : String}
    {value : Json}
    {members : List (String × Json)}
    (hGap : IsGap gap)
    (hValue : readValue depth cs = some (value, ',' :: after))
    (hMembers :
      readMembers depth after = some (members, rest)) :
    readMembers (depth + 1)
        (gap ++ (quoteChars key ++ ':' :: cs)) =
      some ((key, value) :: members, rest) := by
  rw [readMembers, skip_gap hGap
    (by simp [quoteChars, isSpace])]
  have hColon : skip (':' :: cs) = ':' :: cs := rfl
  have hComma : skip (',' :: after) = ',' :: after := rfl
  simp only [quoteChars, List.cons_append, List.append_assoc,
    List.nil_append, readString_escapeChars,
    Option.bind_eq_bind, Option.bind_some, hColon, hValue,
    hComma, hMembers, Option.pure_def]

end Steps

------------------------------------------------------------
-- Reading What Was Written
------------------------------------------------------------

/- Blanks and what ends an item end a number. -/
theorem endsNumber_gap
    {gap : List Char}
    {c : Char}
    (hGap : IsGap gap)
    (hEnds : EndsNumber [c])
    (rest : List Char) :
    EndsNumber (gap ++ c :: rest) := by
  cases gap with
  | nil => exact hEnds
  | cons first gap =>
      intro c' hHead
      obtain rfl : first = c' := by simpa using hHead
      have hSpace := hGap first List.mem_cons_self
      refine ⟨?_, ?_, ?_, ?_⟩
      · by_contra hDigit
        have hOther :=
          beginsOther_of_number
            (Or.inl (Bool.eq_true_of_not_eq_false hDigit))
        rw [beginsOther, hSpace] at hOther
        cases hOther
      all_goals
        rintro rfl
        exact absurd hSpace (by decide)

theorem length_spacedRest_pos
    (s : Spacing)
    (depth : Nat)
    (items : List Json) :
    0 < (spacedRest s depth items).length := by
  cases items <;> simp [spacedRest]

theorem length_spacedMembers_pos
    (s : Spacing)
    (depth : Nat)
    (members : List (String × Json)) :
    0 < (spacedMembers s depth members).length := by
  cases members <;> simp [spacedMembers]

section Bounds

variable
  {s : Spacing}
  {bound : Nat}

/-
  The bound lets values be read back: it exceeds twice the
  length of their text.
-/
def ReadsValues (s : Spacing) (bound : Nat) : Prop :=
  ∀ value depth gap rest,
    IsExact value → IsGap gap → EndsNumber rest →
      2 * (spaced s depth value).length < bound →
        readValue bound (gap ++ (spaced s depth value ++ rest)) =
          some (value, rest)

/- The bound lets the items of arrays be read back. -/
def ReadsItems (s : Spacing) (bound : Nat) : Prop :=
  ∀ item items depth gap rest,
    IsExact item → AreExact items → IsGap gap →
      2 * ((spaced s (depth + 1) item).length +
        (spacedRest s depth items).length) ≤ bound →
        readItems bound
            (gap ++ (spaced s (depth + 1) item ++
              (spacedRest s depth items ++ rest))) =
          some (item :: items, rest)

/- The bound lets the members of objects be read back. -/
def ReadsMembers (s : Spacing) (bound : Nat) : Prop :=
  ∀ key value members depth gap rest,
    IsExact value → MembersExact members → IsGap gap →
      2 * ((spaced s (depth + 1) value).length +
        (spacedMembers s depth members).length) ≤ bound →
        readMembers bound
            (gap ++ (quoteChars key ++ ':' :: (s.colon ++
              (spaced s (depth + 1) value ++
                (spacedMembers s depth members ++ rest))))) =
          some ((key, value) :: members, rest)

theorem readsValues_succ
    (hItems : ReadsItems s bound)
    (hMembers : ReadsMembers s bound) :
    ReadsValues s (bound + 1) := by
  intro value depth gap rest hExact hGap hEnds hBound
  cases value with
  | null => exact readValue_null hGap
  | bool value => exact readValue_bool hGap value
  | number n =>
      rcases hExact with ⟨value, rfl, hSmall⟩
      exact readValue_number hGap hSmall hEnds
  | text value => exact readValue_text hGap value
  | array items =>
      cases items with
      | nil => exact readValue_noItems hGap
      | cons item items =>
          have hRead :=
            hItems item items depth [] rest hExact.1 hExact.2
              isGap_nil (by simp [spaced] at hBound; omega)
          rcases exists_cons_spaced s (depth + 1) hExact.1 with
            ⟨c, cs, hCons, hSpace, hFirst⟩
          simp only [spaced, hCons, List.cons_append,
            List.append_assoc, List.nil_append] at hRead ⊢
          exact readValue_array hGap
            (s.isGap_gap (depth + 1)) hSpace hFirst hRead
  | object members =>
      cases members with
      | nil => exact readValue_noMembers hGap
      | cons entry members =>
          rcases hExact with ⟨hKept, hValue, hRest⟩
          have hRead :=
            hMembers entry.1 entry.2 members depth [] rest
              hValue hRest isGap_nil
              (by simp [spaced] at hBound; omega)
          simp only [spaced, quoteChars, List.cons_append,
            List.append_assoc, List.nil_append] at hRead ⊢
          exact readValue_object hGap
            (s.isGap_gap (depth + 1)) hKept hRead

theorem readsItems_succ
    (hValues : ReadsValues s bound)
    (hItems : ReadsItems s bound) :
    ReadsItems s (bound + 1) := by
  intro item items depth gap rest hItem hExact hGap hBound
  cases items with
  | nil =>
      have hRead :=
        hValues item (depth + 1) gap
          (s.gap depth ++ ']' :: rest) hItem hGap
          (endsNumber_gap (s.isGap_gap depth)
            (by simp [EndsNumber]) rest)
          (by simp [spacedRest] at hBound; omega)
      simp only [spacedRest, List.append_assoc,
        List.cons_append, List.nil_append]
      exact readItems_last (s.isGap_gap depth) hRead
  | cons next items =>
      have hRead :=
        hItems next items depth (s.gap (depth + 1)) rest
          hExact.1 hExact.2 (s.isGap_gap (depth + 1))
          (by simp [spacedRest] at hBound; omega)
      simp only [spacedRest, List.append_assoc,
        List.cons_append]
      refine readItems_next (hValues item (depth + 1) gap _
        hItem hGap ?_ ?_) hRead
      · simp [EndsNumber]
      · simp [spacedRest] at hBound
        omega

theorem readsMembers_succ
    (hValues : ReadsValues s bound)
    (hMembers : ReadsMembers s bound) :
    ReadsMembers s (bound + 1) := by
  intro key value members depth gap rest hValue hExact hGap
    hBound
  cases members with
  | nil =>
      have hRead :=
        hValues value (depth + 1) s.colon
          (s.gap depth ++ '\x7d' :: rest) hValue s.isGap_colon
          (endsNumber_gap (s.isGap_gap depth)
            (by simp [EndsNumber]) rest)
          (by simp [spacedMembers] at hBound; omega)
      simp only [spacedMembers, List.append_assoc,
        List.cons_append, List.nil_append]
      exact readMembers_last hGap (s.isGap_gap depth) hRead
  | cons entry members =>
      have hRead :=
        hMembers entry.1 entry.2 members depth
          (s.gap (depth + 1)) rest hExact.1 hExact.2
          (s.isGap_gap (depth + 1))
          (by simp [spacedMembers] at hBound; omega)
      simp only [spacedMembers, List.append_assoc,
        List.cons_append]
      refine readMembers_next hGap
        (hValues value (depth + 1) s.colon _ hValue
          s.isGap_colon ?_ ?_) hRead
      · simp [EndsNumber]
      · simp [spacedMembers] at hBound
        omega

/-
  By induction on the bound. A call takes one off it, and
  at least one character is read between two calls that go
  on with the same list.
-/
theorem reads_spaced (s : Spacing) (bound : Nat) :
    ReadsValues s bound ∧ ReadsItems s bound ∧
      ReadsMembers s bound := by
  induction bound with
  | zero =>
      refine ⟨?_, ?_, ?_⟩
      · intro value depth gap rest _ _ _ hBound
        omega
      · intro item items depth gap rest _ _ _ hBound
        have hRest := length_spacedRest_pos s depth items
        omega
      · intro key value members depth gap rest _ _ _ hBound
        have hRest :=
          length_spacedMembers_pos s depth members
        omega
  | succ bound ih =>
      rcases ih with ⟨hValues, hItems, hMembers⟩
      exact ⟨readsValues_succ hItems hMembers,
        readsItems_succ hValues hItems,
        readsMembers_succ hValues hMembers⟩

end Bounds

theorem parse?_spaced
    (s : Spacing)
    (depth : Nat)
    {value : Json}
    (hExact : value.IsExact) :
    parse? (String.ofList (spaced s depth value)) =
      some value := by
  have hEnds : EndsNumber [] := by simp [EndsNumber]
  have hRead :=
    (reads_spaced s
      (2 * (spaced s depth value).length + 2)).1
        value depth [] [] hExact isGap_nil hEnds (by omega)
  rw [List.nil_append, List.append_nil] at hRead
  rw [parse?]
  simp only [String.toList_ofList, hRead,
    Option.bind_eq_bind, Option.bind_some]
  rfl

/- A value is read back from its compact text. -/
theorem parse?_print
    {value : Json}
    (hExact : value.IsExact) :
    parse? value.print = some value := by
  rw [print, ← spaced_compact 0 value]
  exact parse?_spaced .compact 0 hExact

/- A value is read back from its indented text. -/
theorem parse?_printIndented
    {value : Json}
    (hExact : value.IsExact) :
    parse? value.printIndented = some value := by
  rw [printIndented, ← spaced_indented 0 value]
  exact parse?_spaced .indented 0 hExact

------------------------------------------------------------
-- Distinct Keys
------------------------------------------------------------

/- Only an object is read as one, and its members are kept. -/
theorem exists_ofList_of_readValue
    {bound : Nat}
    {cs rest : List Char}
    {members : List (String × Json)}
    (hRead :
      readValue bound cs = some (object members, rest)) :
    ∃ pairs, members = Keyed.ofList pairs := by
  cases bound with
  | zero => cases hRead
  | succ bound =>
      unfold readValue at hRead
      simp only [Option.bind_eq_bind] at hRead
      split at hRead
      · rcases Option.bind_eq_some_iff.mp hRead with
          ⟨_, _, hText⟩
        cases hText
      · split at hRead
        · cases hRead
        · rcases Option.bind_eq_some_iff.mp hRead with
            ⟨_, _, hArray⟩
          cases hArray
      · split at hRead
        · cases hRead
          exact ⟨[], rfl⟩
        · rcases Option.bind_eq_some_iff.mp hRead with
            ⟨⟨pairs, _⟩, _, hObject⟩
          cases hObject
          exact ⟨pairs, rfl⟩
      · cases hRead
      · cases hRead
      · cases hRead
      · rcases Option.bind_eq_some_iff.mp hRead with
          ⟨_, _, hNumber⟩
        cases hNumber

theorem exists_ofList_of_parse?
    {s : String}
    {members : List (String × Json)}
    (hParse : parse? s = some (object members)) :
    ∃ pairs, members = Keyed.ofList pairs := by
  simp only [parse?, Option.bind_eq_bind,
    Option.bind_eq_some_iff] at hParse
  rcases hParse with ⟨⟨value, rest⟩, hRead, hEnd⟩
  split at hEnd
  · obtain rfl := Option.some.inj hEnd
    exact exists_ofList_of_readValue hRead
  · cases hEnd

/- The members of an object that is read have distinct keys. -/
theorem nodup_keys_of_parse?
    {s : String}
    {members : List (String × Json)}
    (hParse : parse? s = some (object members)) :
    (Keyed.keys members).Nodup := by
  rcases exists_ofList_of_parse? hParse with ⟨pairs, rfl⟩
  exact Keyed.nodup_keys_ofList pairs

/- They are in order: indexes first, by value. -/
theorem pairwise_precedes_of_parse?
    {s : String}
    {members : List (String × Json)}
    (hParse : parse? s = some (object members)) :
    (Keyed.keys members).Pairwise Keyed.Precedes := by
  rcases exists_ofList_of_parse? hParse with ⟨pairs, rfl⟩
  exact Keyed.pairwise_precedes_ofList pairs

end Json

end KbConsole
