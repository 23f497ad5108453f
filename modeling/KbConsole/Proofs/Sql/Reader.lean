import KbConsole.Proofs.Characters
import KbConsole.Sql.Statement

/-
  Searches, and lists of texts, as their readers take them
  apart.

  A reader goes from left to right and knows nothing of the
  request. A word ends at a space or at the terminator. A
  text begins with a quote and ends at the first quote that
  is not doubled; where backslashes escape, a backslash
  stands for the character after it. The texts of a list
  have a comma and a space between them.

  Key definitions include:
    * `Sql.readWord`, `Sql.readText`
    * `Sql.readList`
    * `Sql.Operand`, `Sql.readOperand`
    * `Sql.ConditionReading`, `Sql.readCondition`
    * `Sql.SearchReading`, `Sql.readSearch?`

  The main statements are `Sql.readList_quotedList`, and
  `Sql.readSearch?_text`: the reader of a search finds its
  knowledge base, its text, each of its conditions and its
  limit.
-/

namespace KbConsole

namespace Text

theorem after?_append (start cs : List Char) :
    after? start (start ++ cs) = some cs := by
  induction start with
  | nil => cases cs <;> rfl
  | cons c start ih =>
      rw [List.cons_append, after?]
      simpa using ih

theorem after?_cons_ne
    {a c : Char}
    (hNe : a ≠ c)
    (start cs : List Char) :
    after? (a :: start) (c :: cs) = none := by
  rw [after?, beq_eq_false_iff_ne.mpr hNe, if_neg (by simp)]

end Text

namespace Sql

------------------------------------------------------------
-- Words
------------------------------------------------------------

/- A word goes on up to a space or the terminator. -/
def isWordChar (c : Char) : Bool :=
  c != ' ' && c != ';'

/- The word in front, and what follows it. -/
def readWord (cs : List Char) : String × List Char :=
  (String.ofList (cs.takeWhile isWordChar),
    cs.dropWhile isWordChar)

/- A text that is a single word. -/
def IsWord (s : String) : Prop :=
  ∀ c ∈ s.toList, isWordChar c = true

instance (s : String) : Decidable (IsWord s) :=
  List.decidableBAll (isWordChar · = true) s.toList

/- What follows does not continue a word. -/
def EndsWord (rest : List Char) : Prop :=
  ∀ c ∈ rest.head?, isWordChar c = false

theorem endsWord_space (rest : List Char) :
    EndsWord (' ' :: rest) := by
  rintro c ⟨⟩
  rfl

theorem endsWord_terminator (rest : List Char) :
    EndsWord (';' :: rest) := by
  rintro c ⟨⟩
  rfl

theorem readWord_append
    {word : String}
    (hWord : IsWord word)
    {rest : List Char}
    (hEnds : EndsWord rest) :
    readWord (word.toList ++ rest) = (word, rest) := by
  rw [readWord, List.takeWhile_append_of_pos hWord,
    List.dropWhile_append_of_pos hWord]
  cases rest with
  | nil => simp
  | cons c rest =>
      have hStop : isWordChar c = false := hEnds c rfl
      simp [hStop]

theorem isWord_name (name : Identifier) :
    IsWord name.text := by
  intro c hMember
  have hSpace : c ≠ ' ' :=
    Identifier.ne_of_mem hMember rfl (by decide)
  have hTerminator : c ≠ ';' :=
    Identifier.ne_of_mem hMember rfl (by decide)
  simp [isWordChar, hSpace, hTerminator]

theorem isWord_number
    {n : Number}
    (hFinite : n.isFinite = true) :
    IsWord n.text := by
  intro c hMember
  rw [Number.text, String.toList_ofList] at hMember
  have hNumber :=
    Number.isNumberChar_of_mem_chars hFinite hMember
  by_cases hSpace : c = ' '
  · rw [hSpace] at hNumber
    cases hNumber
  by_cases hTerminator : c = ';'
  · rw [hTerminator] at hNumber
    cases hNumber
  simp [isWordChar, hSpace, hTerminator]

------------------------------------------------------------
-- Texts
------------------------------------------------------------

/- Put a character before a text that was read. -/
def withChar
    (c : Char)
    (read : List Char × List Char) :
    List Char × List Char :=
  (c :: read.1, read.2)

/- The characters of a text, after its opening quote. -/
def readText (d : Dialect) :
    List Char → Option (List Char × List Char)
  | [] => none
  | [c] => if c = '\'' then some ([], []) else none
  | c :: next :: cs =>
      if c = '\'' then
        if next = '\'' then
          (readText d cs).map (withChar '\'')
        else
          some ([], next :: cs)
      else if c = '\\' ∧ d.escapesBackslash then
        (readText d cs).map (withChar next)
      else
        (readText d (next :: cs)).map (withChar c)

variable {d : Dialect}

/- A quote that no quote follows ends a text. -/
theorem readText_quote
    {rest : List Char}
    (hLone : rest.head? ≠ some '\'') :
    readText d ('\'' :: rest) = some ([], rest) := by
  cases rest with
  | nil => rfl
  | cons next rest =>
      have hNext : next ≠ '\'' := by
        intro hEq
        exact hLone (congrArg some hEq)
      rw [readText, if_pos rfl, if_neg hNext]

/- A character that is no escape stands for itself. -/
theorem readText_plain
    {c : Char}
    (hQuote : c ≠ '\'')
    (hBackslash : ¬(c = '\\' ∧ d.escapesBackslash))
    (rest : List Char) :
    readText d (c :: rest) =
      (readText d rest).map (withChar c) := by
  cases rest with
  | nil => simp [readText, hQuote]
  | cons next rest =>
      rw [readText, if_neg hQuote, if_neg hBackslash]

theorem readText_escapeChar
    (c : Char)
    (rest : List Char) :
    readText d (escapeChar d c ++ rest) =
      (readText d rest).map (withChar c) := by
  unfold escapeChar
  by_cases hQuote : c = '\''
  · subst hQuote
    rw [if_pos rfl, List.cons_append, List.cons_append,
      readText, if_pos rfl, if_pos rfl, List.nil_append]
  rw [if_neg hQuote]
  by_cases hBackslash : c = '\\' ∧ d.escapesBackslash
  · rw [if_pos hBackslash, List.cons_append,
      List.cons_append, readText, if_neg (by decide),
      if_pos ⟨rfl, hBackslash.2⟩, List.nil_append,
      hBackslash.1]
  · rw [if_neg hBackslash, List.singleton_append]
    exact readText_plain hQuote hBackslash rest

/- Put characters before a text that was read. -/
def withChars
    (cs : List Char)
    (read : List Char × List Char) :
    List Char × List Char :=
  (cs ++ read.1, read.2)

/- The written form of a text is read as the text. -/
theorem readText_flatMap (cs rest : List Char) :
    readText d (cs.flatMap (escapeChar d) ++ rest) =
      (readText d rest).map (withChars cs) := by
  induction cs with
  | nil =>
      have hNothing : withChars [] = id := rfl
      rw [List.flatMap_nil, List.nil_append, hNothing,
        Option.map_id, id]
  | cons c cs ih =>
      rw [List.flatMap_cons, List.append_assoc,
        readText_escapeChar, ih, Option.map_map]
      rfl

/- The text in front, between its quotes. -/
def readQuoted
    (d : Dialect)
    (cs : List Char) : Option (String × List Char) := do
  let cs ← Text.after? ['\''] cs
  let (value, rest) ← readText d cs
  return (String.ofList value, rest)

/- After a quoted text, its last quote decides. -/
theorem readQuoted_quotedChars_eq
    (s : String)
    (rest : List Char) :
    readQuoted d (quotedChars d s ++ rest) =
      (readText d ('\'' :: rest)).map fun read =>
        (String.ofList (s.toList ++ read.1), read.2) := by
  have hChars :
      quotedChars d s ++ rest =
        ['\''] ++ (s.toList.flatMap (escapeChar d) ++
          '\'' :: rest) := by
    simp [quotedChars]
  rw [readQuoted, hChars, Text.after?_append]
  simp only [readText_flatMap, Option.bind_eq_bind,
    Option.bind_some]
  cases readText d ('\'' :: rest) with
  | none => rfl
  | some read => rfl

theorem readQuoted_quotedChars
    (s : String)
    {rest : List Char}
    (hLone : rest.head? ≠ some '\'') :
    readQuoted d (quotedChars d s ++ rest) =
      some (s, rest) := by
  rw [readQuoted_quotedChars_eq, readText_quote hLone]
  simp

/- A quoted text is read back to its end. -/
theorem readQuoted_quoted (s : String) :
    readQuoted d (quoted d s).toList = some (s, []) := by
  have hRead :
      readQuoted d (quotedChars d s ++ []) = some (s, []) :=
    readQuoted_quotedChars s (by simp)
  rw [List.append_nil] at hRead
  rw [quoted, String.toList_ofList]
  exact hRead

------------------------------------------------------------
-- Lists
------------------------------------------------------------

/- The mark between the texts of a list. -/
def listMark : List Char :=
  [',', ' ']

/-
  The further texts of a list, and what follows its closing
  bracket. The first argument bounds their number.
-/
def readListed (d : Dialect) :
    Nat → List Char → Option (List String × List Char)
  | 0, _ => none
  | bound + 1, cs =>
      match Text.after? [']'] cs with
      | some rest => some ([], rest)
      | none => do
          let cs ← Text.after? listMark cs
          let (first, cs) ← readQuoted d cs
          let (others, cs) ← readListed d bound cs
          return (first :: others, cs)

/-
  The texts of the list in front, between its brackets. Each
  text takes at least one character.
-/
def readList
    (d : Dialect)
    (cs : List Char) : Option (List String × List Char) := do
  let cs ← Text.after? ['['] cs
  match Text.after? [']'] cs with
  | some rest => some ([], rest)
  | none =>
      let (first, rest) ← readQuoted d cs
      let (others, rest) ← readListed d cs.length rest
      return (first :: others, rest)

/- Texts as they follow the first one of a list. -/
def listed (d : Dialect) (values : List String) : List Char :=
  values.flatMap fun value => listMark ++ quotedChars d value

/- No list is long enough to outlast its characters. -/
theorem length_listed (values : List String) :
    values.length ≤ (listed d values).length := by
  induction values with
  | nil => simp
  | cons value values ih =>
      have hCons :
          listed d (value :: values) =
            listMark ++ quotedChars d value ++
              listed d values := by
        simp [listed]
      rw [hCons, List.length_append, List.length_append,
        List.length_cons]
      simp only [listMark, List.length_cons, List.length_nil]
      omega

/- The end of a text is no doubled quote. -/
theorem head?_listed_ne_quote
    (values : List String)
    (rest : List Char) :
    (listed d values ++ ']' :: rest).head? ≠ some '\'' := by
  cases values with
  | nil => simp [listed]
  | cons value values => simp [listed, listMark]

theorem readListed_listed
    (values : List String)
    (rest : List Char)
    {bound : Nat}
    (hBound : values.length < bound) :
    readListed d bound (listed d values ++ ']' :: rest) =
      some (values, rest) := by
  -- The bound only has to outlast the texts.
  induction values generalizing bound with
  | nil =>
      cases bound with
      | zero => omega
      | succ bound => cases rest <;> rfl
  | cons value values ih =>
      cases bound with
      | zero => omega
      | succ bound =>
          have hChars :
              listed d (value :: values) ++ ']' :: rest =
                listMark ++ (quotedChars d value ++
                  (listed d values ++ ']' :: rest)) := by
            simp [listed]
          have hOpen :
              Text.after? [']']
                (listMark ++ (quotedChars d value ++
                  (listed d values ++ ']' :: rest))) = none :=
            Text.after?_cons_ne (by decide) _ _
          have hFirst :=
            readQuoted_quotedChars (d := d) value
              (head?_listed_ne_quote (d := d) values rest)
          have hOthers :
              readListed d bound
                  (listed d values ++ ']' :: rest) =
                some (values, rest) :=
            ih (by simpa using hBound)
          rw [hChars, readListed, hOpen]
          simp only [Text.after?_append, hFirst, hOthers,
            Option.bind_eq_bind, Option.bind_some]
          rfl

theorem toList_quotedList_cons
    (value : String)
    (values : List String) :
    (quotedList d (value :: values)).toList =
      '[' :: (quotedChars d value ++
        (listed d values ++ [']'])) := by
  have hMark : ", ".toList = listMark := rfl
  rw [quotedList, String.toList_append, String.toList_append,
    List.map_cons, Text.toList_intercalate_cons, hMark,
    List.flatMap_map]
  simp only [quoted, String.toList_ofList, List.append_assoc]
  rfl

/- A list of texts is read as it was, whatever follows. -/
theorem readList_quotedList
    (values : List String)
    (rest : List Char) :
    readList d ((quotedList d values).toList ++ rest) =
      some (values, rest) := by
  cases values with
  | nil =>
      have hChars : (quotedList d []).toList = ['[', ']'] := by
        simp [quotedList]
      rw [hChars]
      cases rest <;> rfl
  | cons value values =>
      have hChars :
          (quotedList d (value :: values)).toList ++ rest =
            ['['] ++ (quotedChars d value ++
              (listed d values ++ ']' :: rest)) := by
        rw [toList_quotedList_cons]
        simp
      have hOpen :
          Text.after? [']']
            (quotedChars d value ++
              (listed d values ++ ']' :: rest)) = none :=
        Text.after?_cons_ne (by decide) _ _
      have hFirst :=
        readQuoted_quotedChars (d := d) value
          (head?_listed_ne_quote (d := d) values rest)
      have hBound :
          values.length <
            (quotedChars d value ++
              (listed d values ++ ']' :: rest)).length := by
        have hLength := length_listed (d := d) values
        simp only [List.length_append, List.length_cons]
        omega
      have hOthers :=
        readListed_listed (d := d) values rest hBound
      rw [hChars, readList, Text.after?_append]
      simp only [hOpen, hFirst, hOthers, Option.bind_eq_bind,
        Option.bind_some]
      rfl

------------------------------------------------------------
-- Operands
------------------------------------------------------------

/- What a condition compares with: a text or a bare word. -/
inductive Operand where
  | text (value : String)
  | bare (word : String)
deriving DecidableEq, Repr

/- The operand in front, and what follows it. -/
def readOperand
    (d : Dialect)
    (cs : List Char) : Option (Operand × List Char) :=
  if cs.head? = some '\'' then do
    let (value, rest) ← readQuoted d cs
    return (.text value, rest)
  else
    let (word, rest) := readWord cs
    some (.bare word, rest)

/- What a literal is read as. -/
def Literal.operand (d : Dialect) : Literal → Operand
  | .text value => .text value
  | value => .bare (value.print d)

/- A text, a finite number or a truth value. -/
def Literal.IsScalar : Literal → Prop
  | .text _ => True
  | .number n => n.isFinite = true
  | .bool _ => True
  | _ => False

theorem EndsWord.head?_ne_quote
    {rest : List Char}
    (hEnds : EndsWord rest) :
    rest.head? ≠ some '\'' := by
  intro hHead
  have hStop := hEnds '\'' hHead
  cases hStop

/- A word without quotes is read as a word. -/
theorem readOperand_word
    {word : String}
    (hWord : IsWord word)
    (hQuote : '\'' ∉ word.toList)
    {rest : List Char}
    (hEnds : EndsWord rest) :
    readOperand d (word.toList ++ rest) =
      some (.bare word, rest) := by
  have hHead :
      (word.toList ++ rest).head? ≠ some '\'' := by
    cases hChars : word.toList with
    | nil => exact hEnds.head?_ne_quote
    | cons c cs =>
        intro hHead
        obtain rfl : c = '\'' := by simpa using hHead
        exact hQuote (by simp [hChars])
  rw [readOperand, if_neg hHead, readWord_append hWord hEnds]

theorem readOperand_literal
    {value : Literal}
    (hScalar : value.IsScalar)
    {rest : List Char}
    (hEnds : EndsWord rest) :
    readOperand d ((value.print d).toList ++ rest) =
      some (value.operand d, rest) := by
  cases value with
  | text value =>
      have hLiteral :
          ((Literal.text value).print d).toList =
            quotedChars d value := by
        rw [Literal.print, quoted, String.toList_ofList]
      have hHead :
          (quotedChars d value ++ rest).head? = some '\'' :=
        rfl
      rw [hLiteral, readOperand, if_pos hHead,
        readQuoted_quotedChars value hEnds.head?_ne_quote]
      rfl
  | number n =>
      apply readOperand_word (isWord_number hScalar) _ hEnds
      intro hMember
      rw [Number.text, String.toList_ofList] at hMember
      have hNumber :=
        Number.isNumberChar_of_mem_chars hScalar hMember
      cases hNumber
  | bool value =>
      cases value with
      | true =>
          have hWord : IsWord "true" := by decide
          exact readOperand_word hWord (by decide) hEnds
      | false =>
          have hWord : IsWord "false" := by decide
          exact readOperand_word hWord (by decide) hEnds
  | null => exact hScalar.elim
  | texts values => exact hScalar.elim
  | members entries => exact hScalar.elim

------------------------------------------------------------
-- Columns
------------------------------------------------------------

/- The column in front, without its backquotes. -/
def readColumn
    (cs : List Char) : Option (String × List Char) :=
  match Text.after? ['\x60'] cs with
  | none => some (readWord cs)
  | some cs => do
      let rest ←
        Text.after? ['\x60'] (cs.dropWhile (· != '\x60'))
      return (String.ofList (cs.takeWhile (· != '\x60')), rest)

theorem readColumn_column
    (column : Column)
    {rest : List Char}
    (hEnds : EndsWord rest) :
    readColumn (column.text.toList ++ rest) =
      some (column.name.text, rest) := by
  have hName :
      ∀ c ∈ column.name.text.toList, c ≠ '\x60' := by
    intro c hMember
    exact Identifier.ne_of_mem hMember rfl (by decide)
  unfold Column.text
  split
  · have hChars :
        ("\x60" ++ column.name.text ++ "\x60").toList ++ rest =
          ['\x60'] ++
            (column.name.text.toList ++ '\x60' :: rest) := by
      simp
    have hPass :
        ∀ c ∈ column.name.text.toList,
          (c != '\x60') = true := by
      intro c hMember
      simpa using hName c hMember
    rw [hChars]
    simp only [readColumn, Text.after?_append,
      List.takeWhile_append_of_pos hPass,
      List.dropWhile_append_of_pos hPass]
    simp [Text.after?]
  · have hBare :
        Text.after? ['\x60']
          (column.name.text.toList ++ rest) = none := by
      rcases column.name.exists_cons with ⟨c, cs, hChars⟩
      rw [hChars]
      apply Text.after?_cons_ne
      intro hEq
      exact hName c (by simp [hChars]) hEq.symm
    simp only [readColumn, hBare,
      readWord_append (isWord_name column.name) hEnds]

------------------------------------------------------------
-- Conditions
------------------------------------------------------------

/- Every comparison. -/
def Comparison.all : List Comparison :=
  [equal, greater, atLeast, less, atMost]

/- The comparison that a symbol stands for. -/
def Comparison.ofSymbol? (symbol : String) : Option Comparison :=
  all.find? (fun c => c.symbol == symbol)

@[simp] theorem Comparison.ofSymbol?_symbol (c : Comparison) :
    ofSymbol? c.symbol = some c := by
  cases c <;> rfl

theorem Comparison.isWord_symbol (c : Comparison) :
    IsWord c.symbol := by
  cases c <;> decide

/- A condition as its reader sees it. -/
structure ConditionReading where
  column : String
  comparison : Comparison
  operand : Operand
deriving DecidableEq, Repr

/- What a condition is read as. -/
def Condition.reading
    (d : Dialect)
    (c : Condition) : ConditionReading where
  column := c.column.name.text
  comparison := c.comparison
  operand := c.value.operand d

/- The condition in front, and what follows it. -/
def readCondition
    (d : Dialect)
    (cs : List Char) :
    Option (ConditionReading × List Char) := do
  let (column, cs) ← readColumn cs
  let cs ← Text.after? [' '] cs
  let (symbol, cs) := readWord cs
  let comparison ← Comparison.ofSymbol? symbol
  let cs ← Text.after? [' '] cs
  let (operand, cs) ← readOperand d cs
  return ({ column, comparison, operand }, cs)

theorem readCondition_text
    {condition : Condition}
    (hScalar : condition.value.IsScalar)
    {rest : List Char}
    (hEnds : EndsWord rest) :
    readCondition d ((condition.text d).toList ++ rest) =
      some (condition.reading d, rest) := by
  have hChars :
      (condition.text d).toList ++ rest =
        condition.column.text.toList ++ ' ' ::
          (condition.comparison.symbol.toList ++ ' ' ::
            ((condition.value.print d).toList ++ rest)) := by
    simp [Condition.text]
  have hColumn (cs : List Char) :=
    readColumn_column condition.column (endsWord_space cs)
  have hSymbol (cs : List Char) :=
    readWord_append condition.comparison.isWord_symbol
      (endsWord_space cs)
  have hSpace (cs : List Char) :
      Text.after? [' '] (' ' :: cs) = some cs :=
    Text.after?_append [' '] cs
  have hOperand := readOperand_literal (d := d) hScalar hEnds
  rw [hChars, readCondition]
  simp only [hColumn, hSpace, hSymbol, hOperand,
    Comparison.ofSymbol?_symbol, Option.bind_eq_bind,
    Option.bind_some]
  rfl

------------------------------------------------------------
-- Searches
------------------------------------------------------------

/- The mark in front of each condition after the first. -/
def conjunction : List Char :=
  [' ', 'A', 'N', 'D', ' ']

/-
  The further conditions in front, and what follows them.
  The first argument bounds their number.
-/
def readConditions (d : Dialect) :
    Nat → List Char →
      Option (List ConditionReading × List Char)
  | 0, _ => none
  | bound + 1, cs =>
      match Text.after? conjunction cs with
      | none => some ([], cs)
      | some cs => do
          let (first, cs) ← readCondition d cs
          let (others, cs) ← readConditions d bound cs
          return (first :: others, cs)

/- Conditions as they follow the first one. -/
def conjoined
    (d : Dialect)
    (conditions : List Condition) : List Char :=
  conditions.flatMap fun condition =>
    conjunction ++ (condition.text d).toList

theorem endsWord_conjoined
    (conditions : List Condition)
    {rest : List Char}
    (hEnds : EndsWord rest) :
    EndsWord (conjoined d conditions ++ rest) := by
  cases conditions with
  | nil => exact hEnds
  | cons condition conditions => exact endsWord_space _

theorem readConditions_conjoined
    {conditions : List Condition}
    (hScalar : ∀ c ∈ conditions, c.value.IsScalar)
    {rest : List Char}
    (hEnds : EndsWord rest)
    (hLast : Text.after? conjunction rest = none)
    {bound : Nat}
    (hBound : conditions.length < bound) :
    readConditions d bound (conjoined d conditions ++ rest) =
      some (conditions.map (Condition.reading d), rest) := by
  -- The bound only has to outlast the conditions.
  induction conditions generalizing bound with
  | nil =>
      cases bound with
      | zero => omega
      | succ bound =>
          have hNil : conjoined d [] ++ rest = rest := rfl
          rw [hNil, readConditions, hLast]
          rfl
  | cons condition conditions ih =>
      cases bound with
      | zero => omega
      | succ bound =>
          have hChars :
              conjoined d (condition :: conditions) ++ rest =
                conjunction ++ ((condition.text d).toList ++
                  (conjoined d conditions ++ rest)) := by
            simp [conjoined]
          have hFirst :
              readCondition d ((condition.text d).toList ++
                  (conjoined d conditions ++ rest)) =
                some (condition.reading d,
                  conjoined d conditions ++ rest) := by
            apply readCondition_text
            · exact hScalar condition (by simp)
            · exact endsWord_conjoined conditions hEnds
          have hOthers :
              readConditions d bound
                  (conjoined d conditions ++ rest) =
                some (conditions.map (Condition.reading d),
                  rest) := by
            apply ih
            · intro later hLater
              exact hScalar later (by simp [hLater])
            · simpa using hBound
          rw [hChars, readConditions, Text.after?_append]
          simp only [hFirst, hOthers, Option.bind_eq_bind,
            Option.bind_some]
          rfl

/- A search as its reader sees it. -/
structure SearchReading where
  knowledgeBase : String
  text : String
  conditions : List ConditionReading
  limit : String
deriving DecidableEq, Repr

/-
  What a statement searches for, if it is a search. Each
  condition takes at least one character, so the length of
  the statement bounds their number.
-/
def readSearch?
    (d : Dialect)
    (sql : String) : Option SearchReading := do
  let cs ← Text.after? "SELECT * FROM ".toList sql.toList
  let (knowledgeBase, cs) := readWord cs
  let cs ← Text.after? " WHERE ".toList cs
  let cs ← Text.after? "content LIKE ".toList cs
  let (text, cs) ← readQuoted d cs
  let (conditions, cs) ←
    readConditions d (sql.toList.length + 1) cs
  let cs ← Text.after? " LIMIT ".toList cs
  let (limit, cs) := readWord cs
  if cs = [';'] then
    some { knowledgeBase, text, conditions, limit }
  else
    none

theorem toList_searchConditions
    (text : String)
    (conditions : List Condition) :
    (Statement.searchConditions d text conditions).toList =
      "content LIKE ".toList ++
        (quotedChars d text ++ conjoined d conditions) := by
  have hMark : " AND ".toList = conjunction := rfl
  have hText : (quoted d text).toList = quotedChars d text := by
    rw [quoted, String.toList_ofList]
  rw [Statement.searchConditions,
    Text.toList_intercalate_cons, List.flatMap_map, hMark,
    String.toList_append, hText, List.append_assoc]
  rfl

theorem toList_search
    (knowledgeBase : Identifier)
    (text : String)
    (conditions : List Condition)
    (limit : Number) :
    ((Statement.search knowledgeBase text conditions
      limit).text d).toList =
      "SELECT * FROM ".toList ++
        (knowledgeBase.text.toList ++
          (" WHERE ".toList ++
            ("content LIKE ".toList ++
              (quotedChars d text ++
                (conjoined d conditions ++
                  (" LIMIT ".toList ++
                    (limit.text.toList ++ ";".toList))))))) := by
  unfold Statement.text Statement.body
  simp only [String.toList_append, toList_searchConditions,
    List.append_assoc]

/- Each of the conditions of a search has characters. -/
theorem length_conjoined (conditions : List Condition) :
    conditions.length ≤ (conjoined d conditions).length := by
  induction conditions with
  | nil => simp
  | cons condition conditions ih =>
      have hCons :
          conjoined d (condition :: conditions) =
            conjunction ++ ((condition.text d).toList ++
              conjoined d conditions) := by
        simp [conjoined]
      rw [hCons, List.length_append, List.length_append,
        List.length_cons]
      simp only [conjunction, List.length_cons,
        List.length_nil]
      omega

theorem readSearch?_text
    (knowledgeBase : Identifier)
    (text : String)
    {conditions : List Condition}
    (hScalar : ∀ c ∈ conditions, c.value.IsScalar)
    {limit : Number}
    (hFinite : limit.isFinite = true) :
    readSearch? d
        ((Statement.search knowledgeBase text conditions
          limit).text d) =
      some {
        knowledgeBase := knowledgeBase.text
        text
        conditions := conditions.map (Condition.reading d)
        limit := limit.text } := by
  have hWhere (cs : List Char) :
      EndsWord (" WHERE ".toList ++ cs) := endsWord_space _
  have hLast (cs : List Char) :
      EndsWord (" LIMIT ".toList ++ cs) := endsWord_space _
  have hName (cs : List Char) :=
    readWord_append (isWord_name knowledgeBase) (hWhere cs)
  have hText (cs : List Char) :=
    readQuoted_quotedChars (d := d) text
      (endsWord_conjoined (d := d) conditions
        (hLast cs)).head?_ne_quote
  have hEnd : EndsWord ";".toList := endsWord_terminator []
  have hLimit := readWord_append (isWord_number hFinite) hEnd
  rw [readSearch?, toList_search]
  simp only [Text.after?_append, hName, hText,
    Option.bind_eq_bind, Option.bind_some]
  rw [readConditions_conjoined hScalar (hLast _)]
  · simp only [Text.after?_append, hLimit, Option.bind_some]
    rfl
  · rfl
  · have hLength := length_conjoined (d := d) conditions
    simp only [List.length_append]
    omega

end Sql

end KbConsole
