import KbConsole.Proofs.Sql.Reader

/-
  Quoted texts and lists of them, in the middle of other
  text.

  Whatever follows a quoted text, its reader stops where the
  text ends, as long as no other quote follows at once. What
  follows a list does not matter. So neither a text nor a
  list shares its written form with another one.

  Key definitions include:
    * `Text.doubled`

  The main statement is `Sql.quoted_contract`. It rests on
  `Sql.readQuoted_append_iff` and `Sql.readList_quotedList`.
-/

namespace KbConsole

/- Characters with each of one kind written twice. -/
def Text.doubled (c : Char) (cs : List Char) : List Char :=
  cs.flatMap fun x => if x = c then [x, x] else [x]

namespace Sql

variable {d : Dialect}

------------------------------------------------------------
-- Written Forms
------------------------------------------------------------

/- A backslash is doubled first, and then a quote. -/
theorem escapeChar_eq_doubled (c : Char) :
    escapeChar d c =
      Text.doubled '\''
        (if d.escapesBackslash then
          Text.doubled '\\' [c]
        else
          [c]) := by
  unfold escapeChar Text.doubled
  by_cases hQuote : c = '\''
  · simp [hQuote]
  by_cases hBackslash : c = '\\'
  · cases d.escapesBackslash <;> simp [hBackslash]
  · simp [hQuote, hBackslash]

/-
  What stands between the quotes is the text after two
  passes, one for each of the doubled characters.
-/
theorem flatMap_escapeChar (cs : List Char) :
    cs.flatMap (escapeChar d) =
      Text.doubled '\''
        (if d.escapesBackslash then
          Text.doubled '\\' cs
        else
          cs) := by
  have hChars := funext (escapeChar_eq_doubled (d := d))
  rw [hChars]
  unfold Text.doubled
  cases d.escapesBackslash with
  | false => simp
  | true => simp [List.flatMap_assoc]

------------------------------------------------------------
-- Reading
------------------------------------------------------------

theorem toList_quoted_append (s t : String) :
    (quoted d s ++ t).toList =
      quotedChars d s ++ t.toList := by
  rw [String.toList_append, quoted, String.toList_ofList]

/- A quote that follows at once is read into the text. -/
theorem readQuoted_ne_of_quote
    (s : String)
    (rest others : List Char) :
    readQuoted d (quotedChars d s ++ '\'' :: rest) ≠
      some (s, others) := by
  intro hRead
  rw [readQuoted_quotedChars_eq, readText, if_pos rfl,
    if_pos rfl, Option.map_map, Option.map_eq_some_iff]
    at hRead
  rcases hRead with ⟨⟨more, after⟩, -, hRead⟩
  have hText :=
    congrArg (fun read => read.1.toList.length) hRead
  simp [withChar] at hText

/- The reader finds the text exactly if no quote follows. -/
theorem readQuoted_append_iff (s t : String) :
    readQuoted d (quoted d s ++ t).toList =
        some (s, t.toList) ↔
      t.toList.head? ≠ some '\'' := by
  rw [toList_quoted_append]
  constructor
  · intro hRead hHead
    rcases List.head?_eq_some_iff.mp hHead with ⟨rest, hRest⟩
    rw [hRest] at hRead
    exact readQuoted_ne_of_quote s rest _ hRead
  · intro hLone
    exact readQuoted_quotedChars s hLone

theorem readList_append
    (values : List String)
    (t : String) :
    readList d (quotedList d values ++ t).toList =
      some (values, t.toList) := by
  rw [String.toList_append, readList_quotedList]

------------------------------------------------------------
-- Contract
------------------------------------------------------------

theorem quoted_injective : Function.Injective (quoted d) := by
  intro s t hSame
  have hRead := readQuoted_quoted (d := d) s
  rw [hSame, readQuoted_quoted] at hRead
  exact (congrArg Prod.fst (Option.some.inj hRead)).symm

theorem quotedList_injective :
    Function.Injective (quotedList d) := by
  intro values others hSame
  have hRead := readList_quotedList (d := d) values []
  rw [hSame, readList_quotedList] at hRead
  exact (congrArg Prod.fst (Option.some.inj hRead)).symm

/-
  A quoted text is the text after the passes that double its
  backslashes and its quotes, between quotes. It is read
  back, with what follows left over, exactly if no quote
  follows; a list is read back whatever follows. So no two
  texts and no two lists have one written form.
-/
theorem quoted_contract (d : Dialect) :
    (∀ s,
      (quoted d s).toList =
        ['\''] ++
          Text.doubled '\''
            (if d.escapesBackslash then
              Text.doubled '\\' s.toList
            else
              s.toList) ++
          ['\'']) ∧
    (∀ s t,
      readQuoted d (quoted d s ++ t).toList =
          some (s, t.toList) ↔
        t.toList.head? ≠ some '\'') ∧
    (∀ values t,
      readList d (quotedList d values ++ t).toList =
        some (values, t.toList)) ∧
    Function.Injective (quoted d) ∧
    Function.Injective (quotedList d) := by
  refine
    ⟨?_, readQuoted_append_iff, readList_append,
      quoted_injective, quotedList_injective⟩
  intro s
  rw [quoted, String.toList_ofList, quotedChars,
    flatMap_escapeChar]
  rfl

/- Only the second quote after the last backslash ends it. -/
example :
    readQuoted { escapesBackslash := true }
        "'it''s \\\\'' \\\\', 'x'".toList =
      some ("it's \\' \\", ", 'x'".toList) := by
  decide +kernel

end Sql

end KbConsole
