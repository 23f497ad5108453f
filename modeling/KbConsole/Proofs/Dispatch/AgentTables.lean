import KbConsole.Proofs.Dispatch.AgentOptions
import KbConsole.Proofs.Request.Lists
import KbConsole.Proofs.Sql.Reader
import KbConsole.Proofs.Sql.Structured

/-
  The tables of an agent, from the argument to the statement
  and back.

  However the tables are spaced in the argument, the agent
  has exactly these, in their order. Its statement has one
  option for them, a list of texts from which each table is
  read again.

  Key definitions include:
    * `NewAgent.IsReady`
    * `Sql.ListsTables`

  The main statement is `Request.tables_roundTrip`. It rests
  on `NewAgent.exists_ofArguments_of_isReady` and on
  `Sql.listsTables_of_agentStatement`.
-/

namespace KbConsole

open Sql

------------------------------------------------------------
-- Read Tables
------------------------------------------------------------

section Tables

variable {refs : List TableRef}
variable {texts : List String}

/- Only their margins are taken from the texts of tables. -/
theorem TableRef.trimmedParts_joined
    (hSome : texts ≠ [])
    (hSafe : ∀ ref ∈ refs, ref.IsSafe)
    (hTexts : List.Forall₂ IsWrittenAs refs texts) :
    trimmedParts ',' (",".intercalate texts) =
      texts.map Text.trim := by
  have hNoComma : ∀ text ∈ texts, ',' ∉ text.toList := by
    intro text hText
    rcases exists_of_mem_forall₂ hTexts.flip hText with
      ⟨ref, hRef, hWritten⟩
    exact IsWrittenAs.noComma hWritten (hSafe ref hRef)
  have hParts :
      Text.splitOn ',' (",".intercalate texts) = texts :=
    Text.splitOn_intercalate hSome hNoComma
  rw [trimmedParts, hParts]

/- The list of tables is read, entry by entry. -/
theorem Arguments.list?_tables
    {args : Arguments}
    {key : String}
    (hSome : texts ≠ [])
    (hSafe : ∀ ref ∈ refs, ref.IsSafe)
    (hTexts : List.Forall₂ TableRef.IsWrittenAs refs texts)
    (hTables :
      Keyed.get? key args =
        some (.text (",".intercalate texts)))
    (label : String) :
    args.list? key label =
      .ok (some (texts.map Text.trim)) := by
  have hParts :=
    TableRef.trimmedParts_joined hSome hSafe hTexts
  have hFilled : "" ∉ texts.map Text.trim := by
    rw [List.mem_map]
    rintro ⟨text, hText, hEmpty⟩
    rcases exists_of_mem_forall₂ hTexts.flip hText with
      ⟨ref, -, hWritten⟩
    have hVoid := Text.trim_eq_empty_iff.mp hEmpty
    rw [TableRef.IsWrittenAs.isVoid_eq hWritten] at hVoid
    cases hVoid
  have hNotVoid :
      Text.isVoid (",".intercalate texts) = false := by
    rw [Bool.eq_false_iff, Ne, ← Text.trim_eq_empty_iff]
    intro hEmpty
    rw [← trimmedParts_trim rfl, hEmpty] at hParts
    apply hFilled
    rw [← hParts]
    exact List.mem_singleton_self _
  have hWord :
      args.word? key =
        some (Text.trim (",".intercalate texts)) := by
    rw [word?, hTables]
    simp only [hNotVoid, Bool.false_eq_true, if_false]
  have hEntries :
      ColumnList.ofText label
          (Text.trim (",".intercalate texts)) =
        .ok (texts.map Text.trim) := by
    rw [ColumnList.ofText_eq_ok_iff, trimmedParts_trim rfl]
    exact ⟨hParts, hFilled⟩
  rw [list?, hWord]
  simp only [hEntries]
  rfl

/- Each entry of the list is read as its table. -/
theorem TableRef.listOfTexts_trimmed
    (hSafe : ∀ ref ∈ refs, ref.IsSafe)
    (hTexts : List.Forall₂ IsWrittenAs refs texts)
    (label : String) :
    listOfTexts label (texts.map Text.trim) = .ok refs := by
  apply listOfTexts_eq_ok
  rw [List.forall₂_map_right_iff]
  induction hTexts with
  | nil => exact .nil
  | cons hRef _ ih =>
      rw [List.forall_mem_cons] at hSafe
      have hOwn :=
        (ofText_eq_ok_iff_isWrittenAs hSafe.1 label).mpr hRef
      exact .cons (ofText_trim_eq_ok_iff.mpr hOwn) (ih hSafe.2)

end Tables

------------------------------------------------------------
-- Agents
------------------------------------------------------------

namespace NewAgent

/-
  All that an agent needs besides its tables: a name, and
  knowledge bases. There are no parameters that could fill
  any option.
-/
structure IsReady (args : Arguments) : Prop where
  name :
    ∃ name,
      args.word? "agentName" = some name ∧
        Identifier.isSafe name = true
  knowledgeBases :
    ∃ names,
      args.list? "knowledgeBases" "kb_names" =
          .ok (some names) ∧
        ∀ name ∈ names, Identifier.isSafe name = true
  noParams : args.word? "params" = none

variable {args : Arguments}
variable {settings : Settings}
variable {spec : NewAgent}
variable {refs : List TableRef}
variable {texts : List String}

/- Without parameters, an agent is what its options say. -/
theorem ofArguments_of_noParams
    (hParams : args.word? "params" = none)
    (hSpec : ofOptions args settings = .ok spec) :
    ofArguments args settings = .ok spec := by
  have hMembers : paramMembers args = .ok [] := by
    rw [paramMembers, Arguments.json?, hParams]
    rfl
  exact
    ofArguments_eq_ok_iff.mpr
      ⟨spec, [], spec.tables, hSpec, hMembers,
        filledTables_nil, filled_nil⟩

/- An agent has exactly the tables that the argument lists. -/
theorem exists_ofArguments_of_isReady
    (hReady : IsReady args)
    (hSome : texts ≠ [])
    (hSafe : ∀ ref ∈ refs, ref.IsSafe)
    (hTexts : List.Forall₂ TableRef.IsWrittenAs refs texts)
    (hTables :
      Keyed.get? "tables" args =
        some (.text (",".intercalate texts)))
    (settings : Settings) :
    ∃ spec,
      ofArguments args settings = .ok spec ∧
        spec.tables = refs ∧ spec.params = [] ∧
        IsCompilable spec := by
  rcases hReady.name with ⟨name, hName, hSafeName⟩
  rcases hReady.knowledgeBases with ⟨bases, hBases, hSafeBases⟩
  have hWord : args.word "agentName" "agent_name" = .ok name :=
    Arguments.demand_eq_ok_iff.mpr hName
  have hList :=
    Arguments.list?_tables hSome hSafe hTexts hTables
      "--tables"
  have hRefs :=
    TableRef.listOfTexts_trimmed hSafe hTexts "--tables"
  let spec : NewAgent :=
    { name
      model := (args.word? "model").getD settings.googleModel
      googleApiKey :=
        (args.word? "googleApiKey").or settings.googleApiKey
      knowledgeBases := bases
      tables := refs
      promptTemplate := args.text? "promptTemplate" }
  have hSpec : ofOptions args settings = .ok spec := by
    simp only [ofOptions, hWord, hBases, hList,
      Option.getD_some, hRefs, Arguments.demand, ok_bind]
    rfl
  refine
    ⟨spec, ofArguments_of_noParams hReady.noParams hSpec, rfl,
      rfl, ?_⟩
  exact
    { notEmpty := (Arguments.isProper_of_list? hBases).notEmpty
      knowledgeBases := hSafeBases
      tables := fun ref hRef =>
        ⟨(hSafe ref hRef).datasource, (hSafe ref hRef).table⟩
      params := List.forall_mem_nil _
      name := hSafeName }

end NewAgent

------------------------------------------------------------
-- Statements
------------------------------------------------------------

namespace Sql

variable {d : Dialect}
variable {spec : NewAgent}

/- The options that are in front of the tables. -/
def leadingOptions (spec : NewAgent) : List Assignment :=
  .literal "model" (.text spec.model) ::
    textOption "google_api_key" spec.googleApiKey ++
    [.literal "include_knowledge_bases"
      (.texts spec.knowledgeBases)]

/-
  A statement with one option that lists the tables. Each of
  these is read from a text of its literal.
-/
def ListsTables
    (d : Dialect)
    (spec : NewAgent)
    (text : String) : Prop :=
  ∃ literal names,
    text =
        usingText "CREATE AGENT " spec.name
          ((leadingOptions spec).map (Assignment.text d) ++
            ["include_tables = " ++ literal] ++
            (textOption "prompt_template"
              spec.promptTemplate).map (Assignment.text d)) ∧
      readList d literal.toList = some (names, []) ∧
      List.Forall₂
        (fun ref name =>
          ∀ label, TableRef.ofText label name = .ok ref)
        spec.tables names

/- Qualified tables are read from their own texts. -/
theorem forall₂_qualified
    {refs : List TableRef}
    (hSafe : ∀ ref ∈ refs, ref.IsSafe) :
    List.Forall₂
      (fun ref name =>
        ∀ label, TableRef.ofText label name = .ok ref)
      refs (refs.map TableRef.qualified) := by
  rw [List.forall₂_map_right_iff, List.forall₂_same]
  intro ref hRef label
  rw [TableRef.ofText_eq_ok_iff_isWrittenAs (hSafe ref hRef)
    label]
  exact ref.isWrittenAs_qualified

theorem text_createAgent
    (name : Identifier)
    (options : List Assignment) :
    Statement.text d (.createAgent name options) =
      usingText "CREATE AGENT " name.text
        (options.map (Assignment.text d)) :=
  rfl

/- The tables are between the named options of an agent. -/
theorem listsTables_of_agentStatement
    {s : Statement}
    (hStatement : agentStatement spec = .ok s)
    (hParams : spec.params = [])
    (hSome : spec.tables ≠ []) :
    ListsTables d spec (s.text d) := by
  rcases agentStatement_eq_ok_iff.mp hStatement with
    ⟨-, -, hTables, options, hOptions, name, hName, rfl⟩
  rw [hParams, List.mapM_nil, pure_eq_ok_iff] at hOptions
  subst hOptions
  let names := spec.tables.map TableRef.qualified
  have hListed :
      listedTables spec.tables =
        [.literal "include_tables" (.texts names)] :=
    if_neg (List.isEmpty_iff.not.mpr hSome)
  have hNamed :
      namedOptions spec =
        leadingOptions spec ++
          [.literal "include_tables" (.texts names)] ++
          textOption "prompt_template" spec.promptTemplate := by
    rw [← hListed]
    rfl
  have hRead := readList_quotedList (d := d) names []
  rw [List.append_nil] at hRead
  refine
    ⟨quotedList d names, names, ?_, hRead,
      forall₂_qualified fun ref hRef =>
        ⟨(hTables ref hRef).1, (hTables ref hRef).2⟩⟩
  rw [List.append_nil, hNamed, ← hName, text_createAgent,
    List.map_append, List.map_append]
  rfl

end Sql

------------------------------------------------------------
-- Requests
------------------------------------------------------------

namespace Request

open Sql

variable {args : Arguments}
variable {refs : List TableRef}
variable {texts : List String}

/- A request for an agent with tables can be prepared. -/
theorem exists_prepare_of_isReady
    (hReady : NewAgent.IsReady args)
    (hSome : refs ≠ [])
    (hSafe : ∀ ref ∈ refs, ref.IsSafe)
    (hTexts : List.Forall₂ TableRef.IsWrittenAs refs texts)
    (hTables :
      Keyed.get? "tables" args =
        some (.text (",".intercalate texts)))
    (settings : Settings)
    (d : Dialect) :
    ∃ spec text,
      NewAgent.ofArguments args settings = .ok spec ∧
        spec.tables = refs ∧
        prepare .createAgent args settings d =
          .ok (createAgent spec, [text]) ∧
        ListsTables d spec text := by
  have hSomeText : texts ≠ [] := by
    rintro rfl
    exact hSome (List.forall₂_nil_right_iff.mp hTexts)
  rcases NewAgent.exists_ofArguments_of_isReady hReady hSomeText
      hSafe hTexts hTables settings with
    ⟨spec, hSpec, hRefs, hParams, hCompilable⟩
  rcases exists_agentStatement_iff.mpr hCompilable with
    ⟨s, hStatement⟩
  exact
    ⟨spec, s.text d, hSpec, hRefs,
      prepare_createAgent_eq_ok_iff.mpr
        ⟨spec, s, hSpec, hStatement, rfl, rfl⟩,
      listsTables_of_agentStatement hStatement hParams
        (hRefs ▸ hSome)⟩

/-
  Lists and tables are read back. An agent has exactly the
  tables that its argument lists, however these are spaced,
  and they are read again from the list in its statement. A
  text is a list exactly if no part between its commas is
  blank; its entries are the parts without margins, and they
  are read again when put together. A table is read from its
  qualified name.
-/
theorem tables_roundTrip :
    (∀ args settings d refs texts,
      NewAgent.IsReady args →
        refs ≠ [] →
        (∀ ref ∈ refs, TableRef.IsSafe ref) →
        List.Forall₂ TableRef.IsWrittenAs refs texts →
        Keyed.get? "tables" args =
            some (.text (",".intercalate texts)) →
          ∃ spec text,
            NewAgent.ofArguments args settings = .ok spec ∧
              spec.tables = refs ∧
              prepare .createAgent args settings d =
                .ok (createAgent spec, [text]) ∧
              ListsTables d spec text) ∧
    (∀ label text, ∃ parts,
      Text.IsDivided ',' text parts ∧
        ((∃ entries,
            ColumnList.ofText label text = .ok entries) ↔
          ∀ part ∈ parts, Text.isVoid part = false) ∧
        ∀ entries, ColumnList.ofText label text = .ok entries →
          entries = parts.map Text.trim ∧
            ColumnList.IsProper entries ∧
            ColumnList.ofText label (",".intercalate entries) =
              .ok entries) ∧
    ∀ ref name, TableName.ofRef ref = .ok name →
      ∀ label, TableRef.ofText label name.text = .ok ref := by
  refine ⟨?_, ?_, ?_⟩
  · intro args settings d refs texts hReady hSome hSafe hTexts
      hTables
    exact
      exists_prepare_of_isReady hReady hSome hSafe hTexts
        hTables settings d
  · exact ColumnList.ofText_contract
  · intro ref name hName label
    exact TableRef.ofText_of_ofRef hName label

/- Two tables with a tab, and blanks around a point. -/
theorem tables_roundTrip_spaced :
    let args : Arguments :=
      [("agentName", .text "a"),
        ("knowledgeBases", .text "kb"),
        ("tables", .text " hackernews . stories\t,pg.t_1")]
    let refs : List TableRef :=
      [{ datasource := "hackernews", table := "stories" },
        { datasource := "pg", table := "t_1" }]
    ∃ spec text,
      NewAgent.ofArguments args {} = .ok spec ∧
        spec.tables = refs ∧
        prepare .createAgent args {} {} =
          .ok (createAgent spec, [text]) ∧
        ListsTables {} spec text := by
  intro args refs
  let texts := [" hackernews . stories\t", "pg.t_1"]
  have hReady : NewAgent.IsReady args :=
    { name := ⟨"a", by decide +kernel, by decide +kernel⟩
      knowledgeBases :=
        ⟨["kb"], by decide +kernel, by decide +kernel⟩
      noParams := by decide +kernel }
  have hStories : TableRef.IsSafe ⟨"hackernews", "stories"⟩ :=
    ⟨by decide, by decide⟩
  have hOther : TableRef.IsSafe ⟨"pg", "t_1"⟩ :=
    ⟨by decide, by decide⟩
  have hSafe : ∀ ref ∈ refs, ref.IsSafe := by
    rw [List.forall_mem_cons, List.forall_mem_singleton]
    exact ⟨hStories, hOther⟩
  have hTexts :
      List.Forall₂ TableRef.IsWrittenAs refs texts := by
    refine .cons ?_ (.cons ?_ .nil)
    · rw [← TableRef.ofText_eq_ok_iff_isWrittenAs hStories ""]
      decide +kernel
    · exact TableRef.isWrittenAs_qualified _
  exact
    tables_roundTrip.1 args {} {} refs texts hReady
      (List.cons_ne_nil _ _) hSafe hTexts (by decide +kernel)

end Request

end KbConsole
