import KbConsole.Proofs.Request.AgentParams
import KbConsole.Proofs.Request.Names

/-
  Agents that are read from arguments.

  Every parameter is kept, or fills an option, or is
  ignored, and since the keys of an object are distinct, no
  key is kept or ignored twice.

  Key definitions include:
    * `NewAgent.IsProper`

  The main statement is `NewAgent.isProper_of_ofArguments`.
  It rests on `NewAgent.isProper_filled`.
-/

namespace KbConsole

namespace NewAgent

/-
  What is known of an agent. A key is either one of its
  parameters or one that was ignored, and only the keys of
  the named options are ignored.
-/
structure IsProper (agent : NewAgent) : Prop where
  name : Text.IsTrimmed agent.name
  knowledgeBases : ColumnList.IsProper agent.knowledgeBases
  tables : ∀ table ∈ agent.tables, table.IsProper
  distinctParams : (Keyed.keys agent.params).Nodup
  freeParams :
    ∀ key ∈ Keyed.keys agent.params, key ∉ reservedParams
  distinctIgnored : agent.ignoredParams.Nodup
  reservedIgnored :
    ∀ key ∈ agent.ignoredParams, key ∈ reservedParams

variable {agent : NewAgent}
variable {members : List (String × Json)}
variable {args : Arguments}
variable {settings : Settings}

/- An agent has no parameters before it takes them. -/
theorem isProper_of_ofOptions
    (hAgent : ofOptions args settings = .ok agent) :
    agent.IsProper ∧
      agent.params = [] ∧ agent.ignoredParams = [] := by
  simp only [ofOptions, bind_eq_ok_iff, pure_eq_ok_iff]
    at hAgent
  rcases hAgent with
    ⟨name, hName, listed, hListed, texts, -, tables, hTables,
      knowledgeBases, hKnowledgeBases, rfl⟩
  rw [Arguments.demand_eq_ok_iff] at hKnowledgeBases
  subst hKnowledgeBases
  exact
    ⟨{ name := Arguments.isTrimmed_of_word hName
       knowledgeBases := Arguments.isProper_of_list? hListed
       tables := TableRef.isProper_of_listOfTexts hTables
       distinctParams := List.nodup_nil
       freeParams := List.forall_mem_nil _
       distinctIgnored := List.nodup_nil
       reservedIgnored := List.forall_mem_nil _ }, rfl, rfl⟩

theorem isProper_of_filledTables
    {tables : List TableRef}
    (hAgent : ∀ table ∈ agent.tables, table.IsProper)
    (hTables : agent.filledTables members = .ok tables) :
    ∀ table ∈ tables, table.IsProper := by
  unfold filledTables at hTables
  split at hTables
  · obtain rfl := Except.ok.inj hTables
    exact hAgent
  · exact TableRef.isProper_of_listOfTexts hTables

theorem nodup_keys_filter
    (hDistinct : (Keyed.keys members).Nodup)
    (p : String × Json → Bool) :
    (Keyed.keys (members.filter p)).Nodup :=
  List.Nodup.sublist (List.filter_sublist.map Prod.fst)
    hDistinct

/- An agent stays proper when it takes its parameters. -/
theorem isProper_filled
    {tables : List TableRef}
    (hAgent : agent.IsProper)
    (hParams : agent.params = [])
    (hIgnored : agent.ignoredParams = [])
    (hDistinct : (Keyed.keys members).Nodup)
    (hTables : ∀ table ∈ tables, table.IsProper) :
    (agent.filled members tables).IsProper := by
  unfold filled
  rw [hParams, hIgnored, List.nil_append, List.nil_append]
  refine
    { name := hAgent.name
      knowledgeBases := hAgent.knowledgeBases
      tables := hTables
      distinctParams := nodup_keys_filter hDistinct _
      freeParams := ?_
      distinctIgnored := nodup_keys_filter hDistinct _
      reservedIgnored := ?_ }
  · intro key hKey
    rcases List.mem_map.mp hKey with ⟨param, hParam, rfl⟩
    have hFree := (List.mem_filter.mp hParam).2
    simpa [isFree] using hFree
  · intro key hKey
    rcases List.mem_map.mp hKey with ⟨param, hParam, rfl⟩
    have hReserved := (List.mem_filter.mp hParam).2
    rw [isIgnored, Bool.and_eq_true] at hReserved
    simpa [isFree] using hReserved.1

theorem isProper_of_ofArguments
    (hAgent : ofArguments args settings = .ok agent) :
    agent.IsProper := by
  rcases ofArguments_eq_ok_iff.mp hAgent with
    ⟨named, members, tables, hNamed, hMembers, hTables, rfl⟩
  rcases isProper_of_ofOptions hNamed with
    ⟨hProper, hParams, hIgnored⟩
  exact isProper_filled hProper hParams hIgnored
    (nodup_keys_of_paramMembers hMembers)
    (isProper_of_filledTables hProper.tables hTables)

end NewAgent

end KbConsole
