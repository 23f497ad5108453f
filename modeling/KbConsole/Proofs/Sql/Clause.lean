import KbConsole.Proofs.Sql.Fragment
import KbConsole.Sql.Statement

/-
  The clauses of statements as fragments.

  Key definitions include:
    * `Sql.OptionsNamed`
    * `Sql.Statement.IsComposed`

  The main statement is `Sql.fragment_body`: a statement
  that the console composes is a fragment up to its
  terminator.
-/

namespace KbConsole

namespace Sql

variable {d : Dialect}

/- A fragment and its terminator make one statement. -/
theorem Fragment.isSealed
    {body : String}
    (hBody : Fragment d body) :
    IsSealed d (body ++ ";") := by
  have hTerminated :=
    IsBalanced.terminated ⟨hBody.closed, hBody.hides⟩
  refine ⟨hTerminated.1, hTerminated.2, ?_⟩
  rw [seen_append hBody.closed]
  exact opensComment_append hBody.noComment rfl hBody.settles

theorem Fragment.isBalanced
    {s : String}
    (hFragment : Fragment d s) :
    IsBalanced d s :=
  ⟨hFragment.closed, hFragment.hides⟩

------------------------------------------------------------
-- Parts of Statements
------------------------------------------------------------

theorem fragment_condition (condition : Condition) :
    Fragment d (condition.text d) := by
  have hSymbol : Fragment d condition.comparison.symbol := by
    cases condition.comparison <;>
      exact fragment_plain (by decide)
  unfold Condition.text
  repeat' with_reducible apply Fragment.append
  · exact fragment_column condition.column
  · exact fragment_plain (by decide)
  · exact hSymbol
  · exact fragment_plain (by decide)
  · exact fragment_literal condition.value

theorem fragment_source (source : Source) :
    Fragment d (source.text d) := by
  cases source with
  | column column => exact fragment_column column
  | joined columns =>
      apply Fragment.intercalate_map
      · exact ((fragment_plain (by decide)).append
          (fragment_quoted " ")).append
            (fragment_plain (by decide))
      · intro column _
        unfold Source.orEmpty
        repeat' with_reducible apply Fragment.append
        · exact fragment_plain (by decide)
        · exact fragment_column column
        · exact fragment_plain (by decide)
        · exact fragment_quoted ""
        · exact fragment_plain (by decide)
  | object members =>
      have hMembers :
          Fragment d (", ".intercalate
            (members.map (Source.memberText d))) := by
        apply Fragment.intercalate_map fragment_comma
        intro entry _
        exact ((fragment_quoted entry.1.text).append
          fragment_comma).append (fragment_column entry.2)
      exact ((fragment_plain (by decide)).append
        hMembers).append (fragment_plain (by decide))

theorem fragment_output (output : Output) :
    Fragment d (output.text d) := by
  unfold Output.text
  split
  · exact fragment_source output.source
  · exact ((fragment_source output.source).append
      (fragment_plain (by decide))).append
        (fragment_column _)

theorem fragment_targets
    {insertion : Insertion}
    (hTargets : ∀ t ∈ insertion.targets, Fragment d t) :
    Fragment d insertion.targetsText := by
  unfold Insertion.targetsText
  split
  · exact fragment_plain (by decide)
  · exact ((fragment_plain (by decide)).append
      (Fragment.intercalate fragment_comma hTargets)).append
        (fragment_plain (by decide))

theorem fragment_newest (insertion : Insertion) :
    Fragment d insertion.newestText := by
  unfold Insertion.newestText
  split
  · exact fragment_plain (by decide)
  · exact ((fragment_plain (by decide)).append
      (fragment_column _)).append
        (fragment_plain (by decide))

theorem fragment_order (insertion : Insertion) :
    Fragment d insertion.orderText := by
  unfold Insertion.orderText
  split
  · exact fragment_plain (by decide)
  · exact (fragment_plain (by decide)).append
      (fragment_column _)
  · rename_i direction _
    have hKeyword : Fragment d direction.keyword := by
      cases direction <;>
        exact fragment_plain (by decide)
    repeat' with_reducible apply Fragment.append
    · exact fragment_plain (by decide)
    · exact fragment_column _
    · exact fragment_plain (by decide)
    · exact hKeyword

theorem fragment_insertion
    {insertion : Insertion}
    (hTargets : ∀ t ∈ insertion.targets, Fragment d t) :
    Fragment d (insertion.text d) := by
  have hOutputs :
      Fragment d (", ".intercalate
        (insertion.outputs.map (Output.text d))) := by
    apply Fragment.intercalate_map fragment_comma
    intro output _
    exact fragment_output output
  unfold Insertion.text
  repeat' with_reducible apply Fragment.append
  · exact fragment_plain (by decide)
  · exact fragment_name insertion.knowledgeBase
  · exact fragment_targets hTargets
  · exact fragment_plain (by decide)
  · exact hOutputs
  · exact fragment_plain (by decide)
  · exact fragment_tableName insertion.source
  · exact fragment_newest insertion
  · exact fragment_order insertion
  · exact fragment_plain (by decide)
  · exact fragment_number insertion.limit

theorem fragment_scheduleText (schedule : Schedule) :
    Fragment d (scheduleText schedule) := by
  have hUnit : Fragment d schedule.unit.name := by
    cases schedule.unit <;>
      exact fragment_plain (by decide)
  unfold scheduleText
  repeat' with_reducible apply Fragment.append
  · exact fragment_plain (by decide)
  · exact fragment_number _
  · exact fragment_plain (by decide)
  · exact hUnit
  · split
    · exact fragment_plain (by decide)
    · exact fragment_plain (by decide)

theorem fragment_jobTable
    (table : JobTable)
    (project : Option Identifier) :
    Fragment d (table.text project) := by
  have hName : Fragment d (table.text none) := by
    cases table <;> exact fragment_plain (by decide)
  cases project with
  | none => exact hName
  | some project =>
      exact ((fragment_name project).append
        (fragment_plain (by decide))).append hName

theorem fragment_jobCondition (job : Identifier) :
    Fragment d (Statement.jobCondition d job) :=
  (fragment_plain (by decide)).append
    (fragment_quoted job.text)

theorem fragment_searchConditions
    (text : String)
    (conditions : List Condition) :
    Fragment d
      (Statement.searchConditions d text conditions) := by
  apply Fragment.intercalate (fragment_plain (by decide))
  intro part hPart
  rcases List.mem_cons.mp hPart with rfl | hPart
  · exact (fragment_plain (by decide)).append
      (fragment_quoted text)
  · rcases List.mem_map.mp hPart with ⟨condition, _, rfl⟩
    exact fragment_condition condition

------------------------------------------------------------
-- Options
------------------------------------------------------------

/- The names of options are fragments; so are all values. -/
def OptionsNamed
    (d : Dialect)
    (options : List Assignment) : Prop :=
  ∀ option ∈ options, Fragment d option.name

theorem OptionsNamed.append
    {options others : List Assignment}
    (hOptions : OptionsNamed d options)
    (hOthers : OptionsNamed d others) :
    OptionsNamed d (options ++ others) := by
  intro option hMember
  rcases List.mem_append.mp hMember with hMember | hMember
  · exact hOptions option hMember
  · exact hOthers option hMember

theorem OptionsNamed.cons
    {option : Assignment}
    {options : List Assignment}
    (hName : Fragment d option.name)
    (hOptions : OptionsNamed d options) :
    OptionsNamed d (option :: options) := by
  intro other hMember
  rcases List.mem_cons.mp hMember with rfl | hMember
  · exact hName
  · exact hOptions other hMember

theorem fragment_listText
    {options : List Assignment}
    (hNamed : OptionsNamed d options) :
    Fragment d (Assignment.listText d options) := by
  apply (fragment_plain (by decide)).append
  apply Fragment.intercalate_map fragment_comma
  intro option hOption
  apply ((hNamed option hOption).append
    (fragment_plain (by decide))).append
  cases option.value with
  | literal value => exact fragment_literal value
  | table name => exact fragment_tableName name

------------------------------------------------------------
-- Composed Statements
------------------------------------------------------------

/-
  A statement that the console composes by itself: none of
  its parts is SQL of the user, and its options and targets
  are named by fragments.
-/
def Statement.IsComposed (d : Dialect) : Statement → Prop
  | createKnowledgeBase _ options => OptionsNamed d options
  | insert insertion =>
      ∀ target ∈ insertion.targets, Fragment d target
  | createAgent _ options => OptionsNamed d options
  | evaluate _ options => OptionsNamed d options
  | createModel _ _ _ _ => False
  | verbatim _ => False
  | createJob job =>
      (∃ insertion, job.body = .insertion insertion ∧
        ∀ target ∈ insertion.targets, Fragment d target) ∧
        job.condition = none
  | _ => True

theorem fragment_timeClause
    {keyword : String}
    (hKeyword : Fragment d keyword)
    (time : Option String) :
    Fragment d (JobDefinition.timeClause d keyword time) := by
  cases time with
  | none => exact fragment_plain (by decide)
  | some time =>
      unfold JobDefinition.timeClause
      repeat' with_reducible apply Fragment.append
      · exact fragment_plain (by decide)
      · exact hKeyword
      · exact fragment_plain (by decide)
      · exact fragment_quoted time

theorem fragment_job
    {job : JobDefinition}
    (hComposed : (Statement.createJob job).IsComposed d) :
    Fragment d (job.text d) := by
  rcases hComposed with
    ⟨⟨insertion, hBody, hTargets⟩, hCondition⟩
  have hSchedule : Fragment d job.scheduleClause := by
    unfold JobDefinition.scheduleClause
    split
    · exact fragment_plain (by decide)
    · exact (fragment_plain (by decide)).append
        (fragment_scheduleText _)
  unfold JobDefinition.text JobDefinition.conditionClause
  rw [hBody, hCondition, JobBody.text]
  repeat' with_reducible apply Fragment.append
  · exact fragment_plain (by decide)
  · exact fragment_objectName job.name
  · exact fragment_plain (by decide)
  · exact fragment_insertion hTargets
  · exact fragment_plain (by decide)
  · exact hSchedule
  · exact fragment_timeClause
      (fragment_plain (by decide)) job.start
  · exact fragment_timeClause
      (fragment_plain (by decide)) job.finish
  · exact fragment_plain (by decide)

/- A composed statement is a fragment up to its terminator. -/
theorem fragment_body
    {s : Statement}
    (hComposed : s.IsComposed d) :
    Fragment d (s.body d) := by
  cases s with
  | createKnowledgeBase name options =>
      exact ((fragment_plain (by decide)).append
        (fragment_name name)).append
          (fragment_listText hComposed)
  | createDatasource name engine =>
      unfold Statement.body
      repeat' with_reducible apply Fragment.append
      · exact fragment_plain (by decide)
      · exact fragment_name name
      · exact fragment_plain (by decide)
      · exact fragment_quoted engine
  | insert insertion => exact fragment_insertion hComposed
  | search knowledgeBase text conditions limit =>
      unfold Statement.body
      repeat' with_reducible apply Fragment.append
      · exact fragment_plain (by decide)
      · exact fragment_name knowledgeBase
      · exact fragment_plain (by decide)
      · exact fragment_searchConditions text conditions
      · exact fragment_plain (by decide)
      · exact fragment_number limit
  | createIndex knowledgeBase =>
      exact (fragment_plain (by decide)).append
        (fragment_name knowledgeBase)
  | showDatabases => exact fragment_plain (by decide)
  | createAgent name options =>
      exact ((fragment_plain (by decide)).append
        (fragment_name name)).append
          (fragment_listText hComposed)
  | askAgent name question =>
      unfold Statement.body
      repeat' with_reducible apply Fragment.append
      · exact fragment_plain (by decide)
      · exact fragment_name name
      · exact fragment_plain (by decide)
      · exact fragment_quoted question
  | evaluate knowledgeBase options =>
      exact ((fragment_plain (by decide)).append
        (fragment_name knowledgeBase)).append
          (fragment_listText hComposed)
  | createModel name query predict options =>
      exact hComposed.elim
  | showModels project =>
      cases project with
      | none => exact fragment_plain (by decide)
      | some project =>
          exact (fragment_plain (by decide)).append
            (fragment_name project)
  | describeModel name =>
      exact (fragment_plain (by decide)).append
        (fragment_objectName name)
  | dropModel name =>
      exact (fragment_plain (by decide)).append
        (fragment_objectName name)
  | retrain name =>
      exact (fragment_plain (by decide)).append
        (fragment_objectName name)
  | verbatim sql => exact hComposed.elim
  | createJob job => exact fragment_job hComposed
  | showJobs => exact fragment_plain (by decide)
  | selectJobs project =>
      exact (fragment_plain (by decide)).append
        (fragment_jobTable .jobs (some project))
  | selectJob table project job =>
      exact ((fragment_plain (by decide)).append
        (fragment_jobTable table project)).append
          (fragment_jobCondition job)
  | selectRuns project job limit =>
      unfold Statement.body
      repeat' with_reducible apply Fragment.append
      · exact fragment_plain (by decide)
      · exact fragment_jobTable .history project
      · exact fragment_jobCondition job
      · exact fragment_plain (by decide)
      · exact fragment_number limit
  | dropJob name =>
      exact (fragment_plain (by decide)).append
        (fragment_objectName name)

/- A model's statement is as balanced as its query. -/
theorem isBalanced_createModel
    (name : ObjectName)
    {query : String}
    (hQuery : IsBalanced d query)
    (predict : Identifier)
    {options : List Assignment}
    (hNamed : OptionsNamed d options) :
    IsBalanced d
      ((Statement.createModel name query predict
        options).body d) := by
  have hPlain {cs : List Char}
      (h : cs.all isPlain = true) :
      IsBalanced d (String.ofList cs) :=
    (fragment_plain h).isBalanced
  have hFrom :
      IsBalanced d
        ("CREATE MODEL " ++ name.text ++ " FROM (") :=
    ((hPlain (by decide)).append
      (fragment_objectName name).isBalanced).append
        (hPlain (by decide))
  have hPredict :
      IsBalanced d
        ("CREATE MODEL " ++ name.text ++ " FROM (" ++ query ++
          ") PREDICT " ++ predict.text) :=
    ((hFrom.append hQuery).append
      (hPlain (by decide))).append
        (fragment_name predict).isBalanced
  exact hPredict.append (fragment_listText hNamed).isBalanced

end Sql

end KbConsole
