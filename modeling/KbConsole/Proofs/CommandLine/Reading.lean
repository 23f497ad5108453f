import KbConsole.CommandLine.Catalog
import KbConsole.Proofs.Keyed
import KbConsole.Proofs.Result

/-
  Command lines that are read as commands, and what one more
  argument at their end does.

  Each level of the program scans what the level before left
  of the arguments. The scan is followed argument by
  argument, for each kind that an argument may be of.

  Key definitions include:
    * `IsDashed`
    * `IsScan`
    * `Action.operation?`, `Action.isRemoval`
    * `Invocation.IsConsented`

  The main statements are `Program.read_eq_run_iff`, that a
  command is read level by level, and
  `exists_read_concat_yes`, that consent may be given at the
  end of a removal. The latter rests on `IsScan.concat`, by
  which the last argument is found after all others.
-/

namespace KbConsole

namespace CommandLine

------------------------------------------------------------
-- Levels
------------------------------------------------------------

section Levels

variable {p : Program}
variable {g : Group}
variable {i : Invocation}

theorem levelReading_ne_run
    (page : Page)
    (names : List String)
    (options : List OptionSpec)
    (operands unknown : List String) :
    levelReading page names options operands unknown ≠
      .run i := by
  unfold levelReading
  split
  · exact Reading.noConfusion
  · split
    · exact Reading.noConfusion
    · split <;> exact Reading.noConfusion

theorem helpReading_ne_run
    (page : Page)
    (page? : String → Option Page)
    (name : Option String) :
    helpReading page page? name ≠ .run i := by
  unfold helpReading
  split
  · exact Reading.noConfusion
  · split
    · exact Reading.noConfusion
    · split <;> exact Reading.noConfusion

/- A command is read from a group that is named first. -/
theorem Program.read_eq_run_iff {argv : List String} :
    p.read argv = .run i ↔
      ∃ s name rest g,
        scan p.options false argv = .ok s ∧
          s.has versionOption.long = false ∧
          s.operands = name :: rest ∧
          p.group? name = some g ∧
          g.read p (Switches.ofScan s) rest s.unknown =
            .run i := by
  unfold Program.read
  constructor
  · intro hRead
    split at hRead
    · cases hRead
    · rename_i s hScan
      simp only at hRead
      split at hRead
      · cases hRead
      · rename_i hVersion
        split at hRead
        · exact absurd hRead (levelReading_ne_run _ _ _ _ _)
        · rename_i name rest hOperands
          split at hRead
          · rename_i g hGroup
            exact ⟨s, name, rest, g, hScan,
              Bool.eq_false_iff.mpr hVersion, hOperands, hGroup,
              hRead⟩
          · split at hRead
            · exact absurd hRead (helpReading_ne_run _ _ _)
            · exact absurd hRead (levelReading_ne_run _ _ _ _ _)
  · rintro ⟨s, name, rest, g, hScan, hVersion, hOperands,
      hGroup, hRead⟩
    simp only [hScan, hVersion, hOperands, hGroup, hRead]
    rfl

/- A command of a group is named by the next operand. -/
theorem Group.read_eq_run_iff
    {switches : Switches}
    {operands unknown : List String} :
    g.read p switches operands unknown = .run i ↔
      ∃ s name rest c,
        scan [] false unknown = .ok s ∧
          operands ++ s.operands = name :: rest ∧
          g.command? name = some c ∧
          c.read p g switches rest s.unknown = .run i := by
  unfold Group.read
  constructor
  · intro hRead
    split at hRead
    · cases hRead
    · rename_i s hScan
      simp only at hRead
      split at hRead
      · exact absurd hRead (levelReading_ne_run _ _ _ _ _)
      · rename_i name rest hOperands
        split at hRead
        · rename_i c hCommand
          exact ⟨s, name, rest, c, hScan, hOperands, hCommand,
            hRead⟩
        · split at hRead
          · exact absurd hRead (helpReading_ne_run _ _ _)
          · exact absurd hRead (levelReading_ne_run _ _ _ _ _)
  · rintro ⟨s, name, rest, c, hScan, hOperands, hCommand,
      hRead⟩
    simp only [hScan, hOperands, hCommand, hRead]

/- A command takes its options and the other operands. -/
theorem Command.read_eq_run_iff
    {c : Command}
    {switches : Switches}
    {operands unknown : List String} :
    c.read p g switches operands unknown = .run i ↔
      ∃ s positional,
        scan c.options false unknown = .ok s ∧
          s.unknown = [] ∧
          positionalArguments c.positionals
              (operands ++ s.operands) =
            .ok positional ∧
          i =
            { action := c.action
              switches
              arguments :=
                positional ++ optionArguments c.options s } := by
  unfold Command.read
  constructor
  · intro hRead
    split at hRead
    · cases hRead
    · rename_i s hScan
      split at hRead
      · cases hRead
      · split at hRead
        · cases hRead
        · rename_i hUnknown
          split at hRead
          · cases hRead
          · rename_i positional hPositional
            exact ⟨s, positional, hScan, hUnknown, hPositional,
              (Reading.run.inj hRead).symm⟩
  · rintro ⟨s, positional, hScan, hUnknown, hPositional, rfl⟩
    simp only [hScan, hUnknown, hPositional]
    rfl

end Levels

------------------------------------------------------------
-- One more Argument
------------------------------------------------------------

namespace Scan

/- What is found in one list and then in another one. -/
def append (first second : Scan) : Scan where
  given := first.given ++ second.given
  operands := first.operands ++ second.operands
  unknown := first.unknown ++ second.unknown

theorem append_unknown (s : Scan) (args : List String) :
    s.append { unknown := args } =
      { s with unknown := s.unknown ++ args } := by
  simp [append]

theorem append_given
    (s : Scan)
    (given : List (OptionSpec × Option String)) :
    s.append { given } =
      { s with given := s.given ++ given } := by
  simp [append]

theorem giveAll_append
    (flags : List OptionSpec)
    (first second : Scan) :
    giveAll flags (first.append second) =
      (giveAll flags first).append second := by
  induction flags with
  | nil => rfl
  | cons o flags ih => exact congrArg (give o none) ih

theorem leave_append
    (loose : Bool)
    (arg : String)
    (first second : Scan) :
    leave loose arg (first.append second) =
      (leave loose arg first).append second := by
  cases loose <;> rfl

end Scan

/-
  An argument that begins and ends with a dash. No other one
  can end the options, alone or after a cluster of flags.
-/
def IsDashed (arg : String) : Prop :=
  ∃ middle, arg.toList = '-' :: (middle ++ ['-'])

section Arguments

variable {options : List OptionSpec}

theorem attached?_ne_stop (cs : List Char) :
    Token.attached? options cs ≠ some .stop := by
  unfold Token.attached?
  split
  · split
    · cases Token.ofLetter? options _ with
      | none => simp
      | some o =>
          rw [Option.bind_some]
          split <;> simp
    · simp
  · simp

theorem assigned?_ne_stop (cs : List Char) :
    Token.assigned? options cs ≠ some .stop := by
  unfold Token.assigned?
  simp only
  split
  · cases Token.find? options _ with
    | none => simp
    | some o =>
        rw [Option.bind_some]
        split <;> simp
  · simp

/- Only two dashes end the options. -/
theorem isDashed_of_stop
    {arg : String}
    (hStop : Token.ofText options arg = .stop) :
    IsDashed arg := by
  unfold Token.ofText at hStop
  simp only at hStop
  split at hStop
  · rename_i hDashes
    exact ⟨[], hDashes⟩
  · split at hStop
    · cases hStop
    · split at hStop
      · split at hStop <;> cases hStop
      · split at hStop
        · rename_i hAttached
          rw [hStop] at hAttached
          exact absurd hAttached (attached?_ne_stop _)
        · rename_i hAssigned
          rw [hStop] at hAssigned
          exact absurd hAssigned (assigned?_ne_stop _)
        · cases hStop

theorem leadingFlags_suffix
    (options : List OptionSpec)
    (cs : List Char) :
    (leadingFlags options cs).2 <:+ cs := by
  induction cs with
  | nil => exact List.suffix_refl []
  | cons c cs ih =>
      cases cs with
      | nil => exact List.suffix_refl [c]
      | cons d cs =>
          unfold leadingFlags
          split
          · exact List.suffix_refl _
          · split
            · exact List.suffix_refl _
            · exact ih.trans (List.suffix_cons c (d :: cs))

/- Taking flags out leaves both ends as they are. -/
theorem IsDashed.of_peel
    {first arg : String}
    {flags : List OptionSpec}
    (hDashed : IsDashed arg)
    (hPeel : peel options first = (flags, arg)) :
    IsDashed first := by
  unfold peel at hPeel
  split at hPeel
  · cases hPeel
    exact hDashed
  · rename_i dash cs hFirst
    split at hPeel
    · rename_i hDash
      cases hPeel
      rcases hDashed with ⟨middle, hRest⟩
      rw [String.toList_ofList, List.cons.injEq] at hRest
      rcases leadingFlags_suffix options cs with
        ⟨front, hFront⟩
      refine ⟨front ++ middle, ?_⟩
      rw [hFirst, hDash, ← hFront, hRest.2, List.append_assoc]
    · cases hPeel
      exact hDashed

/- No argument ends the options where none is dashed. -/
theorem ofText_ne_stop
    {first arg : String}
    {flags : List OptionSpec}
    (hPeel : peel options first = (flags, arg))
    (hOpen : ¬ IsDashed first) :
    Token.ofText options arg ≠ .stop := by
  intro hStop
  exact hOpen ((isDashed_of_stop hStop).of_peel hPeel)

end Arguments

------------------------------------------------------------
-- Scans
------------------------------------------------------------

/-
  What a scan finds, by what is left of the first argument
  when flags are taken out.
-/
inductive IsScan (options : List OptionSpec) :
    Bool → List String → Scan → Prop
  | nil (loose : Bool) : IsScan options loose [] {}
  | stop
      {loose : Bool}
      {first arg : String}
      {flags : List OptionSpec}
      (rest : List String)
      (hPeel : peel options first = (flags, arg))
      (hToken : Token.ofText options arg = .stop) :
      IsScan options loose (first :: rest)
        ((Scan.afterStop loose rest).giveAll flags)
  | given
      {loose : Bool}
      {first arg : String}
      {flags : List OptionSpec}
      {rest : List String}
      {o : OptionSpec}
      {s : Scan}
      (hPeel : peel options first = (flags, arg))
      (hToken : Token.ofText options arg = .given o)
      (hRest : IsScan options loose rest s) :
      IsScan options loose (first :: rest)
        ((s.give o none).giveAll flags)
  | valued
      {loose : Bool}
      {first arg value : String}
      {flags : List OptionSpec}
      {rest : List String}
      {o : OptionSpec}
      {s : Scan}
      (hPeel : peel options first = (flags, arg))
      (hToken : Token.ofText options arg = .valued o value)
      (hRest : IsScan options loose rest s) :
      IsScan options loose (first :: rest)
        ((s.give o (some value)).giveAll flags)
  | awaiting
      {loose : Bool}
      {first arg : String}
      {flags : List OptionSpec}
      {rest : List String}
      {o : OptionSpec}
      {s : Scan}
      (value : String)
      (hPeel : peel options first = (flags, arg))
      (hToken : Token.ofText options arg = .awaiting o)
      (hRest : IsScan options loose rest s) :
      IsScan options loose (first :: value :: rest)
        ((s.give o (some value)).giveAll flags)
  | unknown
      {loose : Bool}
      {first arg : String}
      {flags : List OptionSpec}
      {rest : List String}
      {s : Scan}
      (hPeel : peel options first = (flags, arg))
      (hToken : Token.ofText options arg = .unknown)
      (hRest : IsScan options true rest s) :
      IsScan options loose (first :: rest)
        ((s.leave true arg).giveAll flags)
  | operand
      {loose : Bool}
      {first arg : String}
      {flags : List OptionSpec}
      {rest : List String}
      {s : Scan}
      (hPeel : peel options first = (flags, arg))
      (hToken : Token.ofText options arg = .operand)
      (hRest : IsScan options loose rest s) :
      IsScan options loose (first :: rest)
        ((s.leave loose arg).giveAll flags)

section Scans

variable {options : List OptionSpec}
variable {loose : Bool}
variable {args : List String}
variable {s : Scan}

theorem scan_of_isScan (hScan : IsScan options loose args s) :
    scan options loose args = .ok s := by
  induction hScan with
  | nil loose => rfl
  | stop rest hPeel hToken =>
      rw [scan, hPeel]
      simp only [hToken, ok_map]
  | given hPeel hToken hRest ih =>
      rw [scan, hPeel]
      simp only [hToken, ih, ok_map]
  | valued hPeel hToken hRest ih =>
      rw [scan, hPeel]
      simp only [hToken, ih, ok_map]
  | awaiting value hPeel hToken hRest ih =>
      rw [scan, hPeel]
      simp only [hToken, ih, ok_map]
  | unknown hPeel hToken hRest ih =>
      rw [scan, hPeel]
      simp only [hToken, ih, ok_map]
  | operand hPeel hToken hRest ih =>
      rw [scan, hPeel]
      simp only [hToken, ih, ok_map]

theorem isScan_of_scan
    (hScan : scan options loose args = .ok s) :
    IsScan options loose args s := by
  induction hLength : args.length using Nat.strongRecOn
    generalizing loose args s with
  | ind n ih =>
      cases args with
      | nil =>
          cases hScan
          exact IsScan.nil loose
      | cons first rest =>
          have hRest {loose : Bool} {s : Scan}
              (hScan : scan options loose rest = .ok s) :
              IsScan options loose rest s := by
            apply ih rest.length _ hScan rfl
            rw [← hLength]
            exact Nat.lt_succ_self rest.length
          rcases hPeel : peel options first with ⟨flags, arg⟩
          simp only [scan, hPeel, map_eq_ok_iff] at hScan
          rcases hScan with ⟨found, hFound, rfl⟩
          cases hToken : Token.ofText options arg with
          | stop =>
              simp only [hToken, Except.ok.injEq] at hFound
              rw [← hFound]
              exact IsScan.stop rest hPeel hToken
          | given o =>
              simp only [hToken, map_eq_ok_iff] at hFound
              rcases hFound with ⟨s, hOk, rfl⟩
              exact IsScan.given hPeel hToken (hRest hOk)
          | valued o value =>
              simp only [hToken, map_eq_ok_iff] at hFound
              rcases hFound with ⟨s, hOk, rfl⟩
              exact IsScan.valued hPeel hToken (hRest hOk)
          | awaiting o =>
              cases rest with
              | nil =>
                  simp only [hToken] at hFound
                  cases hFound
              | cons value rest =>
                  simp only [hToken, map_eq_ok_iff] at hFound
                  rcases hFound with ⟨s, hOk, rfl⟩
                  apply IsScan.awaiting value hPeel hToken
                  apply ih rest.length _ hOk rfl
                  rw [← hLength, List.length_cons,
                    List.length_cons]
                  omega
          | unknown =>
              simp only [hToken, map_eq_ok_iff] at hFound
              rcases hFound with ⟨s, hOk, rfl⟩
              exact IsScan.unknown hPeel hToken (hRest hOk)
          | operand =>
              simp only [hToken, map_eq_ok_iff] at hFound
              rcases hFound with ⟨s, hOk, rfl⟩
              exact IsScan.operand hPeel hToken (hRest hOk)

/- What is left for the next level is not dashed either. -/
theorem IsScan.forall_unknown
    (hScan : IsScan options loose args s)
    (hOpen : ∀ arg ∈ args, ¬ IsDashed arg) :
    ∀ arg ∈ s.unknown, ¬ IsDashed arg := by
  have hFlags (flags : List OptionSpec) (s : Scan) :
      (s.giveAll flags).unknown = s.unknown := by
    induction flags with
    | nil => rfl
    | cons o flags ih => exact ih
  have hArg {first arg : String} {flags : List OptionSpec}
      (hPeel : peel options first = (flags, arg))
      (hFirst : ¬ IsDashed first) : ¬ IsDashed arg :=
    fun hDashed => hFirst (hDashed.of_peel hPeel)
  induction hScan with
  | nil loose => simp
  | stop rest hPeel hToken =>
      rw [List.forall_mem_cons] at hOpen
      exact absurd hToken (ofText_ne_stop hPeel hOpen.1)
  | given hPeel hToken hRest ih =>
      rw [List.forall_mem_cons] at hOpen
      rw [hFlags]
      exact ih hOpen.2
  | valued hPeel hToken hRest ih =>
      rw [List.forall_mem_cons] at hOpen
      rw [hFlags]
      exact ih hOpen.2
  | awaiting value hPeel hToken hRest ih =>
      rw [List.forall_mem_cons, List.forall_mem_cons] at hOpen
      rw [hFlags]
      exact ih hOpen.2.2
  | unknown hPeel hToken hRest ih =>
      rw [List.forall_mem_cons] at hOpen
      rw [hFlags]
      exact List.forall_mem_cons.mpr
        ⟨hArg hPeel hOpen.1, ih hOpen.2⟩
  | @operand loose _ _ _ _ _ hPeel hToken hRest ih =>
      rw [List.forall_mem_cons] at hOpen
      rw [hFlags]
      cases loose with
      | false => exact ih hOpen.2
      | true =>
          exact List.forall_mem_cons.mpr
            ⟨hArg hPeel hOpen.1, ih hOpen.2⟩

/-
  An argument at the end is found after all others, unless
  one of them ended the options. What it is may not depend
  on what came before.
-/
theorem IsScan.concat
    {last : String}
    {found : Scan}
    (hScan : IsScan options loose args s)
    (hOpen : ∀ arg ∈ args, ¬ IsDashed arg)
    (hLast : ∀ loose, IsScan options loose [last] found) :
    IsScan options loose (args ++ [last]) (s.append found) := by
  induction hScan with
  | nil loose => exact hLast loose
  | stop rest hPeel hToken =>
      rw [List.forall_mem_cons] at hOpen
      exact absurd hToken (ofText_ne_stop hPeel hOpen.1)
  | given hPeel hToken hRest ih =>
      rw [List.forall_mem_cons] at hOpen
      rw [← Scan.giveAll_append]
      exact IsScan.given hPeel hToken (ih hOpen.2)
  | valued hPeel hToken hRest ih =>
      rw [List.forall_mem_cons] at hOpen
      rw [← Scan.giveAll_append]
      exact IsScan.valued hPeel hToken (ih hOpen.2)
  | awaiting value hPeel hToken hRest ih =>
      rw [List.forall_mem_cons, List.forall_mem_cons] at hOpen
      rw [← Scan.giveAll_append]
      exact IsScan.awaiting value hPeel hToken (ih hOpen.2.2)
  | unknown hPeel hToken hRest ih =>
      rw [List.forall_mem_cons] at hOpen
      rw [← Scan.giveAll_append, ← Scan.leave_append]
      exact IsScan.unknown hPeel hToken (ih hOpen.2)
  | operand hPeel hToken hRest ih =>
      rw [List.forall_mem_cons] at hOpen
      rw [← Scan.giveAll_append, ← Scan.leave_append]
      exact IsScan.operand hPeel hToken (ih hOpen.2)

end Scans

------------------------------------------------------------
-- Removals
------------------------------------------------------------

/- The operation that an action carries out. -/
def Action.operation? : Action → Option Operation
  | perform operation => some operation
  | remove operation _ _ => some operation
  | _ => none

/- Whether an action is a removal, which asks first. -/
def Action.isRemoval : Action → Bool
  | remove _ _ _ => true
  | _ => false

/- The commands that ask first, by operation. -/
theorem isRemoval_iff :
    ∀ g ∈ console.groups, ∀ c ∈ g.commands,
      ∀ operation ∈ c.action.operation?,
        c.action.isRemoval = true ↔
          operation = .dropModel ∨ operation = .dropJob := by
  decide

/- What a command that asks first takes. -/
theorem removal_takes :
    ∀ g ∈ console.groups, ∀ c ∈ g.commands,
      c.action.isRemoval = true →
        (∃ p ∈ [modelName, jobName], c.positionals = [p]) ∧
          ∃ noun ∈ ["model", "job"],
            c.options =
              [projectOption ("Project that owns the " ++ noun),
                yesOption] := by
  decide

/- The command that an invocation was read from. -/
theorem exists_command
    {argv : List String}
    {i : Invocation}
    (hRead : console.read argv = .run i) :
    ∃ g ∈ console.groups, ∃ c ∈ g.commands,
      i.action = c.action := by
  rcases Program.read_eq_run_iff.mp hRead with
    ⟨s, name, rest, g, -, -, -, hGroup, hRest⟩
  rcases Group.read_eq_run_iff.mp hRest with
    ⟨s, name, rest, c, -, -, hCommand, hRest⟩
  rcases Command.read_eq_run_iff.mp hRest with
    ⟨s, positional, -, -, -, rfl⟩
  exact ⟨g, List.mem_of_find?_eq_some hGroup, c,
    List.mem_of_find?_eq_some hCommand, rfl⟩

------------------------------------------------------------
-- Consent on the Command Line
------------------------------------------------------------

/-
  An invocation and one with the consent of the user on the
  command line. Nothing else differs.
-/
structure Invocation.IsConsented (i j : Invocation) : Prop where
  action_eq : j.action = i.action
  switches_eq : j.switches = i.switches
  isSet_yes : j.arguments.isSet "yes" = true
  get?_eq :
    ∀ key, key ≠ "yes" →
      Keyed.get? key j.arguments = Keyed.get? key i.arguments

/- An argument that a level does not know is left alone. -/
theorem isScan_unknown
    {options : List OptionSpec}
    {arg : String}
    (hPeel : peel options arg = ([], arg))
    (hToken : Token.ofText options arg = .unknown)
    (loose : Bool) :
    IsScan options loose [arg] { unknown := [arg] } :=
  IsScan.unknown hPeel hToken (IsScan.nil true)

/- What a command that asks first finds of the consent. -/
def consent : Scan where
  given := [(yesOption, none)]

section Consent

variable (description : String)

theorem isScan_consent (loose : Bool) :
    IsScan [projectOption description, yesOption] loose
      ["--yes"] consent := by
  have hPeel :
      peel [projectOption description, yesOption] "--yes" =
        ([], "--yes") := rfl
  have hToken :
      Token.ofText [projectOption description, yesOption]
          "--yes" =
        .given yesOption := rfl
  exact IsScan.given hPeel hToken (IsScan.nil loose)

/- The project of a removal, if it is given. -/
def projectArgument (s : Scan) : Arguments :=
  ((s.valuesOf "project-name").getLast?.map fun text =>
    ("projectName", Argument.text text)).toList

theorem optionArguments_removal (s : Scan) :
    optionArguments [projectOption description, yesOption] s =
      projectArgument s ++
        if s.has "yes" then [("yes", .flag true)] else [] := by
  have hProject :
      (projectOption description).key = "projectName" := by
    have hKey :
        OptionSpec.camelCase "project-name" =
          "projectName" := by
      decide +kernel
    exact hKey
  have hYes : yesOption.key = "yes" := rfl
  have hName :
      optionArgument s (projectOption description) =
        (s.valuesOf "project-name").getLast?.map
          Argument.text := rfl
  have hConsent :
      optionArgument s yesOption =
        if s.has "yes" then some (.flag true) else none := rfl
  rw [optionArguments, List.filterMap_cons,
    List.filterMap_cons, List.filterMap_nil, hProject, hYes,
    hName, hConsent, projectArgument]
  cases (s.valuesOf "project-name").getLast? with
  | none => cases s.has "yes" <;> rfl
  | some text => cases s.has "yes" <;> rfl

/- Consent at the end is one more flag. -/
theorem optionArguments_consent (s : Scan) :
    optionArguments [projectOption description, yesOption]
        (s.append consent) =
      projectArgument s ++ [("yes", .flag true)] := by
  have hProject :
      projectArgument (s.append consent) =
        projectArgument s := by
    have hValues :
        (s.append consent).valuesOf "project-name" =
          s.valuesOf "project-name" := by
      rw [Scan.valuesOf, Scan.append, List.filterMap_append]
      exact List.append_nil _
    rw [projectArgument, hValues, projectArgument]
  have hGiven : (s.append consent).has "yes" = true := by
    rw [Scan.has, Scan.append, List.any_append]
    exact Bool.or_true _
  rw [optionArguments_removal, hProject, hGiven, if_pos rfl]

/- It sets a flag and changes nothing else. -/
theorem arguments_consent
    {before : Arguments}
    (hBefore : "yes" ∉ Keyed.keys before)
    (s : Scan) :
    let options := [projectOption description, yesOption]
    let args := before ++ optionArguments options s
    let consented :=
      before ++ optionArguments options (s.append consent)
    consented.isSet "yes" = true ∧
      ∀ key, key ≠ "yes" →
        Keyed.get? key consented = Keyed.get? key args := by
  intro options args consented
  have hConsented :
      consented =
        before ++
          (projectArgument s ++ [("yes", .flag true)]) :=
    congrArg (before ++ ·)
      (optionArguments_consent description s)
  constructor
  · have hNone : Keyed.get? "yes" before = none := by
      rw [Option.eq_none_iff_forall_ne_some]
      intro value hValue
      exact hBefore (Keyed.mem_keys_iff.mpr ⟨value, hValue⟩)
    rw [hConsented, Arguments.isSet, Keyed.get?_append, hNone,
      Keyed.get?_append, projectArgument]
    cases (s.valuesOf "project-name").getLast? with
    | none => rfl
    | some text => rfl
  · intro key hKey
    have hYes :
        Keyed.get? key [("yes", Argument.flag true)] = none :=
      if_neg (Ne.symm hKey)
    have hArgs :
        args =
          before ++ (projectArgument s ++
            if s.has "yes" then [("yes", .flag true)]
            else []) :=
      congrArg (before ++ ·)
        (optionArguments_removal description s)
    rw [hConsented, hArgs, Keyed.get?_append,
      Keyed.get?_append, Keyed.get?_append, Keyed.get?_append,
      hYes]
    split
    · rw [hYes]
    · rfl

end Consent

/- No argument of a removal has the name of the consent. -/
theorem yes_notMem_keys
    {p : Positional}
    (hName : p ∈ [modelName, jobName])
    {operands : List String}
    {positional : Arguments}
    (hPositional :
      positionalArguments [p] operands = .ok positional) :
    "yes" ∉ Keyed.keys positional := by
  have hForm :
      p.isOptional = false ∧ p.takesRest = false ∧
        p.key ≠ "yes" := by
    clear hPositional
    revert p
    decide
  cases operands with
  | nil =>
      rw [positionalArguments, hForm.1] at hPositional
      cases hPositional
  | cons operand operands =>
      rw [positionalArguments, hForm.2.1] at hPositional
      cases hPositional
      simpa [Keyed.keys] using hForm.2.2.symm

/- A removal with the consent at its end is the same removal. -/
theorem exists_read_concat_yes
    {argv : List String}
    {i : Invocation}
    (hRead : console.read argv = .run i)
    (hRemoval : i.action.isRemoval = true)
    (hOpen : ∀ arg ∈ argv, ¬ IsDashed arg) :
    ∃ j,
      console.read (argv ++ ["--yes"]) = .run j ∧
        i.IsConsented j := by
  rcases Program.read_eq_run_iff.mp hRead with
    ⟨top, name, rest, g, hTop, hVersion, hGroupName, hGroup,
      hRest⟩
  rcases Group.read_eq_run_iff.mp hRest with
    ⟨middle, name, rest, c, hMiddle, hName, hCommand, hRest⟩
  rcases Command.read_eq_run_iff.mp hRest with
    ⟨bottom, positional, hBottom, hUnknown, hPositional, rfl⟩
  rcases removal_takes g (List.mem_of_find?_eq_some hGroup) c
      (List.mem_of_find?_eq_some hCommand) hRemoval with
    ⟨⟨p, hTakes, hPositionals⟩, noun, -, hOptions⟩
  have hTopScan := isScan_of_scan hTop
  have hMiddleScan := isScan_of_scan hMiddle
  have hBottomScan := isScan_of_scan hBottom
  have hTopOpen := hTopScan.forall_unknown hOpen
  have hMiddleOpen := hMiddleScan.forall_unknown hTopOpen
  have hUnknownTop (loose : Bool) :
      IsScan console.options loose ["--yes"]
        { unknown := ["--yes"] } :=
    isScan_unknown rfl rfl loose
  have hUnknownMiddle (loose : Bool) :
      IsScan [] loose ["--yes"] { unknown := ["--yes"] } :=
    isScan_unknown rfl rfl loose
  have hTop' :=
    scan_of_isScan (hTopScan.concat hOpen hUnknownTop)
  have hMiddle' :=
    scan_of_isScan (hMiddleScan.concat hTopOpen hUnknownMiddle)
  rw [Scan.append_unknown] at hTop' hMiddle'
  rw [hOptions] at hBottom hBottomScan
  have hBottom' :=
    scan_of_isScan
      (hBottomScan.concat hMiddleOpen (isScan_consent _))
  rw [hPositionals] at hPositional
  have hArguments :=
    arguments_consent ("Project that owns the " ++ noun)
      (yes_notMem_keys hTakes hPositional) bottom
  rw [← hOptions] at hBottom' hArguments
  refine
    ⟨{ action := c.action
       switches := Switches.ofScan top
       arguments :=
         positional ++
           optionArguments c.options (bottom.append consent) },
      ?_, rfl, rfl, hArguments.1, hArguments.2⟩
  apply Program.read_eq_run_iff.mpr
  refine ⟨_, _, _, g, hTop', hVersion, hGroupName, hGroup, ?_⟩
  apply Group.read_eq_run_iff.mpr
  refine ⟨_, _, _, c, hMiddle', hName, hCommand, ?_⟩
  apply Command.read_eq_run_iff.mpr
  refine ⟨_, positional, hBottom', ?_, ?_, rfl⟩
  · rw [consent, Scan.append_given]
    exact hUnknown
  · rw [hPositionals, consent, Scan.append_given]
    exact hPositional

end CommandLine

end KbConsole
