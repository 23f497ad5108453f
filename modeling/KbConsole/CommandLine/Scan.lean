import KbConsole.CommandLine.Fault

/-
  One reading of an argument list for a set of options.

  Each level of the program takes the options it knows out
  of the list, wherever they stand, and leaves the rest to
  the next level. From the first unknown option on, the rest
  is left as it is, so that the next level can tell options
  from operands. After two dashes nothing is an option.

  Key definitions include:
    * `Token`
    * `Token.ofText`
    * `Scan`
    * `scan`
-/

namespace KbConsole

namespace CommandLine

------------------------------------------------------------
-- Arguments
------------------------------------------------------------

/- What one argument is to a level. -/
inductive Token where
  /- It ends the options. -/
  | stop
  /- It gives an option that takes no value. -/
  | given (option : OptionSpec)
  /- It gives an option, and its value. -/
  | valued (option : OptionSpec) (value : String)
  /- It gives an option whose value comes next. -/
  | awaiting (option : OptionSpec)
  /- It looks like an option, but is not known. -/
  | unknown
  /- It does not look like an option. -/
  | operand
deriving DecidableEq, Repr, Inhabited

namespace Token

/- The option that an argument writes. -/
def find? (options : List OptionSpec) (arg : String) :
    Option OptionSpec :=
  options.find? (·.isWritten arg)

/- The option with the given short letter. -/
def ofLetter? (options : List OptionSpec) (c : Char) :
    Option OptionSpec :=
  options.find? (·.short == some c)

/- A short option with its value attached. -/
def attached? (options : List OptionSpec) :
    List Char → Option Token
  | dash :: c :: value =>
      if dash = '-' ∧ c ≠ '-' ∧ !value.isEmpty then
        (ofLetter? options c).bind fun o =>
          if o.takesValue then
            some (valued o (String.ofList value))
          else
            none
      else
        none
  | _ => none

/- A long option with its value after an equals sign. -/
def assigned? (options : List OptionSpec) (cs : List Char) :
    Option Token :=
  let name := cs.takeWhile (· != '=')
  match Text.after? ['-', '-'] name, cs.dropWhile (· != '=') with
  | some (_ :: _), _ :: value =>
      (find? options (String.ofList name)).bind fun o =>
        if o.takesValue then
          some (valued o (String.ofList value))
        else
          none
  | _, _ => none

/- Whether an argument looks like an option. -/
def isOptionLike : List Char → Bool
  | c :: _ :: _ => c == '-'
  | _ => false

/- What an argument is to a level with the given options. -/
def ofText (options : List OptionSpec) (arg : String) : Token :=
  let cs := arg.toList
  if cs = ['-', '-'] then
    stop
  else if !isOptionLike cs then
    operand
  else
    match find? options arg with
    | some o => if o.takesValue then awaiting o else given o
    | none =>
        match attached? options cs, assigned? options cs with
        | some token, _ => token
        | none, some token => token
        | none, none => unknown

end Token

------------------------------------------------------------
-- Clusters
------------------------------------------------------------

/-
  The flags at the start of a cluster of short letters, and
  the letters after them. A last letter is left alone.
-/
def leadingFlags (options : List OptionSpec) :
    List Char → List OptionSpec × List Char
  | c :: d :: cs =>
      match Token.ofLetter? options c with
      | none => ([], c :: d :: cs)
      | some o =>
          if o.takesValue || c == '-' then
            ([], c :: d :: cs)
          else
            let (flags, rest) := leadingFlags options (d :: cs)
            (o :: flags, rest)
  | cs => ([], cs)

/-
  The flags at the start of an argument, and the argument
  that is left when they are taken out.
-/
def peel (options : List OptionSpec) (arg : String) :
    List OptionSpec × String :=
  match arg.toList with
  | [] => ([], arg)
  | dash :: cs =>
      if dash = '-' then
        let (flags, rest) := leadingFlags options cs
        (flags, String.ofList (dash :: rest))
      else
        ([], arg)

------------------------------------------------------------
-- Scans
------------------------------------------------------------

/- What one level found in an argument list. -/
structure Scan where
  given : List (OptionSpec × Option String) := []
  operands : List String := []
  unknown : List String := []
deriving DecidableEq, Repr, Inhabited

namespace Scan

/- Put an option in front. -/
def give
    (o : OptionSpec)
    (value : Option String)
    (s : Scan) : Scan :=
  { s with given := (o, value) :: s.given }

/- Put flags in front. -/
def giveAll (flags : List OptionSpec) (s : Scan) : Scan :=
  flags.foldr (fun o s => s.give o none) s

/- Put an argument in front of the rest for the next level. -/
def leave (loose : Bool) (arg : String) (s : Scan) : Scan :=
  if loose then
    { s with unknown := arg :: s.unknown }
  else
    { s with operands := arg :: s.operands }

/- What is left after two dashes. -/
def afterStop (loose : Bool) (rest : List String) : Scan :=
  if loose then
    { unknown := "--" :: rest }
  else
    { operands := rest }

/- Whether an option was given. -/
def has (s : Scan) (long : String) : Bool :=
  s.given.any (·.1.long == long)

/- The values that were given for an option, in order. -/
def valuesOf (s : Scan) (long : String) : List String :=
  s.given.filterMap fun entry =>
    if entry.1.long = long then entry.2 else none

end Scan

/-
  Read an argument list for the given options. The flag says
  whether an unknown option came before.
-/
def scan (options : List OptionSpec) :
    Bool → List String → Except Fault Scan
  | _, [] => .ok {}
  | loose, first :: rest =>
      let (flags, arg) := peel options first
      let found : Except Fault Scan :=
        match Token.ofText options arg with
        | .stop => .ok (Scan.afterStop loose rest)
        | .given o => (scan options loose rest).map (·.give o none)
        | .valued o value =>
            (scan options loose rest).map (·.give o (some value))
        | .awaiting o =>
            match rest with
            | [] => .error (.missingValue o)
            | value :: rest =>
                (scan options loose rest).map
                  (·.give o (some value))
        | .unknown => (scan options true rest).map (·.leave true arg)
        | .operand =>
            (scan options loose rest).map (·.leave loose arg)
      found.map (·.giveAll flags)

end CommandLine

end KbConsole
