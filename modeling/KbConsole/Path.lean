import KbConsole.Text.Blank

/-
  Paths of files, written with slashes.

  Joined paths are in normal form: no empty parts, no `.`,
  and `..` only at the front of a relative path.

  Key definitions include:
    * `Path.follow`
    * `Path.normalize`
    * `Path.join`
-/

namespace KbConsole

namespace Path

/-
  Follow one part of a path. The parts before it are given
  with the last one first.
-/
def follow
    (absolute : Bool)
    (before : List String)
    (part : String) : List String :=
  if part = "" ∨ part = "." then
    before
  else if part = ".." then
    match before with
    | [] => if absolute then [] else [".."]
    | last :: rest =>
        if last = ".." then ".." :: before else rest
  else
    part :: before

/- The parts of a path in normal form. -/
def parts (absolute : Bool) (path : String) : List String :=
  ((Text.splitOn '/' path).foldl (follow absolute) []).reverse

/- The normal form of a path. -/
def normalize (path : String) : String :=
  if path.toList.head? = some '/' then
    "/" ++ "/".intercalate (parts true path)
  else
    match parts false path with
    | [] => "."
    | first :: rest => "/".intercalate (first :: rest)

/- The path through the given paths, one inside the other. -/
def join (paths : List String) : String :=
  normalize ("/".intercalate (paths.filter (· != "")))

end Path

end KbConsole
