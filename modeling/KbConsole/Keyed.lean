import KbConsole.Text.Letter

/-
  Entries with keys, in the order in which they are shown.

  Keys that are array indexes come first, by value; all
  other keys follow in the order of their first arrival. A
  key that arrives again keeps its place and takes the new
  value.

  Key definitions include:
    * `Keyed.index?`
    * `Keyed.put`
    * `Keyed.ofList`
    * `Keyed.get?`
-/

namespace KbConsole

/- Entries in the order in which they are shown. -/
abbrev Keyed (α : Type) :=
  List (String × α)

namespace Keyed

variable {α : Type}

------------------------------------------------------------
-- Index Keys
------------------------------------------------------------

/- The largest array index. -/
def largestIndex : Nat :=
  4294967294

/-
  The array index that a key writes: digits without a
  leading zero, up to the largest index.
-/
def index? (key : String) : Option Nat :=
  let cs := key.toList
  if Text.isNumeral cs &&
      (cs.head? != some '0' || cs.length == 1) &&
      Text.numeral cs ≤ largestIndex then
    some (Text.numeral cs)
  else
    none

------------------------------------------------------------
-- Entries
------------------------------------------------------------

/- The value of the first entry with the key. -/
def get? (key : String) : Keyed α → Option α
  | [] => none
  | (k, v) :: rest =>
      if k = key then some v else get? key rest

/- Whether some entry has the key. -/
def has (key : String) (entries : Keyed α) : Bool :=
  entries.any (fun entry => entry.1 == key)

/- Give the entries with the key a new value. -/
def replace
    (key : String)
    (value : α)
    (entries : Keyed α) : Keyed α :=
  entries.map fun entry =>
    if entry.1 = key then (key, value) else entry

/- Insert an index key before the first key that follows it. -/
def insertIndex
    (i : Nat)
    (key : String)
    (value : α) : Keyed α → Keyed α
  | [] => [(key, value)]
  | (k, v) :: rest =>
      match index? k with
      | none => (key, value) :: (k, v) :: rest
      | some j =>
          if j < i then
            (k, v) :: insertIndex i key value rest
          else
            (key, value) :: (k, v) :: rest

/- Set the value of a key. -/
def put
    (entries : Keyed α)
    (key : String)
    (value : α) : Keyed α :=
  if has key entries then
    replace key value entries
  else
    match index? key with
    | none => entries ++ [(key, value)]
    | some i => insertIndex i key value entries

/- Set the values of a list of pairs, one after another. -/
def ofList (pairs : List (String × α)) : Keyed α :=
  pairs.foldl (fun entries p => put entries p.1 p.2) []

/- The keys, in the order in which they are shown. -/
def keys (entries : Keyed α) : List String :=
  entries.map Prod.fst

end Keyed

end KbConsole
