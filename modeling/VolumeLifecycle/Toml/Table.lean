import VolumeLifecycle.Toml.Value

namespace VolumeLifecycle.Toml

/-- The entries of a table, in the order in which they were defined. -/
abbrev Entries := List (String × Node)

/-- The entries with a value put under a key, in place of the one that is there. -/
def replaceEntry (key : String) (value : Node) : Entries → Entries
  | [] => [(key, value)]
  | e :: rest => if e.1 = key then (key, value) :: rest else e :: replaceEntry key value rest

/-- How a table is reached: by the path of a header, or by a dotted key. -/
inductive Approach where
  | byHeader
  | byKey
  deriving DecidableEq

def Approach.origin : Approach → Origin
  | .byHeader => .path
  | .byKey => .dotted

/-- Whether a table may be passed through: inline tables are closed, and a dotted key cannot go
through a table that has a header of its own. -/
def Approach.admits : Approach → Origin → Bool
  | _, .inlined => false
  | .byKey, .header => false
  | _, _ => true

/-- Changes the table at the end of a path, making the tables on the way that are not there yet. A
path goes through the last table of an array that headers have built. -/
def within (approach : Approach) (change : Origin → Entries → Option Entries) :
    List String → Origin → Entries → Option Entries
  | [], origin, entries => change origin entries
  | key :: path, _, entries => do
    let value ← match entries.lookup key with
      | none => do
        let inner ← within approach change path approach.origin []
        pure (.table approach.origin inner)
      | some (.table origin inner) =>
        if approach.admits origin then do
          let inner ← within approach change path origin inner
          pure (.table origin inner)
        else none
      | some (.tables items) =>
        match items.reverse with
        | .table origin inner :: earlier => do
          let inner ← within approach change path origin inner
          pure (.tables (.table origin inner :: earlier).reverse)
        | _ => none
      | some _ => none
    return replaceEntry key value entries

/-- Puts a value under the last part of a key, in the table that the parts before it lead to. That
table must have come about by dotted keys, unless there are no parts before. -/
def assign (path : List String) (key : String) (value : Node) (origin : Origin)
    (entries : Entries) : Option Entries :=
  within .byKey
    (fun origin entries =>
      if decide (origin = .dotted) == path.isEmpty then none
      else if (entries.lookup key).isSome then none
      else some (entries ++ [(key, value)]))
    path origin entries

/-- Opens the table that a header names. It must be new, or have been made as a step of another
header's path. -/
def openTable (path : List String) (key : String) (root : Entries) : Option Entries :=
  within .byHeader
    (fun _ entries =>
      match entries.lookup key with
      | none => some (entries ++ [(key, .table .header [])])
      | some (.table .path inner) => some (replaceEntry key (.table .header inner) entries)
      | some _ => none)
    path .header root

/-- Adds an empty table to the array that a header names. -/
def openItem (path : List String) (key : String) (root : Entries) : Option Entries :=
  within .byHeader
    (fun _ entries =>
      match entries.lookup key with
      | none => some (entries ++ [(key, .tables [.table .header []])])
      | some (.tables items) =>
        some (replaceEntry key (.tables (items ++ [.table .header []])) entries)
      | some _ => none)
    path .header root

def assignUnder (header path : List String) (key : String) (value : Node) (root : Entries) :
    Option Entries :=
  within .byHeader (assign path key value) header .header root

end VolumeLifecycle.Toml
