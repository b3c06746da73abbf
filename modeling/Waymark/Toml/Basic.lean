import Waymark.Decimal.Numeral

/-!
# TOML values

A TOML file is a table of values. A table remembers how it came about, since that decides whether
a later line of the file may still add to it: `Toml.descend` walks along a dotted key under these
rules.
-/

namespace Waymark.Toml

/-- How a table came about. -/
inductive Origin where
  /-- By braces after a key. -/
  | braces
  /-- By a header of its own. -/
  | header
  /-- On the way to the header of a table inside of it. -/
  | implied
  /-- By a dotted key. -/
  | dotted
deriving DecidableEq, Repr

/-- A text or a number. -/
inductive Scalar where
  /-- A text. -/
  | string (text : String)
  /-- An integer. -/
  | integer (value : Int)
  /-- A double. -/
  | float (value : Float)

/-- A TOML value. -/
inductive Value where
  /-- A text or a number. -/
  | scalar (value : Scalar)
  /-- A truth value. -/
  | boolean (value : Bool)
  /-- A date, a time or both. -/
  | dateTime
  /-- A list of values. -/
  | array (items : List Value)
  /-- A table. -/
  | table (origin : Origin) (entries : List (String × Value))
  /-- A list of tables, each by a header of its own. -/
  | tables (elements : List (List (String × Value)))

/-- The entries of a table. -/
abbrev Entries := List (String × Value)

/-- The value of a key. -/
def lookup (key : String) (entries : Entries) : Option Value :=
  (entries.find? fun (k, _) => k == key).map (·.2)

/-- The entries with another value for a key that they have. -/
def replace (key : String) (value : Value) (entries : Entries) : Entries :=
  entries.map fun (k, v) => if k == key then (k, value) else (k, v)

/-- Whether a key may lead into a table of an origin: a dotted key leads only into tables without
a header of their own, the path of a header into all but those in braces. -/
def Origin.admits (byDots : Bool) : Origin → Bool
  | .braces => false
  | .header => !byDots
  | .implied | .dotted => true

/-- Changes the table at the end of a path with `change`, which is given the table's origin and
entries. Missing tables on the way are made, and a list of tables stands for its last one. -/
def descend (byDots : Bool) (change : Origin → Entries → Option Entries) :
    List String → Origin → Entries → Option Entries
  | [], origin, entries => change origin entries
  | key :: path, _, entries =>
    match lookup key entries with
    | none => do
      let origin := if byDots then Origin.dotted else .implied
      let inner ← descend byDots change path origin []
      return entries ++ [(key, .table origin inner)]
    | some (.table origin inner) =>
      if origin.admits byDots then do
        let inner ← descend byDots change path origin inner
        return replace key (.table origin inner) entries
      else none
    | some (.tables elements) =>
      match elements.getLast? with
      | none => none
      | some last => do
        let last ← descend byDots change path .header last
        return replace key (.tables (elements.dropLast ++ [last])) entries
    | some _ => none

/-- Adds the value of a dotted key to a table. The last part of the key must be new, and a table
takes dotted keys only if dotted keys made it. -/
def insertKey (origin : Origin) (entries : Entries) (key : List String × String) (value : Value) :
    Option Entries :=
  let add (o : Origin) (es : Entries) : Option Entries :=
    if (o == .dotted) == key.1.isEmpty then none
    else if (lookup key.2 es).isSome then none
    else some (es ++ [(key.2, value)])
  descend true add key.1 origin entries

/-- Adds the values of some dotted keys to a table that is not itself made by dotted keys. -/
def insertAll (origin : Origin) (entries : Entries) :
    List ((List String × String) × Value) → Option Entries
  | [] => some entries
  | (key, value) :: rest => do
    let entries ← insertKey origin entries key value
    insertAll origin entries rest

end Waymark.Toml
