/-!
# TOML documents

The content of a document as its readers need it: texts and integers keep their value, all other
plain values are alike. A table knows how it came about, because that decides what may still be
added to it.
-/

namespace SeedShell.Toml

/-- How a table came about: by its own header or braces, as a step of another header's path, or
as a step of a dotted key. -/
inductive Origin where
  | explicit
  | implied
  | dotted
  deriving DecidableEq, Repr

inductive Item where
  | text (s : String)
  | integer (n : Int)
  /-- Any other plain value: a boolean, a float, a date, an array. -/
  | plain
  /-- A table in braces. Nothing can be added to it. -/
  | closed
  | table (origin : Origin) (entries : List (String × Item))
  /-- The tables of one repeated header, newest first. -/
  | tables (newest : Item) (older : List Item)

/-- The entries of a table. -/
abbrev Entries := List (String × Item)

namespace Entries

/-- Replaces or appends the entry of a key. -/
def put (entries : Entries) (key : String) (item : Item) : Entries :=
  if (entries.lookup key).isSome then
    entries.map fun (k, v) => if k = key then (k, item) else (k, v)
  else entries ++ [(key, item)]

/-- Appends an entry whose key must be new. -/
def putNew (entries : Entries) (key : String) (item : Item) : Option Entries :=
  if (entries.lookup key).isSome then none else some (entries ++ [(key, item)])

end Entries

/-- Changes the entries of the table at `path`, making implied tables on the way. A dotted key
passes only through tables that have no header of their own. -/
def alterAt (dotted : Bool) (change : Origin → Entries → Option Entries) :
    List String → Origin → Entries → Option Entries
  | [], origin, entries => change origin entries
  | key :: path, _, entries =>
    match entries.lookup key with
    | none => do
      let origin := if dotted then .dotted else .implied
      return entries.put key (.table origin (← alterAt dotted change path origin []))
    | some (.table origin inner) =>
      if dotted ∧ origin = .explicit then none
      else do return entries.put key (.table origin (← alterAt dotted change path origin inner))
    | some (.tables (.table origin inner) older) => do
      let changed ← alterAt dotted change path origin inner
      return entries.put key (.tables (.table origin changed) older)
    | some _ => none

/-- Adds a key and its value to a table. The last step of a dotted key must lie in a table made
by dotted keys. -/
def addValue (path : List String) (key : String) (item : Item) (entries : Entries) :
    Option Entries :=
  alterAt true (fun origin inner =>
    if origin = .dotted ↔ path ≠ [] then inner.putNew key item else none) path .explicit entries

end SeedShell.Toml
