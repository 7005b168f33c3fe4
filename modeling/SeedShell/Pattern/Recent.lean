import Std.Data.HashMap

/-!
# Numbers noted of late

A table of numbers under keys, with a bounded number of places. A key has one place; it takes the
place over from the key that was noted there before.
-/

namespace SeedShell.Pattern

structure Recent where
  places : Nat
  entries : Std.HashMap Nat (List Nat × Nat) := {}

namespace Recent

/-- A word that each number of a key is mixed into. -/
def mix (key : List Nat) : UInt64 :=
  key.foldl (fun h x => (h ^^^ x.toUInt64) * 1099511628211) 14695981039346656037

def placeOf (r : Recent) (key : List Nat) : Nat := (mix key).toNat % r.places

/-- The number that was noted under a key, if no other key has taken the place. -/
def get? (r : Recent) (key : List Nat) : Option Nat :=
  match r.entries[r.placeOf key]? with
  | some (other, n) => if other = key then some n else none
  | none => none

def insert (r : Recent) (key : List Nat) (n : Nat) : Recent :=
  { r with entries := r.entries.insert (r.placeOf key) (key, n) }

end Recent

end SeedShell.Pattern
