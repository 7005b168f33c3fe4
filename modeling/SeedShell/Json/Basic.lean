/-!
# JSON values

A value as it is written: members keep their order and may repeat. A string is `none` if an
escape in it names half of a surrogate pair, so that it stands for no text.
-/

namespace SeedShell

/-- A number by what its readers ask of it. -/
inductive Json.Number where
  /-- Written as digits only. -/
  | natural (n : Nat)
  /-- Signed, or written with a fraction or an exponent. -/
  | other
  /-- Too large for a double. -/
  | tooLarge
  deriving DecidableEq, Repr

inductive Json where
  | null
  | bool (b : Bool)
  | number (n : Json.Number)
  | string (s : Option String)
  | array (items : List Json)
  | object (members : List (Option String × Json))

namespace Json

def string? : Json → Option String
  | .string s => s
  | _ => none

def array? : Json → Option (List Json)
  | .array items => some items
  | _ => none

/-- A list of texts. -/
def strings? (v : Json) : Option (List String) := do (← v.array?).mapM string?

mutual

/-- Whether all strings are texts and all numbers are in range. -/
def isSound : Json → Bool
  | .number n => n ≠ .tooLarge
  | .string s => s.isSome
  | .array items => allSound items
  | .object members => allSoundMembers members
  | _ => true

def allSound : List Json → Bool
  | [] => true
  | v :: vs => v.isSound && allSound vs

def allSoundMembers : List (Option String × Json) → Bool
  | [] => true
  | (k, v) :: ms => k.isSome && v.isSound && allSoundMembers ms

end

mutual

/-- The number of arrays and objects around the innermost value. -/
def depth : Json → Nat
  | .array items => depthItems items + 1
  | .object members => depthMembers members + 1
  | _ => 0

def depthItems : List Json → Nat
  | [] => 0
  | v :: vs => max v.depth (depthItems vs)

def depthMembers : List (Option String × Json) → Nat
  | [] => 0
  | (_, v) :: ms => max v.depth (depthMembers ms)

end

end Json

end SeedShell
