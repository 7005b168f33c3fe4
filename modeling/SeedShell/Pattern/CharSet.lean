import SeedShell.Text.Basic
import SeedShell.Text.Digits

/-!
# Sets of characters

A set is a list of ranges of code points, ascending and apart from each other. A table writes
ranges in hexadecimal, as `41-5A` or `AA`, and as `100-12E/2` for every second code point.
-/

namespace SeedShell.Pattern

structure CharSet where
  ranges : List (Nat × Nat)
  deriving DecidableEq, Repr, Inhabited

namespace CharSet

/-- The largest code point. -/
def top : Nat := 0x10FFFF

def empty : CharSet := ⟨[]⟩

def all : CharSet := ⟨[(0, top)]⟩

def single (c : Char) : CharSet := ⟨[(c.toNat, c.toNat)]⟩

/-- Whether a code point lies in one of the ranges. -/
def inRanges (n : Nat) : List (Nat × Nat) → Bool
  | [] => false
  | (lo, hi) :: rest => if n < lo then false else if n ≤ hi then true else inRanges n rest

def contains (s : CharSet) (c : Char) : Bool := inRanges c.toNat s.ranges

/-- Joins ranges that touch. The ranges ascend by their start. -/
def coalesce : List (Nat × Nat) → List (Nat × Nat)
  | [] => []
  | [r] => [r]
  | (a, b) :: (c, d) :: rest =>
    if c ≤ b + 1 then coalesce ((a, max b d) :: rest) else (a, b) :: coalesce ((c, d) :: rest)
termination_by rs => rs.length

/-- The set of all code points in some ranges. -/
def ofRanges (ranges : List (Nat × Nat)) : CharSet :=
  ⟨coalesce (ranges.mergeSort fun a b => decide (a.1 ≤ b.1))⟩

def union (a b : CharSet) : CharSet := ofRanges (a.ranges ++ b.ranges)

def unions (sets : List CharSet) : CharSet := ofRanges (sets.flatMap (·.ranges))

/-! ## Complements

No character lies between U+D7FF and U+E000. -/

/-- The code point of the character after another one. -/
def next (n : Nat) : Nat := if n = 0xD7FF then 0xE000 else n + 1

/-- The code point of the character before another one. -/
def previous (n : Nat) : Nat := if n = 0xE000 then 0xD7FF else n - 1

/-- The range with two ends. -/
def between (a b : Nat) : Nat × Nat := (min a b, max a b)

/-- The gaps of ascending ranges after a range that ends at `last`. A gap has both its ends, even
where nothing lies between its neighbours. -/
def gapsAfter : Nat → List (Nat × Nat) → List (Nat × Nat)
  | last, [] => if last < top then [(next last, top)] else []
  | last, (lo, hi) :: rest => between (next last) (previous lo) :: gapsAfter hi rest

def complement (s : CharSet) : CharSet :=
  match s.ranges with
  | [] => all
  | (lo, hi) :: rest =>
    ⟨if 0 < lo then (0, previous lo) :: gapsAfter hi rest else gapsAfter hi rest⟩

/-! ## Common members and differences -/

/-- The common parts of two rows of ranges. -/
def commonParts : List (Nat × Nat) → List (Nat × Nat) → List (Nat × Nat)
  | (a, b) :: xs, (c, d) :: ys =>
    let rest := if b < d then commonParts xs ((c, d) :: ys) else commonParts ((a, b) :: xs) ys
    if max a c ≤ min b d then (max a c, min b d) :: rest else rest
  | _, _ => []
termination_by xs ys => xs.length + ys.length

def inter (a b : CharSet) : CharSet := ⟨commonParts a.ranges b.ranges⟩

/-- What is left of ranges without others. -/
def partsWithout : List (Nat × Nat) → List (Nat × Nat) → List (Nat × Nat)
  | [], _ => []
  | xs, [] => xs
  | (a, b) :: xs, (c, d) :: ys =>
    if d < a then partsWithout ((a, b) :: xs) ys
    else if b < c then (a, b) :: partsWithout xs ((c, d) :: ys)
    else
      let rest := if d < b then partsWithout ((next d, b) :: xs) ys
        else partsWithout xs ((c, d) :: ys)
      if a < c then (a, previous c) :: rest else rest
termination_by xs ys => xs.length + ys.length

def diff (a b : CharSet) : CharSet := ⟨partsWithout a.ranges b.ranges⟩

def symmDiff (a b : CharSet) : CharSet := (a.union b).diff (a.inter b)

/-! ## Bounds -/

/-- Whether no member lies in the set. -/
def isEmpty (s : CharSet) : Bool := s.ranges.isEmpty

/-- Whether all members are at most `limit`. -/
def within (limit : Nat) (s : CharSet) : Bool := s.ranges.all fun r => r.2 ≤ limit

/-! ## Tables -/

/-- A hexadecimal number at the start of the text, and what follows. -/
def hexAtStart (cs : List Char) : Nat × List Char :=
  let isHex := fun c => (Text.hexDigit? c).isSome
  ((Text.hexValue? (cs.takeWhile isHex)).getD 0, cs.dropWhile isHex)

/-- The ranges of one part of a table. -/
def rangesOfPart (part : List Char) : List (Nat × Nat) :=
  let (lo, rest) := hexAtStart part
  match rest with
  | '-' :: rest =>
    let (hi, rest) := hexAtStart rest
    match rest with
    | '/' :: rest =>
      let step := (hexAtStart rest).1
      (List.range ((hi - lo) / step + 1)).map fun i => (lo + i * step, lo + i * step)
    | _ => [(lo, hi)]
  | _ => [(lo, lo)]

/-- The range of the characters in a range of code points, if there are any. -/
def trim? : Nat × Nat → Option (Nat × Nat)
  | (lo, hi) =>
    let lo := if 0xD800 ≤ lo ∧ lo ≤ 0xDFFF then 0xE000 else lo
    let hi := if 0xD800 ≤ hi ∧ hi ≤ 0xDFFF then 0xD7FF else hi
    if lo ≤ hi then some (lo, hi) else none

/-- The set of the characters among some code points. Ranges on both sides of the surrogates are
joined if the surrogates are among the code points. -/
def ofCodePoints (ranges : List (Nat × Nat)) : CharSet :=
  ⟨(ofRanges ranges).ranges.filterMap trim?⟩

/-- The code points that the rows of a table describe. -/
def tableRanges (rows : List String) : List (Nat × Nat) :=
  rows.flatMap fun row =>
    ((Text.splitChars (· == ' ') row.toList).filter (· ≠ [])).flatMap rangesOfPart

/-- The set that the rows of a table describe. -/
def ofTable (rows : List String) : CharSet := ofRanges (tableRanges rows)

end CharSet

end SeedShell.Pattern
