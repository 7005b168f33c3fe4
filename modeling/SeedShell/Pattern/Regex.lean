import SeedShell.Pattern.Look

/-!
# Regular expressions

An expression over sets of characters in a simple form, which `ofSet`, `ofCount`, `ofSeq` and
`ofAlt` keep: no row stands directly in a row, neighbouring texts are joined, branches of single
characters are one set, and what all branches begin with stands in front of them.
-/

namespace SeedShell.Pattern

inductive Regex where
  | empty
  | text (cs : List Char)
  | set (s : CharSet)
  | look (l : Look)
  | count (lo : Nat) (hi : Option Nat) (greedy : Bool) (body : Regex)
  /-- A group that takes note of what it matches. -/
  | group (number : Nat) (body : Regex)
  | seq (items : List Regex)
  | alt (branches : List Regex)
  deriving BEq, Repr, Inhabited

/-- The way in which a text is read. -/
inductive Direction where
  | forward
  | backward
  deriving DecidableEq, Repr

/-- The assertion that holds where reading starts only. -/
def Direction.edge : Direction → Look
  | .forward => .textStart
  | .backward => .textEnd

namespace Regex

/-! ## What an expression matches -/

mutual

/-- Whether nothing but the empty text can match. -/
def isBlank : Regex → Bool
  | .empty | .look _ => true
  | .text cs => cs.isEmpty
  | .set _ => false
  | .count _ hi _ body => hi == some 0 || body.isBlank
  | .group _ body => body.isBlank
  | .seq items => areBlank items
  | .alt branches => areBlank branches

def areBlank : List Regex → Bool
  | [] => true
  | r :: rs => r.isBlank && areBlank rs

end

mutual

/-- The number of bytes that every match has at least, if it can be told. -/
def leastSize? : Regex → Option Nat
  | .empty | .look _ => some 0
  | .text cs => some (String.ofList cs).utf8ByteSize
  | .set s => s.ranges.head?.map fun r => (Char.ofNat r.1).utf8Size
  | .count lo _ _ body => body.leastSize?.map (lo * ·)
  | .group _ body => body.leastSize?
  | .seq items => leastSum? items
  | .alt branches => leastOf? branches

def leastSum? : List Regex → Option Nat
  | [] => some 0
  | r :: rs => do return (← r.leastSize?) + (← leastSum? rs)

def leastOf? : List Regex → Option Nat
  | [] => none
  | [r] => r.leastSize?
  | r :: rs => do return min (← r.leastSize?) (← leastOf? rs)

end

mutual

/-- Whether every match starts, in reading order, at the edge of the text. -/
def isPinned (d : Direction) : Regex → Bool
  | .look l => l == d.edge
  | .count lo _ _ body => 0 < lo && body.isPinned d
  | .group _ body => body.isPinned d
  | .seq items =>
    match d with
    | .forward => isPinnedFirst d items
    | .backward => isPinnedLast d items
  | .alt branches => arePinned d branches
  | .empty | .text _ | .set _ => false

def isPinnedFirst (d : Direction) : List Regex → Bool
  | [] => false
  | r :: rs => r.isPinned d || (r.isBlank && isPinnedFirst d rs)

def isPinnedLast (d : Direction) : List Regex → Bool
  | [] => false
  | r :: rs => isPinnedLast d rs || (areBlank rs && r.isPinned d)

def arePinned (d : Direction) : List Regex → Bool
  | [] => true
  | r :: rs => r.isPinned d && arePinned d rs

end

/-! ## Simple forms -/

/-- The expression of a set. A set of one character is a text. -/
def ofSet (s : CharSet) : Regex :=
  match s.ranges with
  | [(lo, hi)] => if lo = hi then .text [Char.ofNat lo] else .set s
  | _ => .set s

/-- The repetition of an expression. The empty text needs no second time. -/
def ofCount (lo : Nat) (hi : Option Nat) (greedy : Bool) (body : Regex) : Regex :=
  let (lo, hi) := if body.isBlank then (min lo 1, some (min (hi.getD 1) 1)) else (lo, hi)
  if lo = 0 ∧ hi = some 0 then .empty
  else if lo = 1 ∧ hi = some 1 then body
  else .count lo hi greedy body

/-- The expressions of a row in a row. -/
def itemsOf : Regex → List Regex
  | .empty => []
  | .seq items => items
  | r => [r]

/-- Puts an item in front of others and joins it with a text after it. -/
def joinText (r : Regex) (rs : List Regex) : List Regex :=
  match r, rs with
  | .text a, .text b :: rest => .text (a ++ b) :: rest
  | _, _ => r :: rs

def ofSeq (items : List Regex) : Regex :=
  match (items.flatMap itemsOf).foldr joinText [] with
  | [] => .empty
  | [r] => r
  | rs => .seq rs

/-- The branches of a branch. -/
def branchesOf : Regex → List Regex
  | .alt branches => branches
  | r => [r]

/-- The set of an expression that is a single character. -/
def single? : Regex → Option CharSet
  | .text [c] => some (.single c)
  | _ => none

def set? : Regex → Option CharSet
  | .set s => some s
  | _ => none

/-- Branches as one set, if they are all single characters or all sets. -/
def unionOf? (branches : List Regex) : Option CharSet :=
  ((branches.mapM single?).or (branches.mapM set?)).map .unions

/-- Branches as one expression, without regard to what they begin with. -/
def ofBranches (branches : List Regex) : Regex :=
  match branches.flatMap branchesOf with
  | [] => .set .empty
  | [r] => r
  | rs =>
    match unionOf? rs with
    | some s => ofSet s
    | none => .alt rs

/-- What two rows both begin with. -/
def commonStart : List Regex → List Regex → List Regex
  | r :: rs, q :: qs => if r == q then r :: commonStart rs qs else []
  | _, _ => []

def row? : Regex → Option (List Regex)
  | .seq items => some items
  | _ => none

/-- What all branches begin with, if they are rows. -/
def startOfAll (branches : List Regex) : List Regex :=
  match branches.mapM row? with
  | some (first :: rest) => rest.foldl commonStart first
  | _ => []

def ofAlt (branches : List Regex) : Regex :=
  match ofBranches branches with
  | .alt rs =>
    match startOfAll rs with
    | [] => .alt rs
    | start =>
      ofSeq (start ++ [ofBranches (rs.map fun r => ofSeq ((itemsOf r).drop start.length))])
  | r => r

end Regex

end SeedShell.Pattern
