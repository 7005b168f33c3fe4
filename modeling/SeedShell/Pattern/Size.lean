import SeedShell.Pattern.ByteRow
import SeedShell.Pattern.Recent
import SeedShell.Pattern.Regex

/-!
# Sizes

How large the automaton is that reads an expression byte by byte. A pattern may be used if the
automata for both directions of reading stay within `sizeLimit`: `Regex.isWithinLimit`.

Each step of an automaton has a number and takes 32 bytes. A step that reads one of several byte
ranges takes 8 more for each of them, and a fork takes 4 more for each of its ways.
-/

namespace SeedShell.Pattern

/-- The bytes that an automaton may take. -/
def sizeLimit : Nat := 10 * 1024 * 1024

/-- The number of the steps so far, and the bytes that they take. -/
structure Tally where
  steps : Nat := 0
  bytes : Nat := 0
  deriving DecidableEq, Repr

/-- Counting that ends when the limit is passed. -/
abbrev Count := StateT Tally Option

namespace Count

/-- Counts a step that takes some bytes more than others, and gives its number. -/
def step (extra : Nat) : Count Nat := fun t =>
  let bytes := t.bytes + 32 + extra
  if sizeLimit < bytes then none else some (t.steps, ⟨t.steps + 1, bytes⟩)

/-- A step without ranges or ways of its own. -/
def plain : Count Unit := do let _ ← step 0

/-- A step that reads one of some byte ranges. -/
def read (ranges : Nat) : Count Unit := do let _ ← step (8 * ranges)

def fork (ways : Nat) : Count Unit := do let _ ← step (4 * ways)

/-- Counts more ways of a fork. -/
def moreWays (ways : Nat) : Count Unit := fun t =>
  let bytes := t.bytes + 4 * ways
  if sizeLimit < bytes then none else some ((), { t with bytes })

def times : Nat → Count Unit → Count Unit
  | 0, _ => pure ()
  | n + 1, count => do
    count
    times n count

/-! ## Sets -/

/-- Counting with a memory of the steps that may be shared. -/
abbrev Sharing := StateT Recent Count

/-- The number of the step that is described by the key, which is counted if it is not
remembered. -/
def shared (key : List Nat) (extra : Nat) : Sharing Nat := do
  match (← get).get? key with
  | some n => return n
  | none =>
    let n ← step extra
    modify (·.insert key n)
    return n

/-- The rows by their first ranges, with what follows in each. Only neighbours are put together. -/
def byFirst (rows : List ByteRow) : List ((Nat × Nat) × List ByteRow) :=
  rows.foldr add []
where
  add : ByteRow → List ((Nat × Nat) × List ByteRow) → List ((Nat × Nat) × List ByteRow)
  | [], groups => groups
  | range :: row, (first, rows) :: groups =>
    if first = range then (first, row :: rows) :: groups
    else (range, [row]) :: (first, rows) :: groups
  | range :: row, [] => [(range, [row])]

/-- Counts the steps that read one of some rows, and gives the number of the first one. Rows of
no bytes end at the given step. The depth is at least the length of the rows. -/
def tree (stop : Nat) : Nat → List ByteRow → Sharing Nat
  | 0, _ => return stop
  | depth + 1, rows => do
    match byFirst rows with
    | [] => return stop
    | groups =>
      let edges ← groups.mapM fun ((lo, hi), rows) => return [lo, hi, ← tree stop depth rows]
      shared edges.flatten (8 * edges.length)

/-- Counts the steps that read a row from its end, up to the given step. -/
def chain (stop : Nat) (row : ByteRow) : Sharing Nat :=
  row.foldlM (fun next (lo, hi) => shared [next, lo, hi] 0) stop

/-- The steps of a set. Forward, all that follows in the same way is shared as far as it is
remembered; backward, each row has a way of its own, and rows that start alike share steps. -/
def set (d : Direction) (s : CharSet) : Count Unit := do
  if s.within 0x7F then
    plain
    read s.ranges.length
  else
    match d with
    | .forward =>
      let stop ← step 0
      let _ ← (tree stop 4 s.byteRows).run { places := 10000 }
    | .backward =>
      fork 0
      let stop ← step 0
      let _ ← (s.byteRows.forM fun row => do
        let _ ← chain stop row
        moreWays 1).run { places := 1000 }

/-! ## Words -/

/-- A text as a row of bytes. -/
abbrev Word := List UInt8

/-- The words in parts, divided where a word is empty. Several empty words at the start count as
one. -/
def parts (words : List Word) : List (List Word) :=
  let rest := words.dropWhile (·.isEmpty)
  let parts := rest.splitOnP (·.isEmpty)
  if rest.length < words.length then [] :: parts else parts

/-- What follows a first byte in the words that have it. -/
def tails (words : List Word) (b : UInt8) : List Word :=
  words.filterMap fun
    | c :: word => if c = b then some word else none
    | [] => none

/-- The words by their first bytes, with what follows in each. -/
def byByte (words : List Word) : List (UInt8 × List Word) :=
  (words.filterMap List.head?).eraseDups.map fun b => (b, tails words b)

/-- Counts the steps that read one of some words, besides the one where all words end. The depth
is at least the length of the words. -/
def trie : Nat → List Word → Count Unit
  | 0, _ => pure ()
  | depth + 1, words => do
    let parts := parts words
    let groups := parts.map byByte
    groups.forM fun groups => do
      groups.forM fun (_, words) => if words.all (·.isEmpty) then pure () else trie depth words
      match groups.length with
      | 0 => pure ()
      | 1 => plain
      | n => read n
    fork ((groups.filter (!·.isEmpty)).length + (parts.length - 1))

end Count

/-! ## Expressions -/

/-- A row in the order in which it is read. -/
def Direction.order {α : Type} (d : Direction) (row : List α) : List α :=
  match d with
  | .forward => row
  | .backward => row.reverse

namespace Regex

open SeedShell.Pattern.Count

def text? : Regex → Option (List Char)
  | .text cs => some cs
  | _ => none

/-- The steps of branches that are all texts. -/
def countWords (d : Direction) (words : List (List Char)) : Count Unit := do
  let words := words.map fun cs => d.order (cs.flatMap String.utf8EncodeChar)
  plain
  trie ((words.map List.length).foldl max 0 + 1) words

mutual

/-- The steps of an expression. What it is followed by counts as a way of a fork at its end. -/
def countSteps (d : Direction) : Regex → Count Unit
  | .empty | .look _ => plain
  | .text cs => times (String.ofList cs).utf8ByteSize plain
  | .set s => Count.set d s
  | .count lo hi _ body => do
    let once := body.countSteps d
    match lo, hi with
    | 0, some 1 =>
      fork 2
      once
      plain
    | 0, none =>
      if body.leastSize?.any (0 < ·) then
        fork 2
        once
      else
        once
        fork 2
        fork 2
        plain
    | lo, none =>
      times lo once
      fork 2
    | lo, some hi =>
      if lo = 0 then plain else times lo once
      if lo < hi then
        plain
        times (hi - lo) do
          fork 2
          once
  | .group _ body => do
    match d with
    | .forward =>
      plain
      body.countSteps d
      plain
    | .backward => body.countSteps d
  | .seq items => countAll d items
  | .alt branches =>
    match branches.mapM text? with
    | some words => countWords d words
    | none => countBranches d 0 branches

/-- The steps of a row, in the order in which it is read. -/
def countAll (d : Direction) : List Regex → Count Unit
  | [] => pure ()
  | r :: rs => do
    match d with
    | .forward =>
      r.countSteps d
      countAll d rs
    | .backward =>
      countAll d rs
      r.countSteps d

/-- The steps of branches after as many others. The fork and the step where the branches meet
come after the second one. -/
def countBranches (d : Direction) : Nat → List Regex → Count Unit
  | _, [] => pure ()
  | before, r :: rs => do
    r.countSteps d
    match before with
    | 0 => pure ()
    | 1 =>
      fork 2
      plain
    | _ => moreWays 1
    countBranches d (before + 1) rs

end

/-- The steps of the automaton that looks for an expression anywhere, or at the edge if every
match starts there. -/
def countSearch (d : Direction) (r : Regex) : Count Unit := do
  if r.isPinned d then plain
  else
    fork 2
    plain
    read 1
  countSteps d (.group 0 r)
  plain

/-- Branches that are texts need no automaton if they are many. -/
def isWordList : Regex → Bool
  | .alt branches => 3000 ≤ branches.length && branches.all (·.text?.isSome)
  | _ => false

/-- Whether an expression is small enough to be used. -/
def isWithinLimit (r : Regex) : Bool :=
  r.isWordList || [Direction.forward, .backward].all fun d => ((countSearch d r).run {}).isSome

end Regex

end SeedShell.Pattern
