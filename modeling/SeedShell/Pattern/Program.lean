import SeedShell.Pattern.Regex

/-!
# Matching

A regular expression becomes a program: numbered instructions, each with the numbers of those
that may come next. A text is matched by running all paths through the program at once, so the
time is bounded by the product of the two lengths.
-/

namespace SeedShell.Pattern

inductive Instruction where
  | accept
  | split (first second : Nat)
  | look (l : Look) (next : Nat)
  | read (s : CharSet) (next : Nat)
  deriving DecidableEq, Repr

/-- The instructions so far, and the number at which to enter them. -/
structure Program where
  code : Array Instruction
  entry : Nat
  deriving DecidableEq, Repr

namespace Program

/-! ## Programs of expressions -/

/-- Puts an instruction in front of the program. -/
def before (instruction : Nat → Instruction) : Program → Program
  | ⟨code, entry⟩ =>
    let code := code.push (instruction entry)
    ⟨code, code.size - 1⟩

def times : Nat → (Program → Program) → Program → Program
  | 0, _, p => p
  | n + 1, f, p => times n f (f p)

/-- A program that does what `body` puts in front of another one, or goes on at `next`. -/
def optional (next : Nat) (body : Program → Program) (p : Program) : Program :=
  (body p).before fun entry => .split entry next

/-- A program that does any number of times what `body` puts in front of a program. -/
def loop (body : Program → Program) : Program → Program
  | ⟨code, next⟩ =>
    let start := code.size
    match body ⟨code.push .accept, start⟩ with
    | ⟨code, entry⟩ => ⟨code.setIfInBounds start (.split entry next), start⟩

/-- A program that reads a text first. -/
def spell (cs : List Char) (p : Program) : Program :=
  cs.foldr (fun c => before (.read (.single c))) p

mutual

/-- The program with an expression in front of it. -/
def prepend : Regex → Program → Program
  | .empty => id
  | .text cs => spell cs
  | .set s => before (.read s)
  | .look l => before (.look l)
  | .group _ body => prepend body
  | .seq items => prependAll items
  | .alt branches => fun p => prependBranches p.entry branches p
  | .count lo none _ body => fun p => times lo (prepend body) (loop (prepend body) p)
  | .count lo (some hi) _ body => fun p =>
    times lo (prepend body) (times (hi - lo) (optional p.entry (prepend body)) p)

/-- The program with a row in front of it. -/
def prependAll : List Regex → Program → Program
  | [] => id
  | [r] => prepend r
  | r :: rs => fun p => prepend r (prependAll rs p)

/-- The program with branches in front that all go on at `next`. -/
def prependBranches (next : Nat) : List Regex → Program → Program
  | [] => before (.read .empty)
  | [r] => fun p => prepend r { p with entry := next }
  | r :: rs => fun p =>
    match prependBranches next rs p with
    | ⟨code, other⟩ => (prepend r ⟨code, next⟩).before fun entry => .split entry other

end

def ofRegex (r : Regex) : Program := prepend r ⟨#[.accept], 0⟩

/-! ## Running a program -/

/-- The readings that can be reached without reading, none if the program can accept. `marks`
holds for each instruction the last round in which it was visited: it is visited once in a round.
`fuel` bounds the number of visits pending. -/
def reachable (p : Program) (round : Nat) (before after : Option Char) :
    Nat → List Nat → Array Nat → List (CharSet × Nat) →
      Option (List (CharSet × Nat) × Array Nat)
  | 0, _, marks, found => some (found, marks)
  | _, [], marks, found => some (found, marks)
  | fuel + 1, i :: pending, marks, found =>
    if marks[i]?.getD round = round then p.reachable round before after fuel pending marks found
    else
      let marks := marks.setIfInBounds i round
      match p.code[i]? with
      | none => p.reachable round before after fuel pending marks found
      | some .accept => none
      | some (.split a b) => p.reachable round before after fuel (a :: b :: pending) marks found
      | some (.look l next) =>
        let pending := if l.holds before after then next :: pending else pending
        p.reachable round before after fuel pending marks found
      | some (.read s next) =>
        p.reachable round before after fuel pending marks ((s, next) :: found)

/-- Whether a match ends in the rest of a text. `current` holds the instructions at which
matches that began before have arrived. -/
def matchesFrom (p : Program) (round : Nat) (marks : Array Nat) (before : Option Char)
    (current : List Nat) : List Char → Bool
  | [] => (start none marks).isNone
  | c :: cs =>
    match start (some c) marks with
    | none => true
    | some (readings, marks) =>
      let current := readings.filterMap fun (s, next) => if s.contains c then some next else none
      p.matchesFrom (round + 1) marks (some c) current cs
where
  start (after : Option Char) (marks : Array Nat) :
      Option (List (CharSet × Nat) × Array Nat) :=
    p.reachable round before after (current.length + 2 * p.code.size + 2) (p.entry :: current)
      marks []

/-- Whether a match lies anywhere in a text. -/
def isMatch (p : Program) (text : String) : Bool :=
  p.matchesFrom 1 (Array.replicate p.code.size 0) none [] text.toList

end Program

end SeedShell.Pattern
