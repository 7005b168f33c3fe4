import SeedShell.Pattern.Expr

/-!
# Reading a pattern

The state of a reader of patterns and its moves. In verbose mode the blanks between the parts of
a pattern do not count, and neither does a comment from `#` to the end of its line.
-/

namespace SeedShell.Pattern

/-- The unread text with its place, and the names and the number of the groups so far. -/
structure Cursor where
  rest : List Char
  position : Position := {}
  verbose : Bool := false
  names : List (String × Span) := []
  groups : Nat := 0

/-- Passes blanks and comments. The flag says whether a comment is open. -/
def skipComments : Bool → List Char → Position → List Char × Position
  | _, [], p => ([], p)
  | true, c :: cs, p => skipComments (c ≠ '\n') cs (p.after c)
  | false, c :: cs, p =>
    if Text.isBlank c then skipComments false cs (p.after c)
    else if c = '#' then skipComments true cs (p.after c)
    else (c :: cs, p)

namespace Cursor

def advance (c : Cursor) : Cursor :=
  match c.rest with
  | [] => c
  | x :: xs => { c with rest := xs, position := c.position.after x }

def skipBlanks (c : Cursor) : Cursor :=
  if c.verbose then
    let (rest, position) := skipComments false c.rest c.position
    { c with rest, position }
  else c

/-- The character after the next one, in verbose mode past blanks and the sign of a comment. -/
def second? (c : Cursor) : Option Char :=
  let rest := c.rest.drop 1
  if c.verbose then
    match Text.trimStartChars rest with
    | '#' :: comment => (Text.trimStartChars comment).head?.or rest.head?
    | trimmed => trimmed.head?.or rest.head?
  else rest.head?

end Cursor

abbrev Read := StateT Cursor (Except Fault)

namespace Read

variable {α : Type}

def fail (reason : Reason) (span : Span) : Read α := throw ⟨reason, span, none⟩

def position : Read Position := return (← get).position

/-- The next character. -/
def peek? : Read (Option Char) := return (← get).rest.head?

def advance : Read Unit := modify Cursor.advance

def skipBlanks : Read Unit := modify Cursor.skipBlanks

/-- Passes a character and the blanks after it, and gives the character that is next then. -/
def step : Read (Option Char) := do
  advance
  skipBlanks
  peek?

/-- The place from `start` to here. -/
def spanFrom (start : Position) : Read Span := return ⟨start, ← position⟩

/-- The empty place here. -/
def spanHere : Read Span := do spanFrom (← position)

/-- The place of the next character. -/
def spanOfNext : Read Span := do
  let c ← get
  return ⟨c.position, c.advance.position⟩

/-- Passes a text if it is next. -/
def accept (text : String) : Read Bool := do
  if text.toList.isPrefixOf (← get).rest then
    modify fun c => text.toList.foldl (fun c _ => c.advance) c
    return true
  else return false

/-- Takes characters while they meet a test, and passes blanks after each of them. -/
def takeWhile (test : Char → Bool) : Nat → Read (List Char)
  | 0 => return []
  | fuel + 1 => do
    match ← peek? with
    | none => return []
    | some c =>
      if test c then
        let _ ← step
        return c :: (← takeWhile test fuel)
      else return []

/-- The row of characters from here that meet a test. -/
def run (test : Char → Bool) : Read (List Char) := do takeWhile test (← get).rest.length

end Read

end SeedShell.Pattern
