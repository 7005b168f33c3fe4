import SeedShell.Text.Basic

/-!
# The words of a line

A line is cut into words at blank characters. A backslash takes the next character as it is,
inside quotes too. A quoted part runs to the next mark of the kind that opened it, and both
marks are dropped. Whatever is open at the end of the line is kept, and no word is empty.

`scan` reads from left to right with the state `Scan`, so that the words of a long line are
those of its parts wherever a part ends between words. `escape` writes a name so that its
spaces do not end a word.
-/

namespace SeedShell.Words

inductive Mode where
  | bare
  | quoted (mark : Char)
  deriving DecidableEq, Repr

/-- What has been read of a line: its finished words and the word in progress. -/
structure Scan where
  words : List (List Char) := []
  word : List Char := []
  mode : Mode := .bare
  escaped : Bool := false
  deriving DecidableEq, Repr

/-- The two characters that open a quoted part. -/
def isQuote (c : Char) : Bool := c == '"' || c == '\''

namespace Scan

/-- The scan with one more character in the word in progress. -/
def keep (s : Scan) (c : Char) : Scan := { s with word := s.word ++ [c], escaped := false }

/-- Ends the word in progress, if it has a character. -/
def close (s : Scan) : Scan :=
  if s.word = [] then s else { s with words := s.words ++ [s.word], word := [] }

def step (s : Scan) (c : Char) : Scan :=
  if s.escaped then s.keep c
  else if c = '\\' then { s with escaped := true }
  else match s.mode with
    | .quoted mark => if c = mark then { s with mode := .bare } else s.keep c
    | .bare =>
      if isQuote c then { s with mode := .quoted c }
      else if Text.isBlank c then s.close
      else s.keep c

end Scan

def scan (cs : List Char) : List (List Char) := (cs.foldl Scan.step {}).close.words

/-- The words of a line. -/
def ofLine (line : String) : List String := (scan line.toList).map String.ofList

/-- Each space with a backslash before it. -/
def escapeChars (cs : List Char) : List Char :=
  cs.flatMap fun c => if c = ' ' then ['\\', ' '] else [c]

/-- A name with each space escaped, for use as a word. -/
def escape (name : String) : String := String.ofList (escapeChars name.toList)

end SeedShell.Words
