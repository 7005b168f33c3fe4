import SeedShell.Command.Registry
import SeedShell.Presses
import SeedShell.Words

/-!
# Completion

The token before the cursor is completed from the names of commands or of entries. `suggest`
gives all candidates for it; a single press inserts the only one, or what all have in common,
and a double press lists them.
-/

namespace SeedShell

/-- What becomes of the line at the cursor. -/
inductive Completion where
  /-- A new line, and the number of characters before the cursor. -/
  | edit (buffer : String) (cursor : Nat)
  | listing (names : String)
  | unchanged
  deriving DecidableEq, Repr

namespace Completion

variable {σ : Type}

/-! ## The token before the cursor -/

/-- A text cut after its last space that no backslash escapes. -/
structure Cut where
  head : List Char := []
  token : List Char := []
  escaped : Bool := false
  deriving DecidableEq, Repr

def Cut.step (cut : Cut) (c : Char) : Cut :=
  if cut.escaped then { cut with token := cut.token ++ [c], escaped := false }
  else if c = '\\' then { cut with token := cut.token ++ [c], escaped := true }
  else if c = ' ' then { cut with head := cut.head ++ cut.token ++ [c], token := [] }
  else { cut with token := cut.token ++ [c] }

def cut (before : List Char) : Cut := before.foldl Cut.step {}

/-- The text with every escaped space as a space. -/
def unescape : List Char → List Char
  | [] => []
  | '\\' :: ' ' :: rest => ' ' :: unescape rest
  | c :: rest => c :: unescape rest

/-! ## Candidates -/

/-- The kinds of entry that a command takes. -/
inductive Wanted where
  | directories
  | files
  | entries
  deriving DecidableEq, Repr

def Wanted.ofCommand (name : String) : Wanted :=
  if name = "cd" then .directories else if name = "cat" then .files else .entries

def Wanted.admits (n : Node) : Wanted → Bool
  | .directories => n.isDirectory
  | .files => n.isFile
  | .entries => true

/-- The directory that the text up to the last slash of a token leads to. -/
def directoryOf? (s : Session σ) (directory : List Char) : Option Nat :=
  if directory = [] then some s.cwdNode
  else (s.resolve? (String.ofList (unescape directory))).filter s.tree.isDirectory

/-- The nodes that a path can be completed to, with the text up to its last slash. -/
def matching (s : Session σ) (path : List Char) : String × List Node :=
  let (directory, name) := Text.cutAfterLast '/' path
  let start := String.ofList (unescape name)
  let nodes := match directoryOf? s directory with
    | none => []
    | some id => ((s.tree.node id).children.map s.tree.node).filter (Text.hasPrefix start ·.name)
  (String.ofList directory, nodes)

/-- The scripts that a path after `./` can be completed to. -/
def scriptSuggestions (s : Session σ) (path : List Char) : List String :=
  let (directory, nodes) := matching s path
  let scripts := nodes.filter fun n => n.isFile && n.isExecutable
  Text.sort (scripts.map fun n => "./" ++ directory ++ Words.escape n.name)

/-- The entries that a path can be completed to. A directory has a slash at its end. -/
def pathSuggestions (s : Session σ) (path : List Char) (wanted : Wanted) : List String :=
  let (directory, nodes) := matching s path
  Text.sort ((nodes.filter (wanted.admits ·)).map fun n =>
    directory ++ Words.escape n.name ++ (if n.isDirectory then "/" else ""))

/-- All candidates for the token at the end of a text. -/
def suggest (r : Registry σ) (s : Session σ) (before : List Char) : List String :=
  let parts := cut before
  match parts.token with
  | '.' :: '/' :: path => scriptSuggestions s path
  | token =>
    match (Text.fields (String.ofList parts.head)).head? with
    | none => r.completions (String.ofList token)
    | some command => pathSuggestions s token (.ofCommand command)

/-! ## The answer -/

def sharedChars : List Char → List Char → List Char
  | a :: as, b :: bs => if a = b then a :: sharedChars as bs else []
  | _, _ => []

/-- The longest text that all suggestions begin with. -/
def commonPrefix : List String → String
  | [] => ""
  | first :: rest => String.ofList ((rest.map String.toList).foldl sharedChars first.toList)

/-- The last part of a suggested path, with the slash of a directory. -/
def finalPart (suggestion : String) : String :=
  let cs := suggestion.toList
  let body := if cs.getLast? = some '/' then cs.dropLast else cs
  String.ofList (cs.drop (Text.cutAfterLast '/' body).1.length)

/-- What to put in place of the token, none if that would add nothing. -/
def replacement? (token : List Char) (suggestions : List String) : Option (List Char) :=
  match suggestions with
  | [only] => some (if Text.hasSuffix "/" only then only.toList else only.toList ++ [' '])
  | _ =>
    let shared := (commonPrefix suggestions).toList
    if token.length < shared.length then some shared else none

/-- Completes the token before the cursor, which is counted in characters and stays within the
line. -/
def complete (r : Registry σ) (s : Session σ) (buffer : String) (cursor : Nat) (press : Press) :
    Completion :=
  let before := buffer.toList.take cursor
  let after := buffer.toList.drop cursor
  let suggestions := suggest r s before
  if suggestions = [] then .unchanged
  else match press with
    | .double => .listing (Text.join "  " (suggestions.map finalPart))
    | .single =>
      let parts := cut before
      match replacement? parts.token suggestions with
      | none => .unchanged
      | some text =>
        let left := parts.head ++ text
        .edit (String.ofList (left ++ after)) left.length

end Completion

end SeedShell
