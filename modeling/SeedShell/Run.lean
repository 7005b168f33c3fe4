import SeedShell.Script

/-!
# Running lines

The first word of a line names a script by its path if it begins with `/` or `./`, and else a
command of the table. A path after `./` is divided at its last slash: the first part names a
directory, the second a file in it.
-/

namespace SeedShell.Run

variable {σ : Type}

/-- Runs the file of a node that may be none. -/
def runFile (r : Registry σ) (s : Session σ) (name : String) (file : Option Nat) : Ran σ :=
  match file with
  | none => (.error (.noScript name), s)
  | some id =>
    let node := s.tree.node id
    if node.isFile && node.isExecutable then Script.run r s id
    else (.error (.permissionDenied name), s)

/-- The directory in which a path after `./` looks for its file, and the name of that. -/
def locate (s : Session σ) (path : List Char) : Option Nat × String :=
  match Text.cutAfterLast '/' path with
  | ([], file) => (some s.cwdNode, String.ofList file)
  | (directory, file) =>
    ((s.resolve? (String.ofList directory.dropLast)).filter s.tree.isDirectory, String.ofList file)

/-- The file that a path after `./` names. -/
def relativeFile? (s : Session σ) (path : List Char) : Option Nat := do
  let (directory, name) := locate s path
  let id ← s.tree.child? (← directory) name
  if s.tree.isDirectory id then none else some id

/-- Runs words as a command. -/
def runWords (r : Registry σ) (s : Session σ) (words : List String) : Ran σ :=
  match words with
  | [] => (.ok .none, s)
  | name :: args =>
    match name.toList with
    | '/' :: _ => runFile r s name (s.resolve? name)
    | '.' :: '/' :: path => runFile r s name (relativeFile? s path)
    | _ => r.dispatch s name args

/-- Runs a line. A problem is shown as its text. -/
def runLine (r : Registry σ) (s : Session σ) (line : String) : Output × Session σ :=
  let (result, after) := runWords r s (Words.ofLine line)
  (.ofResult result, after)

end SeedShell.Run
