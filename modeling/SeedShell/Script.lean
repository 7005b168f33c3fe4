import SeedShell.Command.Registry
import SeedShell.Words

/-!
# Scripts

A script is an executable file whose first line is the shebang of the settings. Its other lines
are run one after the other by the table of commands; a problem becomes output and stops nothing.
Lines of text that follow each other are shown as one text.
-/

namespace SeedShell.Script

variable {σ : Type}

/-- The words of a line that runs a command. Blank lines and comments do not. -/
def command? (line : String) : Option (String × List String) :=
  let line := Text.trim line
  if line = "" ∨ Text.hasPrefix "#" line then none
  else match Words.ofLine line with
    | [] => none
    | name :: args => some (name, args)

/-- Runs commands one after the other and gives their outputs. -/
def runAll (r : Registry σ) : Session σ → List (String × List String) → List Output × Session σ
  | s, [] => ([], s)
  | s, (name, args) :: commands =>
    let (result, after) := r.dispatch s name args
    let (outputs, last) := runAll r after commands
    (.ofResult result :: outputs, last)

/-- Outputs in order, with the lines that no output has taken up yet. -/
structure Gathered where
  parts : List Output := []
  pending : List String := []

namespace Gathered

/-- Makes the pending lines one text. -/
def flush (g : Gathered) : Gathered :=
  if g.pending = [] then g else ⟨g.parts ++ [.text (Text.join "\n" g.pending)], []⟩

def add (g : Gathered) (output : Output) : Gathered :=
  match output.plainLines? with
  | some lines => { g with pending := g.pending ++ lines }
  | none => ⟨g.flush.parts ++ [output], []⟩

end Gathered

/-- Several outputs as one. -/
def gather (outputs : List Output) : Output :=
  match (outputs.foldl Gathered.add {}).flush.parts with
  | [] => .none
  | [part] => part
  | parts => .sequence parts

/-- Runs the file of a node. -/
def run (r : Registry σ) (s : Session σ) (id : Nat) : Ran σ :=
  let node := s.tree.node id
  if !node.isExecutable then (.error (.permissionDenied node.name), s)
  else match node.content?.getD [] with
    | [] => (.error (.notScript node.name), s)
    | first :: body =>
      if Text.trim first = s.settings.shebang then
        let (outputs, after) := runAll r s (body.filterMap command?)
        (.ok (gather outputs), after)
      else (.error (.notScript node.name), s)

end SeedShell.Script
