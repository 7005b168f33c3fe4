import SeedShell.Command.Listing
import SeedShell.Command.Place
import SeedShell.Command.Recall
import SeedShell.Command.Search
import SeedShell.Command.Show

/-!
# The table of commands

Commands by their names. A command that is registered under a name replaces the one before.
-/

namespace SeedShell

structure Registry (σ : Type) where
  commands : List (String × Command σ)

namespace Registry

variable {σ : Type}

def empty : Registry σ := ⟨[]⟩

def register (r : Registry σ) (name : String) (command : Command σ) : Registry σ :=
  ⟨(name, command) :: r.commands.filter (·.1 ≠ name)⟩

def get? (r : Registry σ) (name : String) : Option (Command σ) := r.commands.lookup name

/-- The names in ascending order. -/
def names (r : Registry σ) : List String := Text.sort (r.commands.map (·.1))

/-- The names that begin with a text. -/
def completions (r : Registry σ) (start : String) : List String :=
  r.names.filter (Text.hasPrefix start)

/-- Runs the command of a name. -/
def dispatch (r : Registry σ) (s : Session σ) (name : String) (args : List String) : Ran σ :=
  match r.get? name with
  | some command => command s args
  | none => (.error (.unknownCommand name), s)

variable [KeyValueStore σ]

/-- The commands that every shell has. -/
def standard : Registry σ :=
  ⟨[("cat", Command.showFile), ("cd", Command.changeDirectory), ("clear", Command.clear),
    ("echo", Command.echo), ("grep", Command.search), ("help", Command.help),
    ("history", Command.history), ("ls", Command.list), ("pwd", Command.showDirectory),
    ("su", Command.switchUser)]⟩

end Registry

end SeedShell
