import SeedShell.Output
import SeedShell.Session

/-!
# Commands

A command takes arguments and a session, and gives an output or a problem together with the
session after it.
-/

namespace SeedShell

/-- The outcome of a command and the session after it. -/
abbrev Ran (σ : Type) := Except Problem Output × Session σ

abbrev Command (σ : Type) := Session σ → List String → Ran σ

namespace Command

variable {σ : Type}

/-- A command that only looks at the session. -/
def query (answer : Session σ → List String → Except Problem Output) : Command σ :=
  fun s args => (answer s args, s)

end Command

end SeedShell
