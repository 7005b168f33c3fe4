import SeedShell.Pattern.Modes
import SeedShell.Pattern.Program
import SeedShell.Pattern.Reader
import SeedShell.Pattern.Size

/-!
# Patterns

A search pattern is a regular expression over characters. `Pattern.compile` reads one, or says
what is wrong with it; `Pattern.isMatch` looks for it in a line.
-/

namespace SeedShell

/-- A pattern ready for matching. -/
structure Pattern where
  program : Pattern.Program

/-- Why a text is no pattern. -/
inductive PatternError where
  | fault (f : Pattern.Fault)
  /-- The pattern would take too much memory. -/
  | tooLarge
  deriving DecidableEq, Repr

namespace PatternError

/-- The report on the pattern that has the error. -/
def report (pattern : String) : PatternError → String
  | .fault f => f.report pattern
  | .tooLarge => "Compiled regex exceeds size limit of 10485760 bytes."

end PatternError

namespace Pattern

def compile (ignoreCase : Bool) (text : String) : Except PatternError Pattern := do
  let e ← (parse text).mapError .fault
  let (r, _) ← (e.toRegex { ignoreCase }).mapError .fault
  if r.isWithinLimit then .ok ⟨.ofRegex r⟩ else .error .tooLarge

/-- Whether a match lies anywhere in a line. -/
def isMatch (p : Pattern) (line : String) : Bool := p.program.isMatch line

end Pattern

end SeedShell
