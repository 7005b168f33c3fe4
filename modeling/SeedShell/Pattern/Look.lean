import SeedShell.Pattern.CharSet

/-!
# Assertions

What a pattern may ask about a place in the text: what it says of the characters before and after
it.
-/

namespace SeedShell.Pattern

/-- What an assertion about words says of the characters before and after. -/
inductive WordLook where
  | boundary
  | notBoundary
  | start
  | stop
  | startHalf
  | stopHalf
  deriving DecidableEq, Repr

/-- Whether it holds between two characters that are part of a word or not. -/
def WordLook.holds (before after : Bool) : WordLook → Bool
  | .boundary => before ≠ after
  | .notBoundary => before = after
  | .start => !before && after
  | .stop => before && !after
  | .startHalf => !before
  | .stopHalf => !after

/-- An assertion about the place between two characters. -/
inductive Look where
  | textStart
  | textEnd
  /-- A line starts here. The flag says whether a carriage return ends lines too. -/
  | lineStart (returns : Bool)
  | lineEnd (returns : Bool)
  | word (kind : WordLook) (set : CharSet)
  deriving DecidableEq, Repr

/-- Whether an assertion holds between two characters, none at the ends of the text. -/
def Look.holds (before after : Option Char) : Look → Bool
  | .textStart => before.isNone
  | .textEnd => after.isNone
  | .lineStart false => before.isNone || before == some '\n'
  | .lineStart true =>
    before.isNone || before == some '\n' || (before == some '\r' && after ≠ some '\n')
  | .lineEnd false => after.isNone || after == some '\n'
  | .lineEnd true =>
    after.isNone || after == some '\r' || (after == some '\n' && before ≠ some '\r')
  | .word kind set => kind.holds (before.any set.contains) (after.any set.contains)

end SeedShell.Pattern
