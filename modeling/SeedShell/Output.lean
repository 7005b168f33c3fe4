import SeedShell.Problem

/-!
# Output

What a command hands back, and the events that a display receives for it. Text is shown line by
line, rich content and the wiping of the screen are events of their own, and the parts of a
sequence are shown in order.
-/

namespace SeedShell

inductive Output where
  | none
  | text (t : String)
  | lines (ls : List String)
  /-- Content that is already rendered. -/
  | rich (content : String)
  /-- The screen is wiped. -/
  | clear
  | sequence (parts : List Output)
  deriving Repr

inductive Event where
  | line (content : String)
  | rich (content : String)
  | clear
  deriving DecidableEq, Repr

namespace Output

def isNone : Output → Bool
  | .none => true
  | _ => false

/-- The lines of an output that is nothing but lines. -/
def plainLines? : Output → Option (List String)
  | .none => some []
  | .text t => some (Text.lines t)
  | .lines ls => some ls
  | _ => Option.none

mutual

/-- The events that a display receives. -/
def events : Output → List Event
  | .none => []
  | .text t => (Text.lines t).map .line
  | .lines ls => ls.map .line
  | .rich content => [.rich content]
  | .clear => [.clear]
  | .sequence parts => eventsOfAll parts

def eventsOfAll : List Output → List Event
  | [] => []
  | part :: parts => part.events ++ eventsOfAll parts

end

/-- A problem is shown as its text. -/
def ofProblem (p : Problem) : Output := .text p.message

/-- What is shown of a result. -/
def ofResult : Except Problem Output → Output
  | .ok output => output
  | .error p => ofProblem p

end Output

end SeedShell
