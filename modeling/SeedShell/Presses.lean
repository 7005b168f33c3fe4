/-!
# Presses of the completion key

Two presses within a window of time make a double press; the press after that starts over.
-/

namespace SeedShell

inductive Press where
  | single
  | double
  deriving DecidableEq, Repr

/-- The presses so far: when the last one was, and how many there are towards a double press. -/
structure Presses where
  window : Nat
  last : Option Nat := none
  count : UInt8 := 0
  deriving DecidableEq, Repr

namespace Presses

/-- Whether a moment is within the window after the last press. A clock that runs backward counts
as standing still. -/
def isQuick (p : Presses) (now : Nat) : Bool := p.last.any fun last => now - last < p.window

/-- Takes a press. A quick one counts on, any other one is the first. -/
def press (p : Presses) (now : Nat) : Press × Presses :=
  let count := if p.isQuick now then p.count + 1 else 1
  if count = 2 then (.double, { p with last := some now, count := 0 })
  else (.single, { p with last := some now, count })

/-- Takes several presses. -/
def pressAll : Presses → List Nat → List Press
  | _, [] => []
  | p, now :: rest => (p.press now).1 :: pressAll (p.press now).2 rest

end Presses

end SeedShell
