/-!
# Offsets in UTF-16 code units

A page counts the cursor in UTF-16 code units, the shell counts it in characters. The two
conversions are inverse to each other at the boundaries of characters.
-/

namespace SeedShell.Text.Units

/-- The code units of one character: two beyond the basic plane, else one. -/
def width (c : Char) : Nat := if c.toNat < 0x10000 then 1 else 2

/-- The code units of the first `k` characters. -/
def ofChars (s : String) (k : Nat) : Nat :=
  (s.toList.take k).foldr (fun c units => width c + units) 0

/-- The number of characters that start before the unit offset `units`. -/
def charsBefore : Nat → List Char → Nat
  | _, [] => 0
  | 0, _ => 0
  | units + 1, c :: cs => charsBefore (units + 1 - width c) cs + 1

/-- The least character index at or after the unit offset, the length if there is none. -/
def toChars (s : String) (units : Nat) : Nat := charsBefore units s.toList

end SeedShell.Text.Units
