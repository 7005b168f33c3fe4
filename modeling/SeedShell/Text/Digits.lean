/-!
# Digits

The numbers that rows of decimal and hexadecimal digits stand for.
-/

namespace SeedShell.Text

/-- The number that a row of decimal digits stands for. -/
def natOfDigits (digits : List Char) : Nat :=
  digits.foldl (fun n c => n * 10 + (c.toNat - '0'.toNat)) 0

/-- The value of a hexadecimal digit in either case. -/
def hexDigit? (c : Char) : Option Nat :=
  if '0' ≤ c ∧ c ≤ '9' then some (c.toNat - '0'.toNat)
  else if 'a' ≤ c ∧ c ≤ 'f' then some (c.toNat - 'a'.toNat + 10)
  else if 'A' ≤ c ∧ c ≤ 'F' then some (c.toNat - 'A'.toNat + 10)
  else none

/-- The value of a row of hexadecimal digits. -/
def hexValue? (digits : List Char) : Option Nat :=
  digits.foldlM (fun n c => (hexDigit? c).map (n * 16 + ·)) 0

/-- The least number that rounds to more than the largest double. -/
def doubleBound : Nat := Nat.pow 2 1024 - Nat.pow 2 970

/-- Whether `m · 10 ^ e` rounds to a number beyond the largest double. -/
def exceedsDouble (m : Nat) (e : Int) : Bool :=
  let size : Int := (Nat.repr m).length + e
  if m = 0 ∨ size < 300 then false
  else if 320 < size then true
  else if 0 ≤ e then decide (doubleBound ≤ m * Nat.pow 10 e.toNat)
  else decide (doubleBound * Nat.pow 10 (-e).toNat ≤ m)

end SeedShell.Text
