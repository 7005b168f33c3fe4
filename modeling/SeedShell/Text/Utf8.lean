/-!
# Reading UTF-8

A byte sequence is read character by character. Where it is no UTF-8, the longest start of a
character that the bytes form is one fault; the lenient reader writes one replacement character
for each fault, the strict reader gives up.
-/

namespace SeedShell.Text.Utf8

/-- The number of bytes that follow a lead byte, with the bounds of the first of them. -/
def following (lead : UInt8) : Option (Nat × UInt8 × UInt8) :=
  if 0xC2 ≤ lead && lead ≤ 0xDF then some (1, 0x80, 0xBF)
  else if lead == 0xE0 then some (2, 0xA0, 0xBF)
  else if lead == 0xED then some (2, 0x80, 0x9F)
  else if 0xE1 ≤ lead && lead ≤ 0xEF then some (2, 0x80, 0xBF)
  else if lead == 0xF0 then some (3, 0x90, 0xBF)
  else if 0xF1 ≤ lead && lead ≤ 0xF3 then some (3, 0x80, 0xBF)
  else if lead == 0xF4 then some (3, 0x80, 0x8F)
  else none

/-- The payload of a lead byte that `count` bytes follow. -/
def leadBits (lead : UInt8) (count : Nat) : Nat := lead.toNat % Nat.pow 2 (6 - count)

/-- Where the reader stands: between characters, or in one of which some bytes are read. -/
inductive State where
  | between
  | inside (bits count : Nat) (lo hi : UInt8)

/-- What the start of a byte sequence says: a character, or a fault. -/
inductive Item where
  | char (c : Char)
  | fault
  deriving DecidableEq

/-- The characters and faults of a byte sequence. -/
def items : State → List UInt8 → List Item
  | .between, [] => []
  | .inside .., [] => [.fault]
  | .between, b :: bs =>
    if b < 0x80 then .char (Char.ofNat b.toNat) :: items .between bs
    else match following b with
      | some (count, lo, hi) => items (.inside (leadBits b count) count lo hi) bs
      | none => .fault :: items .between bs
  | .inside bits count lo hi, b :: bs =>
    if lo ≤ b && b ≤ hi then
      let bits := bits * 64 + b.toNat % 64
      if count ≤ 1 then .char (Char.ofNat bits) :: items .between bs
      else items (.inside bits (count - 1) 0x80 0xBF) bs
    else if b < 0x80 then .fault :: .char (Char.ofNat b.toNat) :: items .between bs
    else match following b with
      | some (count, lo, hi) => .fault :: items (.inside (leadBits b count) count lo hi) bs
      | none => .fault :: .fault :: items .between bs

/-- The text of a byte sequence, with U+FFFD for each fault. -/
def decodeLenient (bs : List UInt8) : List Char :=
  (items .between bs).map fun
    | .char c => c
    | .fault => '\uFFFD'

/-- The text of a byte sequence that is UTF-8 throughout. -/
def decode? (bs : List UInt8) : Option (List Char) :=
  (items .between bs).mapM fun
    | .char c => some c
    | .fault => none

end SeedShell.Text.Utf8
