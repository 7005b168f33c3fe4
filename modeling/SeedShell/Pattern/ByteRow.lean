import SeedShell.Pattern.CharSet

/-!
# Rows of bytes

The characters of a set by their bytes: `CharSet.byteRows` lists rows of byte ranges, so that the
encodings of the members are the rows of bytes that have one byte in each range of such a row.
-/

namespace SeedShell.Pattern

/-- A range for each byte of a character. -/
abbrev ByteRow := List (Nat × Nat)

/-- Code points that are encoded with the same number of bytes. The lowest six bits stand in the
last byte, the next six in the one before, and the rest in the first. -/
structure EncodingBlock where
  first : Nat
  last : Nat
  /-- The number of bytes after the first one. -/
  more : Nat
  /-- What the first byte has besides the bits of the code point. -/
  lead : Nat

namespace EncodingBlock

def all : List EncodingBlock :=
  [⟨0, 0x7F, 0, 0⟩, ⟨0x80, 0x7FF, 1, 0xC0⟩, ⟨0x800, 0xD7FF, 2, 0xE0⟩, ⟨0xE000, 0xFFFF, 2, 0xE0⟩,
    ⟨0x10000, 0x10FFFF, 3, 0xF0⟩]

/-- The bytes of a row of digits to the base 64. -/
def bytes (b : EncodingBlock) : ByteRow → ByteRow
  | [] => []
  | first :: rest => shift b.lead first :: rest.map (shift 0x80)
where
  shift (n : Nat) : Nat × Nat → Nat × Nat
    | (lo, hi) => (lo + n, hi + n)

end EncodingBlock

/-- The numbers from `lo` to `hi` as rows of ranges of digits to the base 64. After the first
digit there are as many as the first argument says. -/
def digitRows : Nat → Nat → Nat → List ByteRow
  | 0, lo, hi => [[(lo, hi)]]
  | more + 1, lo, hi =>
    let unit := Nat.pow 64 (more + 1)
    let withFirst := fun digit rows => rows.map ((digit, digit) :: ·)
    let first := lo / unit
    let last := hi / unit
    if first = last then withFirst first (digitRows more (lo % unit) (hi % unit))
    else
      let isFirstWhole := lo % unit = 0
      let isLastWhole := hi % unit = unit - 1
      let head := if isFirstWhole then [] else
        withFirst first (digitRows more (lo % unit) (unit - 1))
      let tail := if isLastWhole then [] else withFirst last (digitRows more 0 (hi % unit))
      let lo := if isFirstWhole then first else first + 1
      let hi := if isLastWhole then last else last - 1
      let whole := if lo ≤ hi then [(lo, hi) :: List.replicate (more + 1) (0, 63)] else []
      head ++ whole ++ tail

/-- The rows of the part of a range in a block. -/
def EncodingBlock.rows (b : EncodingBlock) (lo hi : Nat) : List ByteRow :=
  let lo := max lo b.first
  let hi := min hi b.last
  if lo ≤ hi then (digitRows b.more lo hi).map b.bytes else []

/-- The rows of bytes of a set, in the order of its ranges. -/
def CharSet.byteRows (s : CharSet) : List ByteRow :=
  s.ranges.flatMap fun (lo, hi) => EncodingBlock.all.flatMap (·.rows lo hi)

end SeedShell.Pattern
