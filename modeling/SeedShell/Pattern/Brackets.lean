import SeedShell.Pattern.Escape

/-!
# Sets in brackets

A set in brackets holds characters, ranges, classes and other sets. A closing bracket or hyphens
directly after the opening stand for themselves. Sets are joined by `&&`, `--` and `~~`, the
leftmost first.
-/

namespace SeedShell.Pattern

open Read

/-- A hyphen that stands for itself, and the others after it. `start` is the place of the
opening bracket. -/
def readHyphens (start : Position) : Nat → Read (List SetExpr)
  | 0 => return []
  | fuel + 1 => do
    if (← peek?) = some '-' then
      let item : SetExpr := .literal ⟨← spanOfNext, '-', false⟩
      if (← step).isNone then fail .classUnclosed ⟨start, start⟩
      return item :: (← readHyphens start fuel)
    else return []

/-- Reads from an opening bracket to the items that may stand for themselves there. Gives what
was read, whether the set is negated, and the items. -/
def readOpening : Read (Span × Bool × List SetExpr) := do
  let start ← position
  let unclosed : Read Unit := do fail .classUnclosed (← spanFrom start)
  if (← step).isNone then unclosed
  let negated := (← peek?) = some '^'
  if negated then
    if (← step).isNone then unclosed
  let hyphens ← readHyphens start (← get).rest.length
  if hyphens = [] ∧ (← peek?) = some ']' then
    let item : SetExpr := .literal ⟨← spanOfNext, ']', false⟩
    if (← step).isNone then unclosed
    return (← spanFrom start, negated, [item])
  return (← spanFrom start, negated, hyphens)

/-- Reads a class such as `[:alpha:]` or `[:^alpha:]`. Nothing is read if there is none. -/
def readAscii? : Read (Option SetExpr) := do
  let saved ← get
  if !(← accept "[:") then return none
  let negated ← accept "^"
  let name := (← get).rest.takeWhile (· ≠ ':')
  let _ ← accept (String.ofList name)
  if ← accept ":]" then
    if let some set := asciiClass? (String.ofList name) then
      return some (.ascii (← spanFrom saved.position) set negated)
  set saved
  return none

/-- An item of a set that stands alone. -/
def setItem (item : Expr) : Read SetExpr :=
  match item with
  | .literal l => return .literal l
  | .perl span kind negated => return .perl span kind negated
  | .property span query negated => return .property span query negated
  | other => fail .classEscapeInvalid other.span

/-- An end of a range. -/
def rangeEnd (item : Expr) : Read Literal :=
  match item with
  | .literal l => return l
  | other => fail .classRangeLiteral other.span

/-- Reads an item or a range of a set that was opened at `opening`. -/
def readRange (opening : Span) : Read SetExpr := do
  let first ← readItem
  skipBlanks
  let next ← peek?
  if next.isNone then fail .classUnclosed opening
  let second := (← get).second?
  if next ≠ some '-' ∨ second = some ']' ∨ second = some '-' then setItem first
  else
    if (← step).isNone then fail .classUnclosed opening
    let last ← readItem
    let a ← rangeEnd first
    let b ← rangeEnd last
    if b.c < a.c then fail .classRangeInvalid ⟨a.span.start, b.span.stop⟩
    return .range a b

/-- The operand so far joined with the items after its operator. -/
def joinOperand (before : Option (SetExpr × SetOp)) (operand : SetExpr) : SetExpr :=
  match before with
  | none => operand
  | some (left, op) => .combine ⟨left.span.start, operand.span.stop⟩ op left operand

/-- Passes an operator between sets, if there is one. -/
def readSetOp? : Read (Option SetOp) := do
  if ← accept "&&" then return some .intersection
  else if ← accept "--" then return some .difference
  else if ← accept "~~" then return some .symmetricDifference
  else return none

mutual

/-- Reads a set from its opening bracket to its closing one. -/
def readSet : Nat → Read (Span × Bool × SetExpr)
  | 0 => return (⟨{}, {}⟩, false, .union ⟨{}, {}⟩ [])
  | fuel + 1 => do
    let (opening, negated, items) ← readOpening
    let body ← readSetItems opening fuel none items
    return (← spanFrom opening.start, negated, body)

/-- Reads the items of a set and its closing bracket, after an operand and the items so far. -/
def readSetItems (opening : Span) :
    Nat → Option (SetExpr × SetOp) → List SetExpr → Read SetExpr
  | 0, before, items => return joinOperand before (.ofItems opening items)
  | fuel + 1, before, items => do
    skipBlanks
    match ← peek? with
    | none => fail .classUnclosed opening
    | some ']' =>
      let operand := SetExpr.ofItems (← spanHere) items
      advance
      return joinOperand before operand
    | some '[' =>
      match ← readAscii? with
      | some item => readSetItems opening fuel before (items ++ [item])
      | none =>
        let (span, negated, body) ← readSet fuel
        readSetItems opening fuel before (items ++ [.bracketed span negated body])
    | some _ =>
      let place ← spanHere
      match ← readSetOp? with
      | some op =>
        readSetItems opening fuel (some (joinOperand before (.ofItems place items), op)) []
      | none => readSetItems opening fuel before (items ++ [← readRange opening])

end

end SeedShell.Pattern
