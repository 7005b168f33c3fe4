import SeedShell.Pattern.Brackets

/-!
# Reading patterns

A pattern is a row of branches between bars, a branch a row of items, and an item may be
repeated. `parse` gives the expression of a pattern or its first fault.
-/

namespace SeedShell.Pattern

open Read

/-! ## Groups -/

/-- The letters, which include the marks and numbers that Unicode counts as such. -/
def letters : CharSet := (binary? "alphabetic").getD .empty

def numbers : CharSet := inCategories ["nd", "nl", "no"]

def isFirstNameChar (c : Char) : Bool := c == '_' || c.isAlpha || letters.contains c

def isNameChar (c : Char) : Bool :=
  c == '_' || c == '.' || c == '[' || c == ']' || c.isAlphanum || letters.contains c ||
    numbers.contains c

/-- Reads the characters of a name up to its closing bracket. -/
def readNameChars (isFirst : Bool) : Nat → Read (List Char)
  | 0 => return []
  | fuel + 1 => do
    match ← peek? with
    | none => fail .groupNameUnexpectedEnd (← spanHere)
    | some '>' => return []
    | some c =>
      if !(if isFirst then isFirstNameChar c else isNameChar c) then
        fail .groupNameInvalid (← spanOfNext)
      advance
      return c :: (← readNameChars false fuel)

/-- Reads the name of a group and the bracket after it. -/
def readName : Read Unit := do
  let start ← position
  let name ← readNameChars true ((← get).rest.length + 1)
  let span ← spanFrom start
  advance
  if name = [] then fail .groupNameEmpty ⟨start, start⟩
  match (← get).names.lookup (String.ofList name) with
  | some other => throw ⟨.groupNameDuplicate, span, some other⟩
  | none => modify fun c => { c with names := c.names ++ [(String.ofList name, span)] }

def flag? : Char → Option Flag
  | 'i' => some .ignoreCase
  | 'm' => some .multiLine
  | 's' => some .dotAll
  | 'U' => some .swapGreed
  | 'u' => some .unicode
  | 'R' => some .carriageReturn
  | 'x' => some .verbose
  | _ => none

/-- Reads flags up to a colon or a closing parenthesis. `seen` holds the places of those so far,
and `negation` is the place of the hyphen among them. -/
def readFlags (seen : List (Flag × Span)) (negation : Option Span) (dangling : Bool) :
    Nat → Read FlagChanges
  | 0 => return []
  | fuel + 1 => do
    match ← peek? with
    | none => fail .flagUnexpectedEnd (← spanHere)
    | some c =>
      let span ← spanOfNext
      if c = ':' ∨ c = ')' then
        if let some hyphen := negation then
          if dangling then fail .flagDanglingNegation hyphen
        return []
      else if c = '-' then
        if let some hyphen := negation then throw ⟨.flagRepeatedNegation, span, some hyphen⟩
        advance
        readFlags seen (some span) true fuel
      else
        match flag? c with
        | none => fail .flagUnrecognized span
        | some flag =>
          if let some other := seen.lookup flag then throw ⟨.flagDuplicate, span, some other⟩
          advance
          let rest ← readFlags (seen ++ [(flag, span)]) negation false fuel
          return (flag, negation.isNone) :: rest

/-- How a group starts. -/
inductive Opening where
  /-- The rest of a group follows, under changed flags. The first flag says whether it is one of
  the groups that are numbered. -/
  | group (isNumbered : Bool) (changes : FlagChanges)
  /-- There is no group, but the flags change up to the end of the one around. -/
  | flags (changes : FlagChanges)

/-- Passes the start of an assertion about the text around, if there is one. -/
def acceptLookAround : Read Bool := do
  if ← accept "?=" then return true
  else if ← accept "?!" then return true
  else if ← accept "?<=" then return true
  else accept "?<!"

def acceptName : Read Bool := do
  if ← accept "?P<" then return true else accept "?<"

/-- Reads the start of a group from its parenthesis on. -/
def readGroupOpening : Read Opening := do
  let parenthesis ← spanOfNext
  advance
  skipBlanks
  if ← acceptLookAround then fail .lookAround (← spanFrom parenthesis.start)
  let inner ← spanHere
  if ← acceptName then
    readName
    return .group true []
  else if ← accept "?" then
    if (← peek?).isNone then fail .groupUnclosed parenthesis
    let first ← peek?
    let changes ← readFlags [] none false ((← get).rest.length + 1)
    let last ← peek?
    advance
    if last = some ')' then
      if first = some ')' then fail .repetitionMissing inner
      return .flags changes
    else return .group false changes
  else return .group true []

/-- The setting of verbose mode after changes of flags. -/
def verboseAfter (changes : FlagChanges) (before : Bool) : Bool :=
  (changes.lookup .verbose).getD before

def setVerbose (verbose : Bool) : Read Unit := modify fun c => { c with verbose }

/-- The number of a group that starts here. -/
def nextNumber : Read Nat := do
  modify fun c => { c with groups := c.groups + 1 }
  return (← get).groups

/-! ## Repetitions -/

/-- What a repetition applies to: the last item, which may not be a change of flags. The items
before a place are listed from it backward. -/
def repeated? (items : List Expr) : Option Expr :=
  match items with
  | [] | .empty :: _ | .flags _ :: _ => none
  | item :: _ => some item

/-- The items with the last one repeated. -/
def repeatLast (items : List Expr) (item : Expr) (lo : Nat) (hi : Option Nat) (greedy : Bool) :
    Read (List Expr) := do
  return .repetition ⟨item.span.start, ← position⟩ lo hi greedy item :: items.drop 1

/-- Reads one of the operators `?`, `*` and `+`, and the mark of a lazy one. -/
def readSimpleRepetition (items : List Expr) (lo : Nat) (hi : Option Nat) : Read (List Expr) := do
  match repeated? items with
  | none => fail .repetitionMissing (← spanHere)
  | some item =>
    advance
    let lazy ← accept "?"
    repeatLast items item lo hi !lazy

/-- Reads a number in a counted repetition. What is wrong with it is given and not thrown. -/
def readCount : Read (Except Fault Nat) := do
  modify fun c => { c with
    rest := c.rest.dropWhile Text.isBlank
    position := (c.rest.takeWhile Text.isBlank).foldl Position.after c.position }
  let start ← position
  let digits ← run Char.isDigit
  let span ← spanFrom start
  let _ ← run Text.isBlank
  if digits = [] then return .error ⟨.countDecimalEmpty, span, none⟩
  let n := Text.natOfDigits digits
  if 0xFFFFFFFF < n then return .error ⟨.decimalInvalid, span, none⟩
  return .ok n

/-- A number that has to be right. -/
def counted (n : Except Fault Nat) : Read Nat :=
  match n with
  | .ok n => return n
  | .error e => throw e

/-- Reads the bounds of a repetition up to where the closing brace has to be. None if the text
ends before. -/
def readBounds? : Read (Option (Nat × Option Nat)) := do
  if (← step).isNone then return none
  let first ← readCount
  match ← peek? with
  | none => return none
  | some ',' =>
    match ← step with
    | none => return none
    | some '\x7d' => return some (← counted first, none)
    | some _ =>
      let lo ← counted first
      let hi ← counted (← readCount)
      return some (lo, some hi)
  | some _ =>
    let n ← counted first
    return some (n, some n)

/-- Reads a repetition in braces. -/
def readCountedRepetition (items : List Expr) : Read (List Expr) := do
  match repeated? items with
  | none => fail .repetitionMissing (← spanHere)
  | some item =>
    let start ← position
    match ← readBounds?, ← peek? with
    | some (lo, hi), some '\x7d' =>
      let _ ← step
      let lazy ← accept "?"
      if hi.any (· < lo) then fail .countInvalid (← spanFrom start)
      repeatLast items item lo hi !lazy
    | _, _ => fail .countUnclosed (← spanFrom start)

/-! ## Branches and groups -/

/-- The branch that starts at a place and ends here. Its items are listed from its end. -/
def branch (start : Position) (items : List Expr) : Read Expr := do
  return .ofConcat (← spanFrom start) items.reverse

/-- One item that is no group and no set. -/
def readSimpleItem : Read Expr := do
  let span ← spanOfNext
  match ← peek? with
  | some '.' =>
    advance
    return .dot span
  | some '^' =>
    advance
    return .assertion span .lineStart
  | some '$' =>
    advance
    return .assertion span .lineEnd
  | _ => readItem

/-- Branches, listed from the last one, as one expression. `first` is the place where they
start. -/
def joinBranches (first : Position) (branches : List Expr) (last : Expr) : Read Expr := do
  if branches.isEmpty then return last
  else return .alternation (← spanFrom first) (last :: branches).reverse

mutual

/-- Reads branches up to a closing parenthesis or the end. `branches` are those before the one in
progress, which starts at `start` and has the given items; both are listed from here backward. -/
def readBranches (first : Position) :
    Nat → List Expr → Position → List Expr → Read Expr
  | 0, branches, start, items => do joinBranches first branches (← branch start items)
  | fuel + 1, branches, start, items => do
    skipBlanks
    match ← peek? with
    | none | some ')' => joinBranches first branches (← branch start items)
    | some '|' =>
      let done ← branch start items
      advance
      readBranches first fuel (done :: branches) (← position) []
    | some '(' => readBranches first fuel branches start ((← readGroup fuel) :: items)
    | some '[' =>
      let (span, negated, body) ← readSet (fuel + 1)
      readBranches first fuel branches start (.bracketed span negated body :: items)
    | some '?' => readBranches first fuel branches start (← readSimpleRepetition items 0 (some 1))
    | some '*' => readBranches first fuel branches start (← readSimpleRepetition items 0 none)
    | some '+' => readBranches first fuel branches start (← readSimpleRepetition items 1 none)
    | some '\x7b' => readBranches first fuel branches start (← readCountedRepetition items)
    | some _ => readBranches first fuel branches start ((← readSimpleItem) :: items)

/-- Reads a group, or a change of flags in parentheses. -/
def readGroup : Nat → Read Expr
  | 0 => return .empty
  | fuel + 1 => do
    let parenthesis ← spanOfNext
    let verbose := (← get).verbose
    match ← readGroupOpening with
    | .flags changes =>
      setVerbose (verboseAfter changes verbose)
      return .flags changes
    | .group isNumbered changes =>
      let number ← if isNumbered then some <$> nextNumber else pure none
      setVerbose (verboseAfter changes verbose)
      let start ← position
      let body ← readBranches start fuel [] start []
      if (← peek?).isNone then fail .groupUnclosed parenthesis
      advance
      setVerbose verbose
      return .group (← spanFrom parenthesis.start) number changes body

end

/-- Reads a whole pattern. -/
def readPattern : Read Expr := do
  let e ← readBranches {} ((← get).rest.length + 1) [] {} []
  if (← peek?).isSome then fail .groupUnopened (← spanOfNext)
  return e

/-- How deeply expressions may nest. -/
def nestLimit : Nat := 250

/-- The expression of a pattern. -/
def parse (pattern : String) : Except Fault Expr := do
  let e ← readPattern.run' { rest := pattern.toList }
  match e.tooDeep? nestLimit with
  | some span => .error ⟨.nestedTooDeep nestLimit, span, none⟩
  | none => .ok e

end SeedShell.Pattern
