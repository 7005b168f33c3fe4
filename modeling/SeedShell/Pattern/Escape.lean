import SeedShell.Pattern.Cursor

/-!
# Escapes in patterns

What a backslash and the characters after it stand for: a character, a class or an assertion.
-/

namespace SeedShell.Pattern

open Read

def isHex (c : Char) : Bool := (Text.hexDigit? c).isSome

/-- The character with a code point given in hexadecimal digits. -/
def charOfHex? (digits : List Char) : Option Char := do
  let n ← Text.hexValue? digits
  if n.isValidChar then some (Char.ofNat n) else none

/-- Reads exactly this many hexadecimal digits. -/
def readHexDigits : Nat → Read (List Char)
  | 0 => return []
  | count + 1 => do
    match ← peek? with
    | none => fail .escapeUnexpectedEnd (← spanHere)
    | some c =>
      if !isHex c then fail .hexInvalidDigit (← spanOfNext)
      let _ ← step
      return c :: (← readHexDigits count)

/-- Reads the code point after `\x`, `\u` or `\U`, from the letter on. `start` is the place of
the backslash. -/
def readHex (start : Position) (letter : Char) : Read Expr := do
  match ← step with
  | none => fail .escapeUnexpectedEnd (← spanHere)
  | some '\x7b' =>
    let brace ← position
    let inside := (← spanOfNext).stop
    let _ ← step
    let digits ← run isHex
    match ← peek? with
    | none => fail .escapeUnexpectedEnd (← spanFrom brace)
    | some c =>
      if c ≠ '\x7d' then fail .hexInvalidDigit (← spanOfNext)
      let digitSpan ← spanFrom inside
      let _ ← step
      if digits = [] then fail .hexEmpty (← spanFrom brace)
      match charOfHex? digits with
      | none => fail .hexInvalid digitSpan
      | some c => return .literal ⟨← spanFrom start, c, false⟩
  | some _ =>
    let first ← position
    let digits ← readHexDigits (if letter = 'x' then 2 else if letter = 'u' then 4 else 8)
    match charOfHex? digits with
    | none => fail .hexInvalid (← spanFrom first)
    | some c => return .literal ⟨← spanFrom start, c, letter = 'x'⟩

/-- Divides a text at the first place where a mark stands. -/
def divideAt (mark : List Char) : List Char → Option (List Char × List Char)
  | [] => none
  | c :: cs =>
    match Text.dropPrefixChars? mark (c :: cs) with
    | some rest => some ([], rest)
    | none => (divideAt mark cs).map fun (before, after) => (c :: before, after)

/-- The query between the braces of `\p`, and whether it asks for the characters without the
property. -/
def propertyQuery (text : List Char) : Bool × PropertyQuery :=
  match ["!=", ":", "="].findSome? fun mark =>
      (divideAt mark.toList text).map fun parts => (mark, parts) with
  | some (mark, name, value) =>
    (mark == "!=", .valued (String.ofList name) (String.ofList value))
  | none => (false, .named (String.ofList text))

/-- Reads the property after `\p` or `\P`, from the letter on. -/
def readProperty (start : Position) (negated : Bool) : Read Expr := do
  match ← step with
  | none => fail .escapeUnexpectedEnd (← spanHere)
  | some '\x7b' =>
    let _ ← step
    let text ← run (· ≠ '\x7d')
    if (← peek?).isNone then fail .escapeUnexpectedEnd (← spanHere)
    advance
    let (without, query) := propertyQuery text
    return .property (← spanFrom start) query (negated != without)
  | some '\\' => fail .propertyInvalid (← spanOfNext)
  | some c =>
    let _ ← step
    return .property (← spanFrom start) (.named (String.ofList [c])) negated

/-- The kinds of word boundary with a name. -/
def boundary? : String → Option Assertion
  | "start" => some .wordStart
  | "end" => some .wordEnd
  | "start-half" => some .wordStartHalf
  | "end-half" => some .wordEndHalf
  | _ => none

def isBoundaryChar (c : Char) : Bool := c.isAlpha || c == '-'

/-- Reads the name in braces after `\b`. Braces that begin otherwise count a repetition, and
nothing of them is read. -/
def readBoundary? (start : Position) : Read (Option Assertion) := do
  let saved ← get
  match ← step with
  | none => fail .wordBoundaryOrCountUnexpectedEnd (← spanFrom start)
  | some c =>
    if !isBoundaryChar c then
      set saved
      return none
    let first ← position
    let name ← run isBoundaryChar
    if (← peek?) ≠ some '\x7d' then fail .wordBoundaryUnclosed (← spanFrom saved.position)
    let nameSpan ← spanFrom first
    advance
    match boundary? (String.ofList name) with
    | none => fail .wordBoundaryUnrecognized nameSpan
    | some kind => return some kind

/-- The class that a letter stands for after a backslash. -/
def perl? : Char → Option (Perl × Bool)
  | 'd' => some (.digit, false)
  | 'D' => some (.digit, true)
  | 's' => some (.space, false)
  | 'S' => some (.space, true)
  | 'w' => some (.word, false)
  | 'W' => some (.word, true)
  | _ => none

/-- The control character that a letter stands for after a backslash. -/
def control? : Char → Option Char
  | 'a' => some '\x07'
  | 'f' => some '\x0C'
  | 't' => some '\t'
  | 'n' => some '\n'
  | 'r' => some '\r'
  | 'v' => some '\x0B'
  | _ => none

def assertion? : Char → Option Assertion
  | 'A' => some .textStart
  | 'z' => some .textEnd
  | 'b' => some .wordBoundary
  | 'B' => some .notWordBoundary
  | '<' => some .wordStart
  | '>' => some .wordEnd
  | _ => none

/-- A character that a backslash leaves as it is: any of ASCII but digits, letters and angle
brackets. -/
def isPlainAfterBackslash (c : Char) : Bool :=
  c.toNat < 0x80 && !c.isAlphanum && c ≠ '<' && c ≠ '>'

/-- Reads an escape, from the backslash on. -/
def readEscape : Read Expr := do
  let start ← position
  advance
  match ← peek? with
  | none => fail .escapeUnexpectedEnd (← spanFrom start)
  | some c =>
    if c.isDigit then fail .backreference ⟨start, (← spanOfNext).stop⟩
    else if c = 'x' ∨ c = 'u' ∨ c = 'U' then readHex start c
    else if c = 'p' ∨ c = 'P' then readProperty start (c = 'P')
    else
      advance
      let span ← spanFrom start
      match perl? c, control? c, assertion? c with
      | some (kind, negated), _, _ => return .perl span kind negated
      | _, some control, _ => return .literal ⟨span, control, false⟩
      | _, _, some kind =>
        if c = 'b' ∧ (← peek?) = some '\x7b' then
          match ← readBoundary? start with
          | some named => return .assertion (← spanFrom start) named
          | none => return .assertion span kind
        else return .assertion span kind
      | none, none, none =>
        if isPlainAfterBackslash c then return .literal ⟨span, c, false⟩
        else fail .escapeUnrecognized span

/-- Reads an escape or any other character as itself. -/
def readItem : Read Expr := do
  match ← peek? with
  | none => return .empty
  | some '\\' => readEscape
  | some c =>
    let span ← spanOfNext
    advance
    return .literal ⟨span, c, false⟩

end SeedShell.Pattern
