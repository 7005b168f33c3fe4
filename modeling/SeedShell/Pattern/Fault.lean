import SeedShell.Text.Basic

/-!
# Faults in patterns

Where a pattern is wrong and why. `Fault.report` shows the pattern with marks under the faulty
part and the reason after it.
-/

namespace SeedShell.Pattern

/-- A place in a pattern. Lines and columns count from one. -/
structure Position where
  line : Nat := 1
  column : Nat := 1
  deriving DecidableEq, Repr

/-- The place after a character that stands here. -/
def Position.after (p : Position) (c : Char) : Position :=
  if c = '\n' then ⟨p.line + 1, 1⟩ else ⟨p.line, p.column + 1⟩

def Position.le (a b : Position) : Bool :=
  a.line < b.line || (a.line == b.line && a.column ≤ b.column)

structure Span where
  start : Position
  stop : Position
  deriving DecidableEq, Repr

inductive Reason where
  | classEscapeInvalid
  | classRangeInvalid
  | classRangeLiteral
  | classUnclosed
  | decimalEmpty
  | decimalInvalid
  | hexEmpty
  | hexInvalid
  | hexInvalidDigit
  | escapeUnexpectedEnd
  | escapeUnrecognized
  | flagDanglingNegation
  | flagDuplicate
  | flagRepeatedNegation
  | flagUnexpectedEnd
  | flagUnrecognized
  | groupNameDuplicate
  | groupNameEmpty
  | groupNameInvalid
  | groupNameUnexpectedEnd
  | groupUnclosed
  | groupUnopened
  | nestedTooDeep (limit : Nat)
  | countInvalid
  | countDecimalEmpty
  | countUnclosed
  | repetitionMissing
  | wordBoundaryUnclosed
  | wordBoundaryUnrecognized
  | wordBoundaryOrCountUnexpectedEnd
  | propertyInvalid
  | backreference
  | lookAround
  | unicodeNotAllowed
  | invalidUtf8
  | propertyNotFound
  | propertyValueNotFound
  deriving DecidableEq, Repr

def Reason.message : Reason → String
  | .classEscapeInvalid => "invalid escape sequence found in character class"
  | .classRangeInvalid => "invalid character class range, the start must be <= the end"
  | .classRangeLiteral => "invalid range boundary, must be a literal"
  | .classUnclosed => "unclosed character class"
  | .decimalEmpty => "decimal literal empty"
  | .decimalInvalid => "decimal literal invalid"
  | .hexEmpty => "hexadecimal literal empty"
  | .hexInvalid => "hexadecimal literal is not a Unicode scalar value"
  | .hexInvalidDigit => "invalid hexadecimal digit"
  | .escapeUnexpectedEnd => "incomplete escape sequence, reached end of pattern prematurely"
  | .escapeUnrecognized => "unrecognized escape sequence"
  | .flagDanglingNegation => "dangling flag negation operator"
  | .flagDuplicate => "duplicate flag"
  | .flagRepeatedNegation => "flag negation operator repeated"
  | .flagUnexpectedEnd => "expected flag but got end of regex"
  | .flagUnrecognized => "unrecognized flag"
  | .groupNameDuplicate => "duplicate capture group name"
  | .groupNameEmpty => "empty capture group name"
  | .groupNameInvalid => "invalid capture group character"
  | .groupNameUnexpectedEnd => "unclosed capture group name"
  | .groupUnclosed => "unclosed group"
  | .groupUnopened => "unopened group"
  | .nestedTooDeep limit =>
    "exceed the maximum number of nested parentheses/brackets (" ++ Nat.repr limit ++ ")"
  | .countInvalid => "invalid repetition count range, the start must be <= the end"
  | .countDecimalEmpty => "repetition quantifier expects a valid decimal"
  | .countUnclosed => "unclosed counted repetition"
  | .repetitionMissing => "repetition operator missing expression"
  | .wordBoundaryUnclosed =>
    "special word boundary assertion is either unclosed or contains an invalid character"
  | .wordBoundaryUnrecognized =>
    "unrecognized special word boundary assertion, valid choices are: start, end, start-half " ++
      "or end-half"
  | .wordBoundaryOrCountUnexpectedEnd =>
    "found either the beginning of a special word boundary or a bounded repetition on a \\b " ++
      "with an opening brace, but no closing brace"
  | .propertyInvalid => "invalid Unicode character class"
  | .backreference => "backreferences are not supported"
  | .lookAround => "look-around, including look-ahead and look-behind, is not supported"
  | .unicodeNotAllowed => "Unicode not allowed here"
  | .invalidUtf8 => "pattern can match invalid UTF-8"
  | .propertyNotFound => "Unicode property not found"
  | .propertyValueNotFound => "Unicode property value not found"

/-- A reason with its place, and an earlier place that it refers to. -/
structure Fault where
  reason : Reason
  span : Span
  related : Option Span := none
  deriving DecidableEq, Repr

namespace Fault

/-- The lines of a pattern, without an empty one at the end. A carriage return before a line feed
belongs to the end of the line. -/
def linesOf (pattern : String) : List String :=
  match (Text.lines pattern).reverse with
  | [] => []
  | last :: before =>
    (before.reverse.map fun line => (Text.dropSuffix? "\r" line).getD line) ++
      if last = "" then [] else [last]

/-- The places to mark, in order. -/
def spans (f : Fault) : List Span :=
  match f.related with
  | none => [f.span]
  | some other => if other.start.le f.span.start then [other, f.span] else [f.span, other]

/-- The marks for spans of one line, from a column on. Each span has at least one mark. -/
def marks : Nat → List Span → List Char
  | _, [] => []
  | column, s :: rest =>
    let gap := s.start.column - 1 - column
    let width := max 1 (s.stop.column - s.start.column)
    List.replicate gap ' ' ++ List.replicate width '^' ++ marks (column + gap + width) rest

/-- One line of the pattern with its number, if lines are numbered, and the marks under it. -/
def showLine (numberWidth : Nat) (spans : List Span) (number : Nat) (line : String) : String :=
  let head := if numberWidth = 0 then "    "
    else Text.padLeft numberWidth (Nat.repr number) ++ ": "
  let here := spans.filter fun s => s.start.line = number ∧ s.stop.line = number
  let indent := if numberWidth = 0 then 4 else 2 + numberWidth
  let notes := if here = [] then ""
    else String.ofList (List.replicate indent ' ' ++ marks 0 here) ++ "\n"
  head ++ line ++ "\n" ++ notes

def showLines (numberWidth : Nat) (spans : List Span) : Nat → List String → String
  | _, [] => ""
  | number, line :: rest =>
    showLine numberWidth spans number line ++ showLines numberWidth spans (number + 1) rest

/-- Where a span of several lines begins and ends. -/
def extent (s : Span) : String :=
  "on line " ++ Nat.repr s.start.line ++ " (column " ++ Nat.repr s.start.column ++
    ") through line " ++ Nat.repr s.stop.line ++ " (column " ++ Nat.repr (s.stop.column - 1) ++ ")"

/-- The pattern with the faulty part marked, and the reason. A pattern of several lines has its
lines numbered and stands between two rules. -/
def report (f : Fault) (pattern : String) : String :=
  let lines := linesOf pattern
  let count := lines.length + if Text.hasSuffix "\n" pattern then 1 else 0
  let numberWidth := if count ≤ 1 then 0 else (Nat.repr count).length
  let body := showLines numberWidth f.spans 1 lines
  if pattern.toList.contains '\n' then
    let rule := String.ofList (List.replicate 79 '~') ++ "\n"
    let wide := f.spans.filter fun s => s.start.line ≠ s.stop.line
    let extents := if wide = [] then "" else Text.join "\n" (wide.map extent) ++ "\n"
    "regex parse error:\n" ++ rule ++ body ++ rule ++ extents ++ "error: " ++ f.reason.message
  else "regex parse error:\n" ++ body ++ "error: " ++ f.reason.message

end Fault

end SeedShell.Pattern
