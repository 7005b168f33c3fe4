import SeedShell.Pattern.Property

/-!
# Pattern expressions

The parts of a pattern as they are written, each with its place where a fault may be reported
at it.
-/

namespace SeedShell.Pattern

structure Literal where
  span : Span
  c : Char
  /-- Written as `\x` and two digits, which stands for a byte where Unicode is off. -/
  isByte : Bool := false
  deriving DecidableEq, Repr

inductive Flag where
  | ignoreCase
  | multiLine
  | dotAll
  | swapGreed
  | unicode
  | carriageReturn
  | verbose
  deriving DecidableEq, Repr

/-- Flags to switch on or off, in the order in which they are written. -/
abbrev FlagChanges := List (Flag × Bool)

inductive SetOp where
  | intersection
  | difference
  | symmetricDifference
  deriving DecidableEq, Repr

/-- What stands between brackets. -/
inductive SetExpr where
  | literal (l : Literal)
  | range (first last : Literal)
  | ascii (span : Span) (set : CharSet) (negated : Bool)
  | perl (span : Span) (kind : Perl) (negated : Bool)
  | property (span : Span) (query : PropertyQuery) (negated : Bool)
  | bracketed (span : Span) (negated : Bool) (body : SetExpr)
  | union (span : Span) (items : List SetExpr)
  | combine (span : Span) (op : SetOp) (left right : SetExpr)

inductive Assertion where
  | lineStart
  | lineEnd
  | textStart
  | textEnd
  | wordBoundary
  | notWordBoundary
  | wordStart
  | wordEnd
  | wordStartHalf
  | wordEndHalf
  deriving DecidableEq, Repr

inductive Expr where
  | empty
  | flags (changes : FlagChanges)
  | literal (l : Literal)
  | dot (span : Span)
  | assertion (span : Span) (kind : Assertion)
  | perl (span : Span) (kind : Perl) (negated : Bool)
  | property (span : Span) (query : PropertyQuery) (negated : Bool)
  | bracketed (span : Span) (negated : Bool) (body : SetExpr)
  | repetition (span : Span) (lo : Nat) (hi : Option Nat) (greedy : Bool) (body : Expr)
  /-- A group, with its number if it has one, and the flags that change in it. -/
  | group (span : Span) (number : Option Nat) (changes : FlagChanges) (body : Expr)
  | concat (span : Span) (items : List Expr)
  | alternation (span : Span) (branches : List Expr)

namespace SetExpr

/-- The place of an expression. -/
def span : SetExpr → Span
  | .literal l => l.span
  | .range first last => ⟨first.span.start, last.span.stop⟩
  | .ascii s _ _ | .perl s _ _ | .property s _ _ | .bracketed s _ _ | .union s _
  | .combine s _ _ _ => s

/-- A row of items as one expression. An empty row stands at the given place. -/
def ofItems (place : Span) : List SetExpr → SetExpr
  | [] => .union place []
  | [item] => item
  | item :: items => .union ⟨item.span.start, (items.getLast?.getD item).span.stop⟩ (item :: items)

mutual

/-- The place where brackets nest deeper than `depth` levels. -/
def tooDeep? : Nat → SetExpr → Option Span
  | 0, .bracketed s _ _ | 0, .union s (_ :: _) | 0, .combine s _ _ _ => some s
  | d + 1, .bracketed _ _ body => body.tooDeep? d
  | d + 1, .union _ items => anyTooDeep? d items
  | d + 1, .combine _ _ left right => (left.tooDeep? d).or (right.tooDeep? d)
  | _, _ => none

def anyTooDeep? : Nat → List SetExpr → Option Span
  | _, [] => none
  | d, item :: items => (item.tooDeep? d).or (anyTooDeep? d items)

end

end SetExpr

namespace Expr

/-- The place of an expression. Neither nothing nor flags are ever repeated, so theirs does not
count. -/
def span : Expr → Span
  | .empty | .flags _ => ⟨{}, {}⟩
  | .literal l => l.span
  | .dot s | .assertion s _ | .perl s _ _ | .property s _ _ | .bracketed s _ _
  | .repetition s _ _ _ _ | .group s _ _ _ | .concat s _ | .alternation s _ => s

/-- A row of expressions as one. -/
def ofConcat (span : Span) : List Expr → Expr
  | [] => .empty
  | [item] => item
  | items => .concat span items

mutual

/-- The place where expressions nest deeper than `depth` levels. -/
def tooDeep? : Nat → Expr → Option Span
  | 0, .bracketed s _ _ | 0, .repetition s _ _ _ _ | 0, .group s _ _ _ | 0, .concat s _
  | 0, .alternation s _ => some s
  | d + 1, .bracketed _ _ body => body.tooDeep? d
  | d + 1, .repetition _ _ _ _ body => body.tooDeep? d
  | d + 1, .group _ _ _ body => body.tooDeep? d
  | d + 1, .concat _ items => anyTooDeep? d items
  | d + 1, .alternation _ branches => anyTooDeep? d branches
  | _, _ => none

def anyTooDeep? : Nat → List Expr → Option Span
  | _, [] => none
  | d, item :: items => (item.tooDeep? d).or (anyTooDeep? d items)

end

end Expr

end SeedShell.Pattern
