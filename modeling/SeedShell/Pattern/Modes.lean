import SeedShell.Pattern.Expr
import SeedShell.Pattern.Regex

/-!
# What a pattern means

What the expression of a pattern matches, with every flag applied: `Expr.toRegex` turns it into
a regular expression over sets of characters. With Unicode off, sets are limited to ASCII,
because a pattern has to match whole characters.
-/

namespace SeedShell.Pattern

/-- The flags in force. -/
structure Modes where
  ignoreCase : Bool := false
  multiLine : Bool := false
  dotAll : Bool := false
  unicode : Bool := true
  carriageReturn : Bool := false
  swapGreed : Bool := false
  deriving DecidableEq, Repr

namespace Modes

def set (m : Modes) : Flag × Bool → Modes
  | (.ignoreCase, on) => { m with ignoreCase := on }
  | (.multiLine, on) => { m with multiLine := on }
  | (.dotAll, on) => { m with dotAll := on }
  | (.unicode, on) => { m with unicode := on }
  | (.carriageReturn, on) => { m with carriageReturn := on }
  | (.swapGreed, on) => { m with swapGreed := on }
  | (.verbose, _) => m

def setAll (m : Modes) (changes : FlagChanges) : Modes := changes.foldl set m

/-- A set with the other case of its letters, where case is ignored. -/
def fold (m : Modes) (s : CharSet) : CharSet :=
  if m.ignoreCase then (if m.unicode then s.foldCase else s.foldAsciiCase) else s

/-- A set that is within ASCII if Unicode is off. -/
def checked (m : Modes) (span : Span) (s : CharSet) : Except Fault CharSet :=
  if m.unicode || s.within 0x7F then .ok s else .error ⟨.invalidUtf8, span, none⟩

/-- A set or its complement. Case is folded first. -/
def foldAndNegate (m : Modes) (span : Span) (negated : Bool) (s : CharSet) :
    Except Fault CharSet :=
  m.checked span (if negated then (m.fold s).complement else m.fold s)

/-- The set of one character, before case is folded. -/
def literalSet (m : Modes) (l : Literal) : Except Fault CharSet :=
  if !m.unicode && l.isByte && 0x7F < l.c.toNat then .error ⟨.invalidUtf8, l.span, none⟩
  else .ok (.single l.c)

def perlSet (m : Modes) (span : Span) (kind : Perl) (negated : Bool) : Except Fault CharSet :=
  let s := if m.unicode then kind.set else kind.asciiSet
  m.checked span (if negated then s.complement else s)

def propertySet (m : Modes) (span : Span) (query : PropertyQuery) (negated : Bool) :
    Except Fault CharSet :=
  if m.unicode then
    match query.resolve with
    | .ok s => m.foldAndNegate span negated s
    | .error reason => .error ⟨reason, span, none⟩
  else .error ⟨.unicodeNotAllowed, span, none⟩

def dotSet (m : Modes) (span : Span) : Except Fault CharSet :=
  if !m.unicode then .error ⟨.invalidUtf8, span, none⟩
  else if m.dotAll then .ok .all
  else if m.carriageReturn then .ok (CharSet.complement ⟨[(0x0A, 0x0A), (0x0D, 0x0D)]⟩)
  else .ok (CharSet.complement ⟨[(0x0A, 0x0A)]⟩)

/-- A literal inside brackets. Without Unicode it has to be ASCII. -/
def boundedLiteral (m : Modes) (l : Literal) : Except Fault CharSet := do
  let s ← m.literalSet l
  if m.unicode || s.within 0x7F then .ok s else .error ⟨.unicodeNotAllowed, l.span, none⟩

def look (m : Modes) : Assertion → Look
  | .textStart => .textStart
  | .textEnd => .textEnd
  | .lineStart => if m.multiLine then .lineStart m.carriageReturn else .textStart
  | .lineEnd => if m.multiLine then .lineEnd m.carriageReturn else .textEnd
  | .wordBoundary => word .boundary
  | .notWordBoundary => word .notBoundary
  | .wordStart => word .start
  | .wordEnd => word .stop
  | .wordStartHalf => word .startHalf
  | .wordEndHalf => word .stopHalf
where
  word (kind : WordLook) : Look :=
    .word kind (if m.unicode then Perl.set .word else Perl.asciiSet .word)

end Modes

namespace SetExpr

mutual

/-- The set that an expression in brackets stands for. -/
def toSet (m : Modes) : SetExpr → Except Fault CharSet
  | .literal l => m.boundedLiteral l
  | .range first last => do
    let _ ← m.boundedLiteral first
    let _ ← m.boundedLiteral last
    return ⟨[(first.c.toNat, last.c.toNat)]⟩
  | .ascii span set negated => m.foldAndNegate span negated set
  | .perl span kind negated => m.perlSet span kind negated
  | .property span query negated => m.propertySet span query negated
  | .bracketed span negated body => do
    m.foldAndNegate span negated (.unions [← body.toSet m])
  | .union _ items => do return .unions (← toSets m items)
  | .combine _ op left right => do
    let a := m.fold (← left.toSet m)
    let b := m.fold (← right.toSet m)
    return match op with
      | .intersection => a.inter b
      | .difference => a.diff b
      | .symmetricDifference => a.symmDiff b

def toSets (m : Modes) : List SetExpr → Except Fault (List CharSet)
  | [] => .ok []
  | item :: items => do
    let s ← item.toSet m
    return s :: (← toSets m items)

end

end SetExpr

namespace Expr

mutual

/-- The regular expression of an expression, and the flags in force after it. -/
def toRegex (m : Modes) : Expr → Except Fault (Regex × Modes)
  | .empty => .ok (.empty, m)
  | .flags changes => .ok (.empty, m.setAll changes)
  | .literal l => do return (.ofSet (m.fold (← m.literalSet l)), m)
  | .dot span => do return (.ofSet (← m.dotSet span), m)
  | .assertion _ kind => .ok (.look (m.look kind), m)
  | .perl span kind negated => do return (.ofSet (← m.perlSet span kind negated), m)
  | .property span query negated => do return (.ofSet (← m.propertySet span query negated), m)
  | .bracketed span negated body => do
    return (.ofSet (← m.foldAndNegate span negated (.unions [← body.toSet m])), m)
  | .repetition _ lo hi greedy body => do
    let (r, m) ← body.toRegex m
    return (.ofCount lo hi (greedy != m.swapGreed) r, m)
  | .group _ number changes body => do
    let (r, _) ← body.toRegex (m.setAll changes)
    return (match number with
      | some number => .group number r
      | none => r, m)
  | .concat _ items => do
    let (rs, m) ← toRegexes m items
    return (.ofSeq rs, m)
  | .alternation _ branches => do
    let (rs, m) ← toRegexes m branches
    return (.ofAlt rs, m)

def toRegexes (m : Modes) : List Expr → Except Fault (List Regex × Modes)
  | [] => .ok ([], m)
  | item :: items => do
    let (r, m) ← item.toRegex m
    let (rs, m) ← toRegexes m items
    return (r :: rs, m)

end

end Expr

end SeedShell.Pattern
