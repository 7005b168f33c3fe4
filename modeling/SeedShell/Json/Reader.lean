import SeedShell.Json.Basic
import SeedShell.Text.Digits

/-!
# Reading JSON

A strict reader of the grammar: no comments, no trailing commas, no control characters in
strings, and nothing but blanks around the value. `Json.parse?` gives the value of a text that
is JSON.
-/

namespace SeedShell.Json

/-- The blanks of the format. -/
def isSpace (c : Char) : Bool := c == ' ' || c == '\n' || c == '\r' || c == '\t'

def skip (cs : List Char) : List Char := cs.dropWhile isSpace

/-! ## Strings -/

/-- One element of a string: a character, or a UTF-16 code unit named by an escape. -/
inductive Element where
  | char (c : Char)
  | unit (n : Nat)
  deriving DecidableEq, Repr

/-- The character that a one-letter escape stands for. -/
def shortEscape? : Char → Option Char
  | '"' => some '"'
  | '\\' => some '\\'
  | '/' => some '/'
  | 'b' => some '\x08'
  | 'f' => some '\x0C'
  | 'n' => some '\n'
  | 'r' => some '\r'
  | 't' => some '\t'
  | _ => none

/-- The elements up to the closing quote, and what follows it. -/
def readElements : List Char → Option (List Element × List Char)
  | [] => none
  | '"' :: rest => some ([], rest)
  | '\\' :: 'u' :: a :: b :: c :: d :: rest => do
    let n ← Text.hexValue? [a, b, c, d]
    let (es, rest) ← readElements rest
    return (.unit n :: es, rest)
  | '\\' :: e :: rest => do
    let c ← shortEscape? e
    let (es, rest) ← readElements rest
    return (.char c :: es, rest)
  | c :: rest =>
    if c.toNat < 0x20 ∨ c = '\\' then none
    else do
      let (es, rest) ← readElements rest
      return (.char c :: es, rest)

def isHighSurrogate (n : Nat) : Bool := 0xD800 ≤ n && n ≤ 0xDBFF

def isLowSurrogate (n : Nat) : Bool := 0xDC00 ≤ n && n ≤ 0xDFFF

/-- The text of the elements, if every surrogate has its partner beside it. -/
def joinElements : List Element → Option (List Char)
  | [] => some []
  | .char c :: es => (joinElements es).map (c :: ·)
  | [.unit n] =>
    if isHighSurrogate n || isLowSurrogate n then none else some [Char.ofNat n]
  | .unit n :: .char c :: es =>
    if isHighSurrogate n || isLowSurrogate n then none
    else (joinElements es).map (Char.ofNat n :: c :: ·)
  | .unit n :: .unit m :: es =>
    if isHighSurrogate n then
      if isLowSurrogate m then
        (joinElements es).map (Char.ofNat (0x10000 + (n - 0xD800) * 0x400 + (m - 0xDC00)) :: ·)
      else none
    else if isLowSurrogate n then none
    else (joinElements (.unit m :: es)).map (Char.ofNat n :: ·)

/-- A string after its opening quote. -/
def readString (cs : List Char) : Option (Option String × List Char) :=
  (readElements cs).map fun (es, rest) => ((joinElements es).map String.ofList, rest)

/-! ## Numbers

A number with a point or an exponent, or beyond 64 bits, is read as a double. Its digits are kept
as long as they fit in 64 bits, and then it is scaled by a power of ten. Both factors and their
product are rounded, so a number slightly below the largest double may still be too large. -/

/-- The nearest number with 53 significant bits, of two the even one. -/
def roundToDouble (n : Nat) : Nat :=
  let unit := Nat.pow 2 (n.log2 - 52)
  let rest := n % unit
  let odd := n / unit % 2
  if unit < 2 * rest + odd then (n / unit + 1) * unit else n / unit * unit

/-- Whether the double of `m`, scaled by the one of `10 ^ e`, is beyond the largest double. -/
def exceedsDouble (m : Nat) (e : Int) : Bool :=
  m ≠ 0 && 0 ≤ e &&
    (308 < e ||
      Text.doubleBound ≤ roundToDouble m * roundToDouble (Nat.pow 10 (min e 308).toNat))

/-- Appends digits to a number while it fits in 64 bits, and gives those that are left. -/
def keepDigits : Nat → List Char → Nat × List Char
  | m, [] => (m, [])
  | m, c :: cs =>
    let n := m * 10 + (c.toNat - '0'.toNat)
    if n ≤ 0xFFFFFFFFFFFFFFFF then keepDigits n cs else (m, c :: cs)

/-- The part of a number after its point, which needs a digit. -/
def readFraction (cs : List Char) : Option (List Char × List Char) :=
  match cs with
  | '.' :: rest =>
    let digits := rest.takeWhile Char.isDigit
    if digits = [] then none else some (digits, rest.drop digits.length)
  | _ => some ([], cs)

/-- The exponent of a number with whether there is one. -/
def readExponent (cs : List Char) : Option (Option Int × List Char) :=
  match cs with
  | c :: rest =>
    if c = 'e' ∨ c = 'E' then
      let (negative, rest) := match rest with
        | '-' :: r => (true, r)
        | '+' :: r => (false, r)
        | r => (false, r)
      let digits := rest.takeWhile Char.isDigit
      if digits = [] then none
      else
        let n : Int := Text.natOfDigits digits
        some (some (if negative then -n else n), rest.drop digits.length)
    else some (none, cs)
  | [] => some (none, [])

/-- What a number with the given parts is. Without a fraction and an exponent it is plain. -/
def numberOf (negative plain : Bool) (whole fraction : List Char) (exponent : Int) : Number :=
  let (m, dropped) := keepDigits 0 whole
  let (m, rest) := keepDigits m fraction
  let e := exponent + dropped.length - (fraction.length - rest.length : Nat)
  if plain && dropped = [] then (if negative then .other else .natural m)
  else if exceedsDouble m e then .tooLarge
  else if plain && !negative then .natural (Text.natOfDigits whole)
  else .other

/-- A number: no zero in front of other digits, and a digit on both sides of the point. -/
def readNumber (cs : List Char) : Option (Number × List Char) := do
  let (negative, cs) := match cs with
    | '-' :: r => (true, r)
    | r => (false, r)
  let whole := match cs with
    | '0' :: _ => ['0']
    | _ => cs.takeWhile Char.isDigit
  if whole = [] then none
  let rest := cs.drop whole.length
  if whole = ['0'] ∧ (rest.head?.any Char.isDigit) then none
  let (fraction, rest') ← readFraction rest
  let (exponent, rest'') ← readExponent rest'
  let plain := rest''.length = rest.length
  return (numberOf negative plain whole fraction (exponent.getD 0), rest'')

/-! ## Values -/

mutual

/-- A value at the start of the text, and what follows it. The first argument bounds the number
of characters that may be read. -/
def readValue : Nat → List Char → Option (Json × List Char)
  | 0, _ => none
  | fuel + 1, cs =>
    match skip cs with
    | 'n' :: 'u' :: 'l' :: 'l' :: rest => some (.null, rest)
    | 't' :: 'r' :: 'u' :: 'e' :: rest => some (.bool true, rest)
    | 'f' :: 'a' :: 'l' :: 's' :: 'e' :: rest => some (.bool false, rest)
    | '"' :: rest => (readString rest).map fun (s, rest) => (.string s, rest)
    | '[' :: rest =>
      match skip rest with
      | ']' :: rest => some (.array [], rest)
      | rest => (readItems fuel rest).map fun (vs, rest) => (.array vs, rest)
    | '{' :: rest =>
      match skip rest with
      | '}' :: rest => some (.object [], rest)
      | rest => (readMembers fuel rest).map fun (ms, rest) => (.object ms, rest)
    | rest => (readNumber rest).map fun (n, rest) => (.number n, rest)

/-- The items of an array up to its end. -/
def readItems : Nat → List Char → Option (List Json × List Char)
  | 0, _ => none
  | fuel + 1, cs => do
    let (v, rest) ← readValue fuel cs
    match skip rest with
    | ',' :: rest => do
      let (vs, rest) ← readItems fuel rest
      return (v :: vs, rest)
    | ']' :: rest => some ([v], rest)
    | _ => none

/-- The members of an object up to its end. -/
def readMembers : Nat → List Char → Option (List (Option String × Json) × List Char)
  | 0, _ => none
  | fuel + 1, cs =>
    match skip cs with
    | '"' :: rest => do
      let (k, rest) ← readString rest
      match skip rest with
      | ':' :: rest => do
        let (v, rest) ← readValue fuel rest
        match skip rest with
        | ',' :: rest => do
          let (ms, rest) ← readMembers fuel rest
          return ((k, v) :: ms, rest)
        | '}' :: rest => some ([(k, v)], rest)
        | _ => none
      | _ => none
    | _ => none

end

/-- The value of a text that is JSON. -/
def parse? (text : String) : Option Json := do
  let cs := text.toList
  let (v, rest) ← readValue (2 * cs.length + 1) cs
  if skip rest = [] then some v else none

end SeedShell.Json
