import SeedShell.Date
import SeedShell.Toml.Basic

/-!
# Plain values of TOML

The readers of strings, numbers, dates and booleans. Each takes the text at its start and gives
the value with the rest, or nothing if no such value starts there.
-/

namespace SeedShell.Toml

/-- Blanks within a line. -/
def skipSpace (cs : List Char) : List Char := cs.dropWhile fun c => c == ' ' || c == '\t'

/-- The rest after a line end. -/
def newline? : List Char → Option (List Char)
  | '\n' :: rest => some rest
  | '\r' :: '\n' :: rest => some rest
  | _ => none

/-- A character that may stand in a comment, and for itself in a string: no control character but
the tab. -/
def isTextChar (c : Char) : Bool := c == '\t' || (0x20 ≤ c.toNat && c.toNat ≠ 0x7F)

/-! ## Strings -/

/-- The character of an escape, after its backslash. -/
def readEscape : List Char → Option (Char × List Char)
  | 'b' :: rest => some ('\x08', rest)
  | 't' :: rest => some ('\t', rest)
  | 'n' :: rest => some ('\n', rest)
  | 'f' :: rest => some ('\x0C', rest)
  | 'r' :: rest => some ('\r', rest)
  | '"' :: rest => some ('"', rest)
  | '\\' :: rest => some ('\\', rest)
  | 'u' :: rest => readScalar 4 rest
  | 'U' :: rest => readScalar 8 rest
  | _ => none
where
  readScalar (count : Nat) (cs : List Char) : Option (Char × List Char) :=
    if cs.length < count then none
    else do
      let n ← Text.hexValue? (cs.take count)
      if n.isValidChar then some (Char.ofNat n, cs.drop count) else none

/-- A string in double quotes, after the opening one. -/
def readBasic : Nat → List Char → Option (List Char × List Char)
  | 0, _ => none
  | _, [] => none
  | _, '"' :: rest => some ([], rest)
  | fuel + 1, '\\' :: rest => do
    let (c, rest) ← readEscape rest
    let (s, rest) ← readBasic fuel rest
    return (c :: s, rest)
  | fuel + 1, c :: rest =>
    if isTextChar c then do
      let (s, rest) ← readBasic fuel rest
      return (c :: s, rest)
    else none

/-- A string in single quotes, after the opening one. -/
def readLiteral : List Char → Option (List Char × List Char)
  | [] => none
  | '\'' :: rest => some ([], rest)
  | c :: rest =>
    if isTextChar c then do
      let (s, rest) ← readLiteral rest
      return (c :: s, rest)
    else none

/-- The quotes at the end of a multi-line string: three close it, up to two before them belong to
the text. -/
def closing? (mark : Char) (cs : List Char) : Option (List Char × List Char) :=
  let run := (cs.takeWhile (· == mark)).length
  if 3 ≤ run ∧ run ≤ 5 then some (List.replicate (run - 3) mark, cs.drop run)
  else if 5 < run then some (List.replicate 2 mark, cs.drop 5)
  else none

/-- The rest after a backslash that ends a line: all blanks and line ends are dropped. -/
def continuation? (cs : List Char) : Option (List Char) := do
  let rest ← newline? (skipSpace cs)
  skipLines (rest.length + 1) rest
where
  skipLines : Nat → List Char → Option (List Char)
    | 0, _ => none
    | fuel + 1, cs =>
      match newline? (skipSpace cs) with
      | some rest => skipLines fuel rest
      | none => some (skipSpace cs)

/-- The text of a multi-line string after its opening quotes. Escapes count between double
quotes only. -/
def readLines (mark : Char) : Nat → List Char → Option (List Char × List Char)
  | 0, _ => none
  | _, [] => none
  | fuel + 1, c :: cs =>
    match closing? mark (c :: cs) with
    | some result => some result
    | none =>
      if c = '\\' ∧ mark = '"' then
        match continuation? cs with
        | some rest => readLines mark fuel rest
        | none => do
          let (e, rest) ← readEscape cs
          let (s, rest) ← readLines mark fuel rest
          return (e :: s, rest)
      else match newline? (c :: cs) with
        | some rest => do
          let (s, rest) ← readLines mark fuel rest
          return ('\n' :: s, rest)
        | none =>
          if isTextChar c then do
            let (s, rest) ← readLines mark fuel cs
            return (c :: s, rest)
          else none

/-- A string of any of the four kinds. A line end right after three opening quotes is dropped. -/
def readText (cs : List Char) : Option (List Char × List Char) :=
  match cs with
  | '"' :: '"' :: '"' :: rest => readLines '"' (cs.length + 1) ((newline? rest).getD rest)
  | '\'' :: '\'' :: '\'' :: rest => readLines '\'' (cs.length + 1) ((newline? rest).getD rest)
  | '"' :: rest => readBasic (cs.length + 1) rest
  | '\'' :: rest => readLiteral rest
  | _ => none

/-! ## Numbers -/

/-- Digits of which each but the first may have an underscore before it. -/
def readDigits (isDigit : Char → Bool) : List Char → Option (List Char × List Char)
  | [] => none
  | c :: rest => if isDigit c then (go rest).map fun (ds, rest) => (c :: ds, rest) else none
where
  go : List Char → Option (List Char × List Char)
    | '_' :: c :: rest =>
      if isDigit c then (go rest).map fun (ds, rest) => (c :: ds, rest) else none
    | ['_'] => none
    | c :: rest =>
      if isDigit c then (go rest).map fun (ds, rest) => (c :: ds, rest) else some ([], c :: rest)
    | [] => some ([], [])

/-- Whether an integer has at most 64 bits, one of them for its sign. -/
def inRange (n : Int) : Bool := -0x8000000000000000 ≤ n && n ≤ 0x7FFFFFFFFFFFFFFF

/-- An integer with a base prefix. -/
def readBased (base : Nat) (cs : List Char) : Option (Item × List Char) := do
  let isDigit := fun c => (Text.hexDigit? c).any (· < base)
  let (digits, rest) ← readDigits isDigit cs
  let n := digits.foldl (fun n c => n * base + (Text.hexDigit? c).getD 0) 0
  if inRange n then some (.integer n, rest) else none

def readSign : List Char → Bool × List Char
  | '-' :: rest => (true, rest)
  | '+' :: rest => (false, rest)
  | cs => (false, cs)

/-- The digits of a decimal integer: a zero stands alone. -/
def readDecimal (cs : List Char) : Option (List Char × List Char) :=
  match cs with
  | '0' :: rest => some (['0'], rest)
  | _ => readDigits Char.isDigit cs

/-- The exponent of a float, if one starts here. -/
def readPower (cs : List Char) : Option (Option Int × List Char) :=
  match cs with
  | [] => some (none, [])
  | c :: rest =>
    if c = 'e' ∨ c = 'E' then do
      let (negative, rest) := readSign rest
      let (digits, rest) ← readDigits Char.isDigit rest
      let n : Int := Text.natOfDigits digits
      return (some (if negative then -n else n), rest)
    else some (none, cs)

/-- A decimal integer or a float. A float may not be too large for a double. -/
def readNumber (cs : List Char) : Option (Item × List Char) := do
  let (negative, body) := readSign cs
  let (whole, rest) ← readDecimal body
  let (fraction, rest') ← match rest with
    | '.' :: r => readDigits Char.isDigit r
    | _ => some ([], rest)
  let (power, rest'') ← readPower rest'
  if fraction = [] ∧ power = none then
    let n : Int := Text.natOfDigits whole
    let n := if negative then -n else n
    if inRange n then some (.integer n, rest'') else none
  else
    let m := Text.natOfDigits (whole ++ fraction)
    if !negative && Text.exceedsDouble m (power.getD 0 - fraction.length) then none
    else some (.plain, rest'')

/-- The rest after a word. -/
def word? (word : String) (cs : List Char) : Option (List Char) :=
  Text.dropPrefixChars? word.toList cs

/-- The floats that have no digits. -/
def readSpecial (cs : List Char) : Option (Item × List Char) :=
  let body := (readSign cs).2
  ((word? "inf" body).or (word? "nan" body)).map fun rest => (.plain, rest)

/-! ## Dates -/

/-- Exactly `count` digits whose value lies between the bounds. -/
def readFixed (count lo hi : Nat) (cs : List Char) : Option (Nat × List Char) :=
  let digits := (cs.take count).takeWhile Char.isDigit
  let n := Text.natOfDigits digits
  if digits.length = count ∧ lo ≤ n ∧ n ≤ hi then some (n, cs.drop count) else none

def mark? (c : Char) : List Char → Option (List Char)
  | d :: rest => if d = c then some rest else none
  | [] => none

def readDay (cs : List Char) : Option (List Char) := do
  let (year, rest) ← readFixed 4 0 9999 cs
  let (month, rest) ← readFixed 2 1 12 (← mark? '-' rest)
  let (_, rest) ← readFixed 2 1 (Stamp.daysInMonth year month) (← mark? '-' rest)
  return rest

def readClock (cs : List Char) : Option (List Char) := do
  let (_, rest) ← readFixed 2 0 23 cs
  let (_, rest) ← readFixed 2 0 59 (← mark? ':' rest)
  let (_, rest) ← readFixed 2 0 60 (← mark? ':' rest)
  match rest with
  | '.' :: r =>
    let digits := r.takeWhile Char.isDigit
    if digits = [] then none else some (r.drop digits.length)
  | _ => some rest

def readOffset (cs : List Char) : Option (List Char) :=
  match cs with
  | [] => some []
  | c :: rest =>
    if c = 'Z' ∨ c = 'z' then some rest
    else if c = '+' ∨ c = '-' then do
      let (_, rest) ← readFixed 2 0 23 rest
      let (_, rest) ← readFixed 2 0 59 (← mark? ':' rest)
      return rest
    else some cs

/-- A day with or without a time, or a time alone. -/
def readDate (cs : List Char) : Option (Item × List Char) :=
  match readDay cs with
  | some rest =>
    match rest with
    | c :: r =>
      if (c = 'T' ∨ c = 't' ∨ c = ' ') ∧ (readClock r).isSome then do
        return (.plain, ← readOffset (← readClock r))
      else some (.plain, rest)
    | [] => some (.plain, [])
  | none => (readClock cs).map fun rest => (.plain, rest)

/-- A value that is neither an array nor a table. -/
def readScalar (cs : List Char) : Option (Item × List Char) :=
  match cs with
  | '"' :: _ | '\'' :: _ => (readText cs).map fun (s, rest) => (.text (String.ofList s), rest)
  | 't' :: _ => (word? "true" cs).map fun rest => (.plain, rest)
  | 'f' :: _ => (word? "false" cs).map fun rest => (.plain, rest)
  | '0' :: 'x' :: rest => readBased 16 rest
  | '0' :: 'o' :: rest => readBased 8 rest
  | '0' :: 'b' :: rest => readBased 2 rest
  | _ => (readSpecial cs).or ((readDate cs).or (readNumber cs))

end SeedShell.Toml
