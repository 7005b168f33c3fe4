import SeedShell.Text.Basic
import SeedShell.Text.Digits

/-!
# Dates of entries

The date of an entry is text. `Stamp.parse?` reads the forms `2024-11-04 00:43:10`,
`2024-11-04 00:43`, `2024-11-04T00:43:10` and `2024-11-04`; stamps order by time.
-/

namespace SeedShell

/-- A moment of the proleptic Gregorian calendar. The second 60 is a leap second. -/
structure Stamp where
  year : Int
  month : Nat
  day : Nat
  hour : Nat := 0
  minute : Nat := 0
  second : Nat := 0
  deriving DecidableEq, Repr

namespace Stamp

def isLeapYear (year : Int) : Bool := year % 4 == 0 && (year % 100 ≠ 0 || year % 400 == 0)

def daysInMonth (year : Int) (month : Nat) : Nat :=
  if month = 2 then if isLeapYear year then 29 else 28
  else if month = 4 ∨ month = 6 ∨ month = 9 ∨ month = 11 then 30 else 31

/-- The calendar covers the years from -262143 to 262142. -/
def isValid (t : Stamp) : Bool :=
  -262143 ≤ t.year && t.year ≤ 262142 && 1 ≤ t.month && t.month ≤ 12 &&
    1 ≤ t.day && t.day ≤ daysInMonth t.year t.month && t.hour ≤ 23 && t.minute ≤ 59 && t.second ≤ 60

/-- The fields from the most to the least significant. -/
def key (t : Stamp) : List Int := [t.year, t.month, t.day, t.hour, t.minute, t.second]

/-- `a` is not later than `b`. -/
def le (a b : Stamp) : Bool := !(List.lex b.key a.key fun x y => x < y)

/-! ## Reading -/

/-- One part of a date form: a field, or the text between two fields. -/
inductive Part where
  | year | month | day | hour | minute | second
  | mark (c : Char)
  | blanks
  deriving DecidableEq, Repr

/-- Reads a number of one to `width` digits. -/
def number? (width : Nat) (cs : List Char) : Option (Nat × List Char) :=
  let digits := (cs.take width).takeWhile Char.isDigit
  if digits = [] then none
  else some (Text.natOfDigits digits, cs.drop digits.length)

/-- Reads a year: up to four digits, or a sign and any number of digits. -/
def year? (cs : List Char) : Option (Int × List Char) :=
  match cs with
  | '+' :: rest => (number? rest.length rest).map fun (n, r) => ((n : Int), r)
  | '-' :: rest => (number? rest.length rest).map fun (n, r) => (-(n : Int), r)
  | _ => (number? 4 cs).map fun (n, r) => ((n : Int), r)

/-- Reads one part into the stamp. Blanks may stand before every number. -/
def readPart (p : Part) (t : Stamp) (cs : List Char) : Option (Stamp × List Char) :=
  let digits := number? 2 (Text.trimStartChars cs)
  match p with
  | .year => (year? (Text.trimStartChars cs)).map fun (n, r) => ({ t with year := n }, r)
  | .month => digits.map fun (n, r) => ({ t with month := n }, r)
  | .day => digits.map fun (n, r) => ({ t with day := n }, r)
  | .hour => digits.map fun (n, r) => ({ t with hour := n }, r)
  | .minute => digits.map fun (n, r) => ({ t with minute := n }, r)
  | .second => digits.map fun (n, r) => ({ t with second := n }, r)
  | .mark c => match cs with
    | d :: r => if d = c then some (t, r) else none
    | [] => none
  | .blanks => some (t, Text.trimStartChars cs)

/-- Reads the whole text by a form. -/
def readForm : List Part → Stamp → List Char → Option Stamp
  | [], t, cs => if cs = [] ∧ t.isValid then some t else none
  | p :: ps, t, cs => do
    let (t, rest) ← readPart p t cs
    readForm ps t rest

def dayForm : List Part := [.year, .mark '-', .month, .mark '-', .day]

def minuteForm : List Part := [.hour, .mark ':', .minute]

def secondForm : List Part := minuteForm ++ [.mark ':', .second]

/-- The forms of a date, in the order in which they are tried. -/
def forms : List (List Part) :=
  [dayForm ++ [.blanks] ++ secondForm, dayForm ++ [.blanks] ++ minuteForm,
    dayForm ++ [.mark 'T'] ++ secondForm, dayForm]

/-- Reads a date; blanks around it do not count. -/
def parse? (date : String) : Option Stamp :=
  forms.findSome? fun form => readForm form ⟨0, 0, 0, 0, 0, 0⟩ (Text.trimChars date.toList)

/-! ## Writing -/

/-- The decimal digits of `n`, with zeros in front up to the given width. -/
def padded (width n : Nat) : String :=
  String.ofList (List.replicate (width - (Nat.repr n).length) '0') ++ Nat.repr n

/-- A year has at least four digits, and a sign outside the years 0 to 9999. -/
def yearText (year : Int) : String :=
  if year < 0 then "-" ++ padded 4 year.natAbs
  else if 9999 < year then "+" ++ padded 4 year.natAbs
  else padded 4 year.natAbs

def toText (t : Stamp) : String :=
  yearText t.year ++ "-" ++ padded 2 t.month ++ "-" ++ padded 2 t.day ++ " " ++
    padded 2 t.hour ++ ":" ++ padded 2 t.minute ++ ":" ++ padded 2 t.second

end Stamp

end SeedShell
