/-!
# Text

Blank characters, and the cutting and joining of text. The algorithms work on lists of
characters; each has a companion on `String`. Splitting and joining are inverse to each other
on parts that hold no separator.
-/

namespace SeedShell.Text

/-- The characters with the Unicode property `White_Space`. -/
def isBlank (c : Char) : Bool :=
  let n := c.toNat
  (0x09 ≤ n && n ≤ 0x0D) || n == 0x20 || n == 0x85 || n == 0xA0 || n == 0x1680 ||
    (0x2000 ≤ n && n ≤ 0x200A) || n == 0x2028 || n == 0x2029 || n == 0x202F ||
    n == 0x205F || n == 0x3000

/-! ## Lists of characters -/

/-- The parts between separators. There is one more part than there are separators. -/
def splitChars (sep : Char → Bool) : List Char → List (List Char)
  | [] => [[]]
  | c :: cs =>
    if sep c then [] :: splitChars sep cs
    else (splitChars sep cs).modifyHead (c :: ·)

/-- The text without the blank characters at its start. -/
def trimStartChars (cs : List Char) : List Char := cs.dropWhile isBlank

/-- The text without the blank characters at its end. -/
def trimEndChars (cs : List Char) : List Char := (cs.reverse.dropWhile isBlank).reverse

/-- The text without the blank characters at its two ends. -/
def trimChars (cs : List Char) : List Char := trimEndChars (trimStartChars cs)

/-- The text after a leading `start`, if it begins with that. -/
def dropPrefixChars? : List Char → List Char → Option (List Char)
  | [], cs => some cs
  | _ :: _, [] => none
  | p :: ps, c :: cs => if p = c then dropPrefixChars? ps cs else none

/-- The text up to and including its last `mark`, and what follows. -/
def cutAfterLast (mark : Char) (cs : List Char) : List Char × List Char :=
  let tail := (cs.reverse.takeWhile (· ≠ mark)).reverse
  (cs.take (cs.length - tail.length), tail)

/-! ## Strings -/

def split (sep : Char → Bool) (s : String) : List String :=
  (splitChars sep s.toList).map String.ofList

/-- The lines of a text: the parts between its newline characters. -/
def lines (s : String) : List String := split (· == '\n') s

/-- The non-empty parts between blank characters. -/
def fields (s : String) : List String := (split isBlank s).filter (· ≠ "")

def join (sep : String) (parts : List String) : String := sep.intercalate parts

def trim (s : String) : String := String.ofList (trimChars s.toList)

def hasPrefix (start s : String) : Bool := start.toList.isPrefixOf s.toList

def hasSuffix (tail s : String) : Bool := tail.toList.isSuffixOf s.toList

def dropSuffix? (tail s : String) : Option String :=
  (dropPrefixChars? tail.toList.reverse s.toList.reverse).map fun cs => String.ofList cs.reverse

/-- The text with blanks in front up to the given width. -/
def padLeft (width : Nat) (s : String) : String :=
  String.ofList (List.replicate (width - s.length) ' ') ++ s

/-- The strings in ascending order of their code points; equal ones keep their order. -/
def sort (xs : List String) : List String := xs.mergeSort fun a b => decide (a ≤ b)

end SeedShell.Text
