import SeedShell.Pattern.CharSet
import SeedShell.Pattern.Fault
import SeedShell.Pattern.Table.Age
import SeedShell.Pattern.Table.Break
import SeedShell.Pattern.Table.Casing
import SeedShell.Pattern.Table.Category
import SeedShell.Pattern.Table.Script

/-!
# Character properties

The sets that properties name. Names are compared without regard to case, blanks, hyphens and
underscores, and to an `is` in front.
-/

namespace SeedShell.Pattern

/-! ## Names -/

def isNameSeparator (c : Char) : Bool := c == ' ' || c == '_' || c == '-'

/-- A name with letters in lower case and without separators and letters beyond ASCII. -/
def plainName (cs : List Char) : String :=
  String.ofList ((cs.filter fun c => !isNameSeparator c && c.toNat < 0x80).map Char.toLower)

/-- The form of a name that the tables use. The name `isc` keeps its start. -/
def looseName (name : String) : String :=
  match name.toList with
  | i :: s :: rest =>
    if i.toLower = 'i' ∧ s.toLower = 's' then
      if plainName rest = "c" then "isc" else plainName rest
    else plainName name.toList
  | cs => plainName cs

/-! ## Sets -/

/-- The characters of one general category. -/
def assignedIn (code : String) : CharSet :=
  .ofTable ((Table.categories.lookup code).getD [])

/-- The code points that have no category of their own, ascending. -/
def unassigned : List (Nat × Nat) :=
  CharSet.partsWithout [(0, CharSet.top)]
    (CharSet.unions (Table.categories.map fun c => .ofTable c.2)).ranges

/-- The characters of several categories. -/
def inCategories (codes : List String) : CharSet :=
  .ofCodePoints (codes.flatMap fun code =>
    if code = "cn" then unassigned else (assignedIn code).ranges)

/-- The set of a general category or a group of them, by any of its names. -/
def category? (name : String) : Option CharSet :=
  if name = "any" then some .all
  else if name = "assigned" then some (inCategories ["cn"]).complement
  else if name = "ascii" then some ⟨[(0, 0x7F)]⟩
  else (Table.categoryNames.find? (·.1.contains name)).map fun entry => inCategories entry.2

/-- The set of a script. -/
def script? (name : String) : Option CharSet :=
  (Table.scripts.find? (·.names.contains name)).map fun script => .ofTable script.members

/-- The set of characters used in a script. -/
def usedInScript? (name : String) : Option CharSet :=
  (Table.scripts.find? (·.names.contains name)).map fun script =>
    ((CharSet.ofTable script.members).union (.ofTable script.borrowed)).diff
      (.ofTable script.unused)

/-- The set of one of some properties. -/
def property? (table : List Table.Property) (name : String) : Option CharSet :=
  (table.find? (·.names.contains name)).map fun p =>
    ((inCategories p.categories).union (.ofTable p.added)).diff (.ofTable p.removed)

/-- The set of a binary property. -/
def binary? (name : String) : Option CharSet := property? Table.properties name

/-- The set of the characters that came with a version or before it. -/
def upToAge? (name : String) : Option CharSet :=
  let later := Table.ages.dropWhile fun age => !age.1.contains name
  if later.isEmpty then none
  else some (.ofTable ((Table.ages.take (Table.ages.length + 1 - later.length)).flatMap (·.2)))

/-! ## Queries -/

/-- A property with values, and the names that it goes by. -/
def valuedProperties : List (List String × (String → Option CharSet)) :=
  [(["gc", "generalcategory"], category?),
   (["sc", "script"], script?),
   (["scx", "scriptextensions"], usedInScript?),
   (["age"], upToAge?),
   (["gcb", "graphemeclusterbreak"], property? Table.graphemeBreaks),
   (["wb", "wordbreak"], property? Table.wordBreaks),
   (["sb", "sentencebreak"], property? Table.sentenceBreaks)]

/-- Whether some property goes by a name. -/
def isProperty (name : String) : Bool :=
  Table.properties.any (·.names.contains name) || valuedProperties.any (·.1.contains name) ||
    Table.otherProperties.contains name

/-- A property in a pattern: a name alone, or the name of a property and a value. -/
inductive PropertyQuery where
  | named (name : String)
  | valued (name value : String)
  deriving DecidableEq, Repr

/-- The characters that a property stands for. A name alone is that of a binary property, of a
category or of a script, in this order, but `cf`, `sc` and `lc` always name categories. -/
def PropertyQuery.resolve : PropertyQuery → Except Reason CharSet
  | .named name =>
    let name := looseName name
    if isProperty name && !(["cf", "sc", "lc"].contains name) then
      found .propertyNotFound (binary? name)
    else if Table.surrogateNames.contains name || Table.memberlessScripts.contains name then
      .error .propertyValueNotFound
    else found .propertyNotFound ((category? name).or (script? name))
  | .valued name value =>
    let name := looseName name
    match valuedProperties.find? (·.1.contains name) with
    | some (_, set?) => found .propertyValueNotFound (set? (looseName value))
    | none => .error (if isProperty name then .propertyValueNotFound else .propertyNotFound)
where
  found (reason : Reason) (set : Option CharSet) : Except Reason CharSet :=
    match set with
    | some set => .ok set
    | none => .error reason

/-! ## The classes with a letter -/

inductive Perl where
  | digit
  | space
  | word
  deriving DecidableEq, Repr

def digitSet : CharSet := assignedIn "nd"

def spaceSet : CharSet := (binary? "whitespace").getD .empty

/-- The characters of words: letters, marks, digits, connectors and joiners. -/
def wordSet : CharSet :=
  .unions [(binary? "alphabetic").getD .empty, inCategories ["mc", "me", "mn", "nd", "pc"],
    (binary? "joincontrol").getD .empty]

def Perl.set : Perl → CharSet
  | .digit => digitSet
  | .space => spaceSet
  | .word => wordSet

/-- The part of a class within ASCII. -/
def Perl.asciiSet : Perl → CharSet
  | .digit => ⟨[(0x30, 0x39)]⟩
  | .space => ⟨[(0x09, 0x0D), (0x20, 0x20)]⟩
  | .word => ⟨[(0x30, 0x39), (0x41, 0x5A), (0x5F, 0x5F), (0x61, 0x7A)]⟩

/-- The classes that are written `[:name:]` inside brackets. -/
def asciiClass? : String → Option CharSet
  | "alnum" => some ⟨[(0x30, 0x39), (0x41, 0x5A), (0x61, 0x7A)]⟩
  | "alpha" => some ⟨[(0x41, 0x5A), (0x61, 0x7A)]⟩
  | "ascii" => some ⟨[(0, 0x7F)]⟩
  | "blank" => some ⟨[(0x09, 0x09), (0x20, 0x20)]⟩
  | "cntrl" => some ⟨[(0, 0x1F), (0x7F, 0x7F)]⟩
  | "digit" => some ⟨[(0x30, 0x39)]⟩
  | "graph" => some ⟨[(0x21, 0x7E)]⟩
  | "lower" => some ⟨[(0x61, 0x7A)]⟩
  | "print" => some ⟨[(0x20, 0x7E)]⟩
  | "punct" => some ⟨[(0x21, 0x2F), (0x3A, 0x40), (0x5B, 0x60), (0x7B, 0x7E)]⟩
  | "space" => some ⟨[(0x09, 0x0D), (0x20, 0x20)]⟩
  | "upper" => some ⟨[(0x41, 0x5A)]⟩
  | "word" => some ⟨[(0x30, 0x39), (0x41, 0x5A), (0x5F, 0x5F), (0x61, 0x7A)]⟩
  | "xdigit" => some ⟨[(0x30, 0x39), (0x41, 0x46), (0x61, 0x66)]⟩
  | _ => none

/-! ## Letter case -/

/-- The pairs of one part of the casing table. -/
def casePairsOfPart (part : List Char) : List (Nat × Nat) :=
  let target := (CharSet.hexAtStart ((part.dropWhile (· ≠ '>')).drop 1)).1
  let ranges := CharSet.rangesOfPart (part.takeWhile (· ≠ '>'))
  let first := (ranges.head?.getD (0, 0)).1
  ranges.flatMap fun (lo, hi) =>
    (List.range (hi + 1 - lo)).map fun i => (lo + i, target + (lo + i - first))

/-- The characters that differ in case only, each with the one that stands for all of its kind. -/
def casePairs : List (Nat × Nat) :=
  Table.casing.flatMap fun row =>
    ((Text.splitChars (· == ' ') row.toList).filter (· ≠ [])).flatMap casePairsOfPart

/-- The set with every character whose partner in a pair is a member. -/
def addPartners (s : CharSet) : CharSet :=
  s.union (.ofRanges (casePairs.filterMap fun (a, b) =>
    if CharSet.inRanges a s.ranges then some (b, b)
    else if CharSet.inRanges b s.ranges then some (a, a)
    else none))

/-- The set with every character that differs from a member in case only. All characters of a
kind are paired with one of them, so two steps reach them all. -/
def CharSet.foldCase (s : CharSet) : CharSet := addPartners (addPartners s)

/-- The set with the other case of its letters within ASCII. -/
def CharSet.foldAsciiCase (s : CharSet) : CharSet :=
  let letters (lo hi shift : Nat) (up : Bool) : List (Nat × Nat) :=
    (List.range (hi + 1 - lo)).filterMap fun i =>
      let n := lo + i
      if CharSet.inRanges n s.ranges then
        some (if up then (n - shift, n - shift) else (n + shift, n + shift))
      else none
  s.union (.ofRanges (letters 0x41 0x5A 0x20 false ++ letters 0x61 0x7A 0x20 true))

end SeedShell.Pattern
