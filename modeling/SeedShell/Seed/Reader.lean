import SeedShell.Json.Reader
import SeedShell.Seed.Basic

/-!
# Reading seeds and posts from JSON

A seed is an object with a `name` and a `type`; its other members have defaults. A post is an
object with all six members, or the row of their values. A known member may occur once, other
members do not count.
-/

namespace SeedShell

namespace Json

/-- The value of the member `key`: none if it is absent. The reading fails if it repeats. -/
def member? (members : List (Option String × Json)) (key : String) : Option (Option Json) :=
  match members.filter (·.1 = some key) with
  | [] => some none
  | [(_, v)] => some (some v)
  | _ => none

/-- The text of the member `key`. -/
def text? (members : List (Option String × Json)) (key : String) : Option String := do
  (← (← member? members key)).string?

/-- The text of the member `key`, or a default if it is absent. -/
def textD (members : List (Option String × Json)) (key default : String) : Option String := do
  match ← member? members key with
  | none => some default
  | some v => v.string?

/-- The list of texts in the member `key`. -/
def texts? (members : List (Option String × Json)) (key : String) : Option (List String) := do
  (← (← member? members key)).strings?

end Json

namespace Seed

/-- The two kinds of entry. -/
inductive Kind where
  | directory
  | file
  deriving DecidableEq, Repr

/-- A kind is given by its name or by its number. -/
def Kind.ofJson? : Json → Option Kind
  | .string (some "directory") => some .directory
  | .string (some "file") => some .file
  | .number (.natural 0) => some .directory
  | .number (.natural 1) => some .file
  | _ => none

/-- The seed with the given members. The decodings of its `children` are handed in; they count
for a directory only, which may have one such member. -/
def ofMembers? (members : List (Option String × Json))
    (childLists : List (Option (List Seed))) : Option Seed := do
  let name ← Json.text? members "name"
  let attributes : Attributes := {
    permissions := ← Json.textD members "permissions" "drwxr-xr-x"
    owner := ← Json.textD members "owner" ""
    group := ← Json.textD members "group" ""
    date := ← Json.textD members "date" "" }
  match ← Kind.ofJson? (← (← Json.member? members "type")) with
  | .directory =>
    match childLists with
    | [] => return .directory name attributes []
    | [children] => return .directory name attributes (← children)
    | _ => none
  | .file =>
    match ← Json.member? members "content" with
    | none => return .file name attributes []
    | some content => return .file name attributes (← content.strings?)

mutual

def ofJson? : Json → Option Seed
  | .object members => ofMembers? members (childLists members)
  | _ => none

/-- The decoding of each member `children`, none for one that is no list of seeds. -/
def childLists : List (Option String × Json) → List (Option (List Seed))
  | [] => []
  | (key, value) :: members =>
    if key = some "children" then ofArray? value :: childLists members else childLists members

def ofArray? : Json → Option (List Seed)
  | .array items => ofItems? items
  | _ => none

def ofItems? : List Json → Option (List Seed)
  | [] => some []
  | item :: items => do
    let seed ← ofJson? item
    let seeds ← ofItems? items
    return seed :: seeds

end

/-- The deepest nesting of arrays and objects in a seed text. -/
def maxDepth : Nat := 127

/-- The seed that a text describes. -/
def parse? (text : String) : Option Seed := do
  let v ← Json.parse? text
  if v.isSound ∧ v.depth ≤ maxDepth then ofJson? v else none

end Seed

namespace Post

def ofJson? : Json → Option Post
  | .object members => do
    if members.any (·.1.isNone) then none
    let name ← Json.text? members "name"
    let date ← Json.text? members "date"
    let permissions ← Json.text? members "permissions"
    let owner ← Json.text? members "owner"
    let group ← Json.text? members "group"
    return ⟨name, ⟨permissions, owner, group, date⟩, ← Json.texts? members "content"⟩
  | .array [name, date, permissions, owner, group, content] => do
    let name ← name.string?
    let date ← date.string?
    let permissions ← permissions.string?
    let owner ← owner.string?
    let group ← group.string?
    return ⟨name, ⟨permissions, owner, group, date⟩, ← content.strings?⟩
  | _ => none

/-- The posts that a text describes. -/
def parseList? (text : String) : Option (List Post) := do
  (← (← Json.parse? text).array?).mapM ofJson?

end Post

end SeedShell
