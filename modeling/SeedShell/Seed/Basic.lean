/-!
# Seeds

A seed is the nested description of a filesystem, a post the description of one file of a blog.
-/

namespace SeedShell

/-- What a listing shows of an entry beside its name and size. -/
structure Attributes where
  permissions : String
  owner : String
  group : String
  date : String
  deriving DecidableEq, Repr

inductive Seed where
  | directory (name : String) (attributes : Attributes) (children : List Seed)
  | file (name : String) (attributes : Attributes) (content : List String)

structure Post where
  name : String
  attributes : Attributes
  content : List String
  deriving DecidableEq, Repr

namespace Seed

def name : Seed → String
  | .directory name _ _ => name
  | .file name _ _ => name

def attributes : Seed → Attributes
  | .directory _ attributes _ => attributes
  | .file _ attributes _ => attributes

end Seed

end SeedShell
