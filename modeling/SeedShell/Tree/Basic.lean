import SeedShell.Seed.Basic
import SeedShell.Date
import SeedShell.Text.Basic

/-!
# The filesystem tree

The nodes of a filesystem in one array, each with the number of its parent and, for a
directory, the numbers of its children. Node 0 is the root. `Tree.ofSeed` numbers a seed in
preorder, and `Tree.ofSeedOnStack` does so in a loop; `Tree.addPosts` appends files to the blog of
a user. Two entries of a directory never have the same name.
-/

namespace SeedShell

inductive Entry where
  | directory (children : List Nat)
  | file (content : List String)
  deriving DecidableEq, Repr

structure Node where
  name : String
  attributes : Attributes
  parent : Option Nat
  entry : Entry
  deriving DecidableEq, Repr

/-- The size of a text file: each line counts its characters and its end. -/
def fileSize (content : List String) : Nat :=
  content.foldr (fun line size => line.length + 1 + size) 0

/-- The size that a listing shows for every directory. -/
def directorySize : Nat := 4096

namespace Node

def isDirectory (n : Node) : Bool :=
  match n.entry with
  | .directory _ => true
  | .file _ => false

def isFile (n : Node) : Bool := !n.isDirectory

def children (n : Node) : List Nat :=
  match n.entry with
  | .directory children => children
  | .file _ => []

def content? (n : Node) : Option (List String) :=
  match n.entry with
  | .directory _ => none
  | .file content => some content

/-- The owner may execute the node: the fourth character of its permissions is `x`. -/
def isExecutable (n : Node) : Bool := n.attributes.permissions.toList[3]? == some 'x'

def size (n : Node) : Nat :=
  match n.entry with
  | .directory _ => directorySize
  | .file content => fileSize content

/-- The name, with a slash after it for a directory. -/
def displayName (n : Node) : String := if n.isDirectory then n.name ++ "/" else n.name

/-- The moment that the date stands for, if it is one. -/
def stamp? (n : Node) : Option Stamp := Stamp.parse? n.attributes.date

/-- The node with one more child at the end. -/
def withChild (n : Node) (child : Nat) : Node :=
  match n.entry with
  | .directory children => { n with entry := .directory (children ++ [child]) }
  | .file _ => n

/-- What stands for a node that does not exist. -/
instance : Inhabited Node := ⟨⟨"", ⟨"", "", "", ""⟩, none, .file []⟩⟩

end Node

/-- Why no tree grows from a seed. -/
inductive SeedError where
  | fileRoot
  | duplicate (name directory : String)
  | fileParent (name : String)
  deriving DecidableEq, Repr

def SeedError.message : SeedError → String
  | .fileRoot => "root of the seed must be a directory"
  | .duplicate name directory => "duplicate entry '" ++ name ++ "' in '" ++ directory ++ "'"
  | .fileParent name => "'" ++ name ++ "' has a file as parent"

structure Tree where
  nodes : Array Node
  deriving DecidableEq, Repr

namespace Tree

def size (t : Tree) : Nat := t.nodes.size

def root : Nat := 0

def node (t : Tree) (id : Nat) : Node := t.nodes[id]?.getD default

def isDirectory (t : Tree) (id : Nat) : Bool := (t.node id).isDirectory

/-! ## Names and segments -/

/-- The child of `dir` with exactly this name. -/
def child? (t : Tree) (dir : Nat) (name : String) : Option Nat :=
  (t.node dir).children.find? fun id => (t.node id).name == name

/-- The child of `dir` with this name, if it is a directory. -/
def childDirectory? (t : Tree) (dir : Nat) (name : String) : Option Nat :=
  (t.child? dir name).filter t.isDirectory

/-- The directory that a sequence of segments leads to. The first segment stands for the root. -/
def directoryAt? (t : Tree) (segments : List String) : Option Nat :=
  (segments.drop 1).foldlM t.childDirectory? root

/-- The names from below the root down to a node. A parent comes before its children. -/
def names (t : Tree) (id : Nat) : List String :=
  match (t.node id).parent with
  | none => []
  | some parent => if parent < id then t.names parent ++ [(t.node id).name] else []
termination_by id

/-- The segments of a node, the root's slash first. -/
def segments (t : Tree) (id : Nat) : List String := "/" :: t.names id

/-- The absolute path of a node. -/
def path (t : Tree) (id : Nat) : String := "/" ++ Text.join "/" (t.names id)

/-- The files below `dir` in depth-first order, each with its path from `base`. -/
def filesBelow (t : Tree) (dir : Nat) (base : String) : List (String × List String) :=
  (t.node dir).children.flatMap fun child =>
    let path := base ++ "/" ++ (t.node child).name
    match (t.node child).entry with
    | .file content => [(path, content)]
    | .directory _ => if _h : dir < child ∧ child < t.size then t.filesBelow child path else []
termination_by t.size - dir
decreasing_by omega

/-! ## Growing a tree -/

/-- The tree with one more node, the last child of `parent`. -/
def attach (t : Tree) (parent : Nat) (name : String) (attributes : Attributes) (entry : Entry) :
    Tree :=
  ⟨(t.nodes.modify parent (·.withChild t.size)).push ⟨name, attributes, some parent, entry⟩⟩

/-- Appends a node below `parent`, unless that has an entry of the same name or is a file. -/
def add (t : Tree) (parent : Nat) (name : String) (attributes : Attributes) (entry : Entry) :
    Except SeedError Tree :=
  if (t.child? parent name).isSome then .error (.duplicate name (t.path parent))
  else if t.isDirectory parent then .ok (t.attach parent name attributes entry)
  else .error (.fileParent name)

mutual

/-- Appends a seed below `parent`: its own node, then those of its children. -/
def plant (t : Tree) (parent : Nat) : Seed → Except SeedError Tree
  | .file name attributes content => t.add parent name attributes (.file content)
  | .directory name attributes children => do
    let grown ← t.add parent name attributes (.directory [])
    plantAll grown t.size children

def plantAll (t : Tree) (parent : Nat) : List Seed → Except SeedError Tree
  | [] => .ok t
  | seed :: seeds => do
    let grown ← t.plant parent seed
    plantAll grown parent seeds

end

/-- The tree of a seed. The root is named `/` whatever the seed calls it. -/
def ofSeed : Seed → Except SeedError Tree
  | .file .. => .error .fileRoot
  | .directory _ attributes children =>
    plantAll ⟨#[⟨"/", attributes, none, .directory []⟩]⟩ root children

/-! ## Growing from a stack -/

/-- A seed that waits to be planted, and the directory that it goes into. Only a root has none. -/
structure Waiting where
  seed : Seed
  parent : Option Nat

/-- Appends a node below `parent`. Without a parent it is a root and has the name of one. -/
def push (t : Tree) (parent : Option Nat) (name : String) (attributes : Attributes)
    (entry : Entry) : Except SeedError Tree :=
  match parent with
  | none => .ok ⟨t.nodes.push ⟨"/", attributes, none, entry⟩⟩
  | some parent => t.add parent name attributes entry

/-- Puts the children of a directory on a stack, the last one first, so that they come off it in
their order. The first of the list is the top of the stack. -/
def stackUp (parent : Nat) (children : List Seed) (stack : List Waiting) : List Waiting :=
  children.reverse.foldl (fun stack child => ⟨child, some parent⟩ :: stack) stack

theorem stackUp_eq (parent : Nat) (children : List Seed) (stack : List Waiting) :
    stackUp parent children stack = children.map (⟨·, some parent⟩) ++ stack := by
  rw [stackUp, List.foldl_reverse, List.foldr_cons_eq_append]

/-- How much is left to plant, which becomes less with every seed. -/
noncomputable def toPlant : List Waiting → Nat
  | [] => 0
  | waiting :: stack => sizeOf waiting.seed + toPlant stack

theorem toPlant_stackUp_le (parent : Nat) (children : List Seed) (stack : List Waiting) :
    toPlant (stackUp parent children stack) ≤ sizeOf children + toPlant stack := by
  rw [stackUp_eq]
  induction children with
  | nil => exact Nat.le_add_left _ _
  | cons child children ih =>
    simp only [List.map_cons, List.cons_append, toPlant, List.cons.sizeOf_spec]
    omega

/-- Plants what waits on a stack, from its top down, until nothing waits any more. -/
def plantStack (t : Tree) : List Waiting → Except SeedError Tree
  | [] => .ok t
  | ⟨.file name attributes content, parent⟩ :: stack => do
    let grown ← t.push parent name attributes (.file content)
    plantStack grown stack
  | ⟨.directory name attributes children, parent⟩ :: stack => do
    let grown ← t.push parent name attributes (.directory [])
    plantStack grown (stackUp t.size children stack)
termination_by stack => toPlant stack
decreasing_by
  · rw [toPlant, Seed.file.sizeOf_spec]
    omega
  · have hle := toPlant_stackUp_le t.size children stack
    rw [toPlant, Seed.directory.sizeOf_spec]
    omega

/-- The tree of a seed, planted from a stack. -/
def ofSeedOnStack : Seed → Except SeedError Tree
  | .file .. => .error .fileRoot
  | .directory name attributes children =>
    plantStack ⟨#[]⟩ [⟨.directory name attributes children, none⟩]

/-! ## Posts -/

/-- The segments of a user's home. -/
def homeOf (user : String) : List String := ["/", "home", user]

/-- Appends a post to a directory and counts it, unless its name is taken. -/
def addPost (dir : Nat) (grown : Tree × Nat) (post : Post) : Tree × Nat :=
  match grown.1.add dir post.name post.attributes (.file post.content) with
  | .ok t => (t, grown.2 + 1)
  | .error _ => grown

/-- Appends posts to the blog of a user, and counts those that were new there. Nothing changes
if the user has no blog. -/
def addPosts (t : Tree) (user : String) (posts : List Post) : Tree × Nat :=
  match t.directoryAt? (homeOf user ++ ["blog"]) with
  | none => (t, 0)
  | some dir => posts.foldl (addPost dir) (t, 0)

end Tree

end SeedShell
