import SeedShell.Command.Basic

/-!
# Listing directories

`ls` lists directories, and files on their own. Names that begin with a dot are hidden unless
asked for. Directories come before files and names ascend; the posts of a blog come newest first
instead, those without a date last.
-/

namespace SeedShell.Command

variable {σ : Type}

structure ListingFlags where
  all : Bool
  long : Bool
  sizes : Bool
  deriving DecidableEq, Repr

/-- The letters of the arguments that begin with a hyphen. -/
def flagLetters (args : List String) : List Char :=
  (args.filter (Text.hasPrefix "-")).flatMap fun arg => arg.toList.drop 1

def ListingFlags.ofArgs (args : List String) : ListingFlags :=
  let letters := flagLetters args
  ⟨letters.contains 'a', letters.contains 'l', letters.contains 's'⟩

def isHidden (n : Node) : Bool := Text.hasPrefix "." n.name

/-- Directories before files, then by name. -/
def kindThenName (a b : Node) : Bool :=
  if a.isDirectory = b.isDirectory then decide (a.name ≤ b.name) else a.isDirectory

/-- The later date first, and no date after all dates. -/
def newestFirst (a b : Node) : Bool :=
  match a.stamp?, b.stamp? with
  | _, none => true
  | none, some _ => false
  | some x, some y => y.le x

/-- Whether the posts of a blog are listed: a directory of that name, or anything as seen from
one. -/
def inBlogOrder (s : Session σ) (target : Nat) : Bool :=
  (s.tree.node target).name == "blog" || Text.hasSuffix "/blog" s.shownPath

/-- The nodes to list for a target, in order. -/
def listed (s : Session σ) (target : Nat) (all : Bool) : List Node :=
  let node := s.tree.node target
  let nodes := if node.isDirectory then node.children.map s.tree.node else [node]
  let shown := if all then nodes else nodes.filter (!isHidden ·)
  shown.mergeSort (if inBlogOrder s target then newestFirst else kindThenName)

/-- The row of a node with all its attributes. -/
def longRow (n : Node) : String :=
  let a := n.attributes
  a.permissions ++ " 1 " ++ a.owner ++ " " ++ a.group ++ " " ++
    Text.padLeft 6 (Nat.repr n.size) ++ " " ++ a.date ++ " " ++ n.displayName

def sizeRow (n : Node) : String := Text.padLeft 6 (Nat.repr n.size) ++ " " ++ n.name

def totalSize (nodes : List Node) : Nat := nodes.foldr (fun n total => n.size + total) 0

/-- The lines of nodes: all names on one line, or a row for each under the total size. -/
def listingLines (flags : ListingFlags) (nodes : List Node) : List String :=
  if flags.long || flags.sizes then
    ("total " ++ Nat.repr (totalSize nodes)) ::
      nodes.map (if flags.long then longRow else sizeRow)
  else [Text.join "  " (nodes.map Node.displayName)]

def listing (s : Session σ) (flags : ListingFlags) (target : Nat) : List String :=
  listingLines flags (listed s target flags.all)

/-- What is said of a path that leads nowhere. -/
def noEntry (path : String) : String :=
  "ls: cannot access '" ++ path ++ "': No such file or directory"

/-- The lines for one path, under a header if there are several paths. -/
def listingBlock (s : Session σ) (flags : ListingFlags) (several : Bool) (path : String) :
    List String :=
  match s.resolve? path with
  | none => [noEntry path]
  | some target => (if several then [path ++ ":"] else []) ++ listing s flags target

/-- Lists the current directory, or each path with a blank line between. -/
def list : Command σ := query fun s args =>
  let flags := ListingFlags.ofArgs args
  match args.filter (!Text.hasPrefix "-" ·) with
  | [] => .ok (.lines (listing s flags s.cwdNode))
  | paths =>
    .ok (.lines ([""].intercalate (paths.map (listingBlock s flags (1 < paths.length)))))

end SeedShell.Command
