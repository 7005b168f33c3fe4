import SeedShell.Text.Basic

/-!
# Disk

The part of a disk that a session touches: text files in directories. A file can be written
where its directory exists. Some writes fail for no reason that shows; the disk holds in advance
which ones, and such a write changes no file.
-/

namespace SeedShell

/-- What is found under a path. -/
inductive Found where
  | text (content : String)
  /-- Something that holds no text, such as a directory. -/
  | unreadable
  | missing
  deriving DecidableEq, Repr

structure Disk where
  /-- The text files by their places. -/
  files : List (List String × String) := []
  /-- The directories besides the one that paths start from, those above it and the root. -/
  directories : List (List String) := []
  /-- Whether the writes to come are refused, one after the other. -/
  refusals : List Bool := []
  deriving DecidableEq, Repr

namespace Disk

/-! ## Places

A place is the list of the names that lead to it: from the directory where the session runs, with
`..` for every level up, or from the root, which is `/`. -/

/-- The directory that a path starts from. -/
def origin (path : String) : List String := if Text.hasPrefix "/" path then ["/"] else []

/-- The place of a name in a directory. Nothing lies above the root. -/
def step (place : List String) (name : String) : List String :=
  if name = "" ∨ name = "." then place
  else if name ≠ ".." then place ++ [name]
  else if place = ["/"] then place
  else if place.all (· == "..") then ".." :: place
  else place.dropLast

def isDirectory (d : Disk) (place : List String) : Bool :=
  place.all (· == "..") || place == ["/"] || d.directories.contains place

/-- The place of a name, if what it should be in is a directory and the name is not too long. -/
def enter? (d : Disk) (place : List String) (name : String) : Option (List String) :=
  if d.isDirectory place && name.utf8ByteSize ≤ 255 then some (step place name) else none

/-- The place that a path leads to, with a file there or not. A path is at most 4095 bytes long,
and what stands before a slash has to be a directory. -/
def place? (d : Disk) (path : String) : Option (List String) :=
  if path = "" ∨ path.toList.contains '\x00' ∨ 4095 < path.utf8ByteSize then none
  else (Text.split (· == '/') path).foldlM d.enter? (origin path)

/-- The disk with the directories in which the file under a path lies. -/
def withDirectories (d : Disk) (path : String) : Disk :=
  (((Text.split (· == '/') path).dropLast.foldl
    (fun (d, place) name =>
      let place := step place name
      ({ d with directories := place :: d.directories }, place)) (d, origin path))).1

/-! ## Files -/

/-- What is found under a path. -/
def read (d : Disk) (path : String) : Found :=
  match d.place? path with
  | none => .missing
  | some place =>
    if d.isDirectory place then .unreadable
    else match d.files.lookup place with
      | some content => .text content
      | none => .missing

/-- The text of a file. -/
def text? (d : Disk) (path : String) : Option String :=
  match d.read path with
  | .text content => some content
  | _ => none

/-- Puts a text into the file at a place, whatever was there. -/
def put (d : Disk) (place : List String) (content : String) : Disk :=
  { d with files := (place, content) :: d.files.filter (·.1 ≠ place) }

/-- The disk with a file under a path. -/
def withFile (d : Disk) (path content : String) : Disk :=
  let d := d.withDirectories path
  match d.place? path with
  | some place => d.put place content
  | none => d

/-- The place where a file can be written under a path. -/
def target? (d : Disk) (path : String) : Option (List String) :=
  (d.place? path).filter fun place => !d.isDirectory place

/-- Writes a file, and says whether that succeeded. -/
def write (d : Disk) (path content : String) : Bool × Disk :=
  let next := { d with refusals := d.refusals.tail }
  match d.refusals.headD false, d.target? path with
  | false, some place => (true, next.put place content)
  | _, _ => (false, next)

end Disk

end SeedShell
