import SeedShell.Tree.Basic

/-!
# Paths

A path is resolved from a place: the root for a leading slash, the home for `~`, the current
directory otherwise. `.` stays, `..` goes up one segment but not above the root, and any other
component names an entry; a file may only be the last one.
-/

namespace SeedShell

/-- A node together with the segments that lead to it. -/
structure Place where
  node : Nat
  segments : List String
  deriving DecidableEq, Repr

/-- The non-empty parts of a path between its slashes. -/
def components (path : String) : List String := (Text.split (· == '/') path).filter (· ≠ "")

namespace Tree

/-- The segments one step up. The first segment stays. -/
def up (segments : List String) : List String :=
  if 1 < segments.length then segments.dropLast else segments

/-- The segments at which a path starts, and the rest of the path. -/
def start (cwd : List String) (user path : String) : List String × String :=
  if Text.hasPrefix "/" path then (["/"], path)
  else if path = "~" ∨ Text.hasPrefix "~/" path then
    (homeOf user, String.ofList (path.toList.drop 1))
  else (cwd, path)

/-- Follows components from a place that is a directory. -/
def follow (t : Tree) (here : Place) : List String → Option Place
  | [] => some here
  | name :: rest =>
    if name = "." then t.follow here rest
    else if name = ".." then do
      let dir ← t.directoryAt? (up here.segments)
      t.follow ⟨dir, up here.segments⟩ rest
    else do
      let child ← t.child? here.node name
      let place : Place := ⟨child, here.segments ++ [name]⟩
      if t.isDirectory child then t.follow place rest
      else if rest = [] then some place
      else none

/-- The place that a path leads to from the directory `cwd`. -/
def resolve (t : Tree) (cwd : List String) (user path : String) : Option Place := do
  let (segments, rest) := start cwd user path
  let dir ← t.directoryAt? segments
  t.follow ⟨dir, segments⟩ (components rest)

end Tree

end SeedShell
