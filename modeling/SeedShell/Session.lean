import SeedShell.History
import SeedShell.Settings
import SeedShell.Store.Basic
import SeedShell.Tree.Path

/-!
# Sessions

A session is a filesystem with a place in it, a user and a history. The place, the user and the
history are kept in a store, so that a later session goes on where this one stops; a refused
write changes nothing in the session itself.
-/

namespace SeedShell

open KeyValueStore

structure Session (σ : Type) where
  tree : Tree
  settings : Settings
  /-- The segments of the current directory. -/
  cwd : List String
  user : String
  history : History
  store : σ
  /-- How Markdown is made rich content. -/
  render : String → String

namespace Session

/-! ## What is stored -/

def userKey : String := "terminal-username"

def directoryKey : String := "terminal-currentPath"

def historyKey : String := "commandhistory"

variable {σ : Type}

section Restoring

variable [KeyValueStore σ]

/-- Where a session starts that stores no usable place: the home of its user, or the root. -/
def fallback (tree : Tree) (user : String) : List String :=
  if (tree.directoryAt? (Tree.homeOf user)).isSome then Tree.homeOf user else ["/"]

/-- Whether segments lead to a directory from the root's slash on. -/
def isPlace (tree : Tree) (segments : List String) : Bool :=
  (tree.directoryAt? segments).isSome && segments.head? == some "/"

/-- The stored place, or the fallback if that is no place. If none is stored, the fallback is. -/
def restorePlace (tree : Tree) (user : String) (store : σ) : List String × σ :=
  match texts? store directoryKey with
  | some segments => (if isPlace tree segments then segments else fallback tree user, store)
  | none => (fallback tree user, (insertTexts store directoryKey (fallback tree user)).2)

/-- The stored user, or the default one. -/
def restoreUser (settings : Settings) (store : σ) : String :=
  (get? store userKey).getD settings.defaultUser

/-- The stored history, as far as there is room for it. -/
def restoreHistory (settings : Settings) (store : σ) : History :=
  .ofEntries ((texts? store historyKey).getD []) settings.historySize

/-- The session that a store describes, over a filesystem. -/
def restore (tree : Tree) (settings : Settings) (store : σ) (render : String → String) :
    Session σ :=
  let user := restoreUser settings store
  let (cwd, kept) := restorePlace tree user store
  { tree, settings, cwd, user, history := restoreHistory settings store, store := kept, render }

/-- The session over the filesystem of a seed and the posts of the stored user. -/
def boot (settings : Settings) (seed : Seed) (posts : List Post) (store : σ)
    (render : String → String) : Except SeedError (Session σ) := do
  let tree ← Tree.ofSeed seed
  let (grown, _) := tree.addPosts (restoreUser settings store) posts
  return restore grown settings store render

/-! ## Changes -/

def setPlace (s : Session σ) (segments : List String) : Session σ :=
  { s with cwd := segments, store := (insertTexts s.store directoryKey segments).2 }

def setUser (s : Session σ) (user : String) : Session σ :=
  { s with user, store := (insert s.store userKey user).2 }

/-- Changes the history and stores it. -/
def setHistory (s : Session σ) (history : History) : Session σ :=
  { s with history, store := (insertTexts s.store historyKey history.entries).2 }

/-- Takes a typed line into the history. It is stored if the line is kept. -/
def record (s : Session σ) (line : String) : Session σ :=
  if s.history.accepts line then s.setHistory (s.history.record line)
  else { s with history := s.history.record line }

end Restoring

/-! ## Paths -/

/-- The node that a path leads to from the current directory. -/
def resolve? (s : Session σ) (path : String) : Option Nat :=
  (s.tree.resolve s.cwd s.user path).map (·.node)

/-- The node of the current directory. -/
def cwdNode (s : Session σ) : Nat := (s.tree.directoryAt? s.cwd).getD Tree.root

/-- Why a directory cannot be entered. -/
inductive EntryError where
  | missing
  | notDirectory
  deriving DecidableEq, Repr

/-- Makes the directory under a path the current one. -/
def enter [KeyValueStore σ] (s : Session σ) (path : String) : Except EntryError Nat × Session σ :=
  match s.tree.resolve s.cwd s.user path with
  | none => (.error .missing, s)
  | some place =>
    if s.tree.isDirectory place.node then (.ok place.node, s.setPlace place.segments)
    else (.error .notDirectory, s)

/-! ## How the place is shown -/

/-- The current directory with a slash at its end. -/
def pwd (s : Session σ) : String :=
  if s.cwd.length ≤ 1 then "/" else "/" ++ Text.join "/" (s.cwd.drop 1) ++ "/"

/-- The home of the user with a slash at its end. -/
def homePath (s : Session σ) : String := "/home/" ++ s.user ++ "/"

/-- The current directory with a tilde for the home of the user. -/
def shownPath (s : Session σ) : String :=
  if s.cwd.length ≤ 1 then "/"
  else if (s.cwd.drop 1).take 2 = ["home", s.user] then
    if s.cwd.length = 3 then "~" else "~/" ++ Text.join "/" (s.cwd.drop 3)
  else "/" ++ Text.join "/" (s.cwd.drop 1)

def prompt (s : Session σ) : String :=
  s.user ++ "@" ++ s.settings.hostname ++ ":" ++ s.shownPath ++ "$ "

end Session

end SeedShell
