import SeedShell.Toml.Reader

/-!
# Settings

The settings of a shell and their reading from a TOML text. A setting that is not given keeps
its default; names that are no setting do not count. A history needs room for one entry, and the
line that marks a script starts with `#!`.
-/

namespace SeedShell

structure Settings where
  hostname : String := "hera"
  /-- The user of a session that stores none. -/
  defaultUser : String := "earentir"
  historySize : Nat := 100
  /-- The first line of every script. -/
  shebang : String := "#!/bin/earsh"
  /-- The script that lists the blog. -/
  listScript : String := "/home/earentir/blog.sh"
  blogDirectory : String := "/home/earentir/blog"
  /-- Two presses of the completion key closer than this are a double press. -/
  doublePressMs : Nat := 500
  seedPath : Option String := none
  postsPath : Option String := none
  statePath : String := ".earsh-state.json"
  deriving DecidableEq, Repr

inductive SettingsError where
  /-- The text is no document, or a setting has a value of the wrong kind. -/
  | malformed
  | emptyHistory
  | shebang (text : String)
  deriving DecidableEq, Repr

def SettingsError.message : SettingsError → String
  | .malformed => "malformed settings"
  | .emptyHistory => "history_size must be at least 1"
  | .shebang text => "shebang '" ++ text ++ "' must start with #!"

namespace Settings

/-- A setting that is a text. -/
def text? (entries : Toml.Entries) (key default : String) : Option String :=
  match entries.lookup key with
  | none => some default
  | some (.text s) => some s
  | _ => none

/-- A setting that is a text if it is given. -/
def optionalText? (entries : Toml.Entries) (key : String) : Option (Option String) :=
  match entries.lookup key with
  | none => some none
  | some (.text s) => some (some s)
  | _ => none

/-- A setting that is a natural number. -/
def nat? (entries : Toml.Entries) (key : String) (default : Nat) : Option Nat :=
  match entries.lookup key with
  | none => some default
  | some (.integer n) => if 0 ≤ n then some n.toNat else none
  | _ => none

def ofEntries? (entries : Toml.Entries) : Option Settings := do
  let standard : Settings := {}
  return {
    hostname := ← text? entries "hostname" standard.hostname
    defaultUser := ← text? entries "default_user" standard.defaultUser
    historySize := ← nat? entries "history_size" standard.historySize
    shebang := ← text? entries "shebang" standard.shebang
    listScript := ← text? entries "blog_list_script" standard.listScript
    blogDirectory := ← text? entries "blog_dir" standard.blogDirectory
    doublePressMs := ← nat? entries "double_tab_ms" standard.doublePressMs
    seedPath := ← optionalText? entries "seed_path"
    postsPath := ← optionalText? entries "posts_path"
    statePath := ← text? entries "state_path" standard.statePath }

/-- Refuses settings with which no shell can work. -/
def validate (s : Settings) : Except SettingsError Settings :=
  if s.historySize = 0 then .error .emptyHistory
  else if Text.hasPrefix "#!" s.shebang then .ok s
  else .error (.shebang s.shebang)

/-- The settings that a text describes. -/
def parse (text : String) : Except SettingsError Settings :=
  match (Toml.parse? text).bind ofEntries? with
  | none => .error .malformed
  | some s => s.validate

end Settings

end SeedShell
