import SeedShell.Disk
import SeedShell.Seed.Bundled
import SeedShell.Seed.Reader
import SeedShell.Settings
import SeedShell.Tree.Basic

/-!
# Starting from a disk

The settings, the seed and the posts of a shell in the files of a disk. Without a settings file
the defaults apply, and without a path in the settings the bundled seed and posts. Posts that
cannot be read are left out.
-/

namespace SeedShell

/-- Why no shell can be started. -/
inductive BootError where
  /-- A file is missing or cannot be read. -/
  | unreadable (path : String)
  | badSettings (error : SettingsError)
  /-- A text that describes no seed. -/
  | notSeed
  | badSeed (error : SeedError)
  deriving DecidableEq, Repr

namespace BootError

def message : BootError → String
  | .unreadable path => path ++ " cannot be read"
  | .badSettings error => "config error: " ++ error.message
  | .notSeed => "the seed is no seed"
  | .badSeed error => "seed error: " ++ error.message

end BootError

namespace Boot

/-- The settings in a file. -/
def settings (d : Disk) (path : String) : Except BootError Settings :=
  match d.read path with
  | .missing => .ok {}
  | .unreadable => .error (.unreadable path)
  | .text content => (Settings.parse content).mapError .badSettings

/-- The seed that the settings name. -/
def seed (d : Disk) (settings : Settings) : Except BootError Seed :=
  match settings.seedPath with
  | none => .ok Seed.bundled
  | some path =>
    match d.text? path with
    | none => .error (.unreadable path)
    | some content =>
      match Seed.parse? content with
      | none => .error .notSeed
      | some seed => .ok seed

/-- The posts that the settings name. -/
def posts (d : Disk) (settings : Settings) : List Post :=
  match settings.postsPath with
  | none => Post.bundled
  | some path => ((d.text? path).bind Post.parseList?).getD []

end Boot

end SeedShell
