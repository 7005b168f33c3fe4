import SeedShell.Command.Basic

/-!
# Commands about place and user

`cd` enters a directory, `pwd` shows the current one, `su` changes the user.
-/

namespace SeedShell.Command

variable {σ : Type}

/-- The directory that the arguments name: the first one without blanks around it, or the home. -/
def destination (args : List String) : String := (args.head?.map Text.trim).getD "~"

def changeDirectory [KeyValueStore σ] : Command σ := fun s args =>
  match s.enter (destination args) with
  | (.ok _, s) => (.ok .none, s)
  | (.error .missing, s) => (.error (.noDirectory (destination args)), s)
  | (.error .notDirectory, s) => (.error (.notDirectory (destination args)), s)

def showDirectory : Command σ := query fun s _ => .ok (.text s.pwd)

/-- Any name can be that of a user. -/
def switchUser [KeyValueStore σ] : Command σ := fun s args =>
  match args with
  | "-" :: user :: _ =>
    if user = "" then (.error (.usage "Usage: su - <username>"), s) else (.ok .none, s.setUser user)
  | _ => (.error (.usage "Usage: su - <username>"), s)

end SeedShell.Command
