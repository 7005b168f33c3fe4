import SeedShell.Percent
import SeedShell.Settings
import SeedShell.Words

/-!
# Launching a post

A page can be opened at a post by its name. The name is decoded and reduced to letters, digits,
spaces and hyphens before it becomes part of a command line, so it cannot leave the blog.
-/

namespace SeedShell

/-- The line to run for a launch, and a notice to print before it. -/
structure Launch where
  notice : Option String
  command : String
  deriving DecidableEq, Repr

namespace Launch

/-- Said when a name had to be cleaned. -/
def invalidName : String := "Invalid blog post name."

/-- The name that asks for the list of posts. -/
def listName : String := "list"

/-- A character that a post's name may keep. -/
def isNameChar (c : Char) : Bool :=
  ('a' ≤ c && c ≤ 'z') || ('A' ≤ c && c ≤ 'Z') || ('0' ≤ c && c ≤ '9') || c == '-' || c == ' '

def clean (name : String) : String := String.ofList (name.toList.filter isNameChar)

/-- A text without one `.md` at its end. -/
def withoutExtension (name : String) : String := (Text.dropSuffix? ".md" name).getD name

/-- The launch for a decoded parameter. -/
def ofDecoded (settings : Settings) (decoded : String) : Launch :=
  let name := withoutExtension decoded
  let cleaned := clean name
  { notice := if cleaned ≠ name ∧ cleaned ≠ listName then some invalidName else none
    command :=
      if cleaned = listName then settings.listScript
      else "cat " ++ settings.blogDirectory ++ "/" ++ Words.escape cleaned ++ ".md" }

/-- The launch for a raw parameter under a way to decode it, none if it is empty. -/
def ofRaw? (settings : Settings) (raw : String) (decode : String → String := Percent.decode) :
    Option Launch :=
  if raw = "" then none else some (ofDecoded settings (decode raw))

end Launch

end SeedShell
