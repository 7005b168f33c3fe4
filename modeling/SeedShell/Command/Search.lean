import SeedShell.Command.Basic

/-!
# Searching files

`grep` gives the lines of a file that match a pattern, or those of all files below a directory
in depth-first order.
-/

namespace SeedShell.Command

variable {σ : Type}

def searchUsage : String := "Usage: grep [-r] [-i] <pattern> <file|directory>"

/-- One line of the answer: where the match is, and the whole line. -/
def matchLine (path : String) (number : Nat) (line : String) : String :=
  path ++ ":" ++ Nat.repr number ++ ":" ++ line

/-- The lines that pass a test, each with its number from one on. -/
def searchLines (test : String → Bool) (path : String) (content : List String) : List String :=
  ((content.zipIdx 1).filter (test ·.1)).map fun (line, number) => matchLine path number line

/-- The letters of the leading arguments that begin with a hyphen, and the arguments after
these. -/
def searchFlags (args : List String) : List Char × List String :=
  ((args.takeWhile (Text.hasPrefix "-")).flatMap (·.toList.drop 1),
    args.dropWhile (Text.hasPrefix "-"))

/-- The lines at a target that pass a test. -/
def searchAt (s : Session σ) (test : String → Bool) (recursive : Bool) (target : String) :
    Except Problem (List String) :=
  match s.resolve? target with
  | none => .error (.noTarget target)
  | some id =>
    match (s.tree.node id).content? with
    | some content => .ok (searchLines test (s.tree.node id).name content)
    | none =>
      if recursive then
        .ok ((s.tree.filesBelow id target).flatMap fun file => searchLines test file.1 file.2)
      else .error (.needsRecursion target)

/-- Searches for the first argument. The others together name one target, whose spaces have been
taken for ends of words. -/
def search : Command σ := query fun s args =>
  let (flags, rest) := searchFlags args
  match rest with
  | pattern :: first :: more =>
    match Pattern.compile (flags.contains 'i') pattern with
    | .error e => .error (.badPattern pattern e)
    | .ok p =>
      match searchAt s p.isMatch (flags.contains 'r') (Text.join " " (first :: more)) with
      | .error e => .error e
      | .ok [] => .ok .none
      | .ok ls => .ok (.lines ls)
  | _ => .error (.usage searchUsage)

end SeedShell.Command
