import SeedShell.Pattern

/-!
# Problems

Why a command does not do what it was asked to. A problem is shown as one line, except for that
of a bad pattern, which is shown with a report.
-/

namespace SeedShell

inductive Problem where
  /-- No file to show. -/
  | noFile (path : String)
  /-- No directory to change to. -/
  | noDirectory (path : String)
  /-- Nothing to search. -/
  | noTarget (path : String)
  /-- No script to run. -/
  | noScript (name : String)
  /-- A directory where a file has to be shown. -/
  | isDirectory (path : String)
  /-- A directory that is searched without leave to descend. -/
  | needsRecursion (path : String)
  /-- A file where a directory has to be entered. -/
  | notDirectory (path : String)
  | permissionDenied (name : String)
  /-- Arguments that a command does not take, with what to say about it. -/
  | usage (text : String)
  | notScript (name : String)
  | unknownCommand (name : String)
  | badPattern (pattern : String) (error : PatternError)
  deriving DecidableEq, Repr

namespace Problem

def message : Problem → String
  | .noFile path => "cat: " ++ path ++ ": No such file"
  | .noDirectory path => "cd: " ++ path ++ ": No such directory"
  | .noTarget path => "grep: " ++ path ++ ": No such file or directory"
  | .noScript name => name ++ ": No such file or directory"
  | .isDirectory path => "cat: " ++ path ++ ": Is a directory"
  | .needsRecursion path =>
    "grep: " ++ path ++ ": Is a directory. Use -r to search directories recursively."
  | .notDirectory path => "cd: " ++ path ++ ": Not a directory"
  | .permissionDenied name => name ++ ": Permission denied"
  | .usage text => text
  | .notScript name => name ++ ": Not a valid shell script"
  | .unknownCommand name => "Command not found: " ++ name
  | .badPattern pattern error =>
    "grep: invalid pattern '" ++ pattern ++ "': " ++ error.report pattern

end Problem

end SeedShell
