import SeedShell.Command.Basic
import SeedShell.Links

/-!
# Commands that show text

`cat` shows a file, `echo` its arguments or a variable, `help` a summary, and `clear` wipes the
screen.
-/

namespace SeedShell.Command

variable {σ : Type}

/-- The content of a file as it is shown: Markdown is rendered, and addresses in other text become
links. -/
def fileOutput (s : Session σ) (name : String) (content : List String) : Output :=
  if Text.hasSuffix ".md" name then .rich (s.render (Text.join "\n" content))
  else .text (Text.join "\n" (content.map Links.markup))

/-- Shows the file of the first argument. -/
def showFile : Command σ := query fun s args =>
  match args with
  | [] => .error (.usage "cat: missing operand")
  | path :: _ =>
    match s.resolve? path with
    | none => .error (.noFile path)
    | some id =>
      match (s.tree.node id).content? with
      | none => .error (.isDirectory path)
      | some content => .ok (fileOutput s (s.tree.node id).name content)

/-- The value of a variable. A dot stands for a blank line. -/
def valueOf? (s : Session σ) : String → Option String
  | "$USER" => some s.user
  | "$HOME" => some s.homePath
  | "$HOSTNAME" => some s.settings.hostname
  | "$PATH" => some (Text.join "/" s.cwd)
  | "$PWD" => some s.pwd
  | "$SHELL" => some "/bin/earsh"
  | "$TERM" => some "earterm-mono"
  | "$LANG" => some "en_US.UTF-8"
  | "$EDITOR" => some "vi"
  | "$VISUAL" => some "vi"
  | "$PAGER" => some "less"
  | "$HISTSIZE" => some (Nat.repr s.history.capacity)
  | "$HISTCONTROL" => some "ignoredups"
  | "." => some ""
  | _ => none

/-- Shows a variable if that is the first argument, else all arguments. -/
def echo : Command σ := query fun s args =>
  .ok (.text ((args.head?.bind (valueOf? s)).getD (Text.join " " args)))

def helpLines : List String :=
  ["Supported commands:",
   "- cat <file_path>: View file contents",
   "    - Paths may contain spaces: cat \"folder name/file.txt\" or cat folder\\ name/file.txt",
   "    - Markdown (.md) files are rendered",
   "",
   "- cd <directory>: Change directory",
   "    - cd .. : Go up one directory",
   "    - cd ~ : Go to home directory",
   "",
   "- clear: Clear the terminal",
   "",
   "- echo <text>: Print text",
   "    - Knows $USER, $HOME, $PATH, $PWD, $HOSTNAME, $SHELL and friends",
   "",
   "- grep [options] <pattern> <file|directory>: Search for pattern in file or directory",
   "    Options:",
   "    -r : Search directories recursively",
   "    -i : Case-insensitive search",
   "",
   "- help: Show this help message",
   "",
   "- history: Show command history",
   "    Options:",
   "    -c : Clear command history",
   "    -d <index> : Delete command at index",
   "",
   "- ls [options] [directories]: List files",
   "    Options:",
   "    -l : Long listing format",
   "    -a : All files (including hidden)",
   "    -s : Show sizes",
   "",
   "- pwd: Show current directory",
   "",
   "- su - <username>: Switch user",
   "",
   "- /path/to/script or ./script: Run an executable script starting with #!/bin/earsh"]

def help : Command σ := query fun _ _ => .ok (.text (Text.join "\n" helpLines))

def clear : Command σ := query fun _ _ => .ok .clear

end SeedShell.Command
