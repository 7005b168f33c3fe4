import SeedShell.Boot
import SeedShell.Shell
import SeedShell.Store.File
import SeedShell.Text.Utf8

/-!
# The console

A shell on standard input and output. Options name the settings, the file for the session's state
and a post to open first. The prompt is written before each line is read; `exit` or the end of
the input ends the session.
-/

namespace SeedShell.Console

/-! ## The command line -/

structure Options where
  settings : Option String := none
  state : Option String := none
  post : Option String := none
  deriving DecidableEq, Repr

/-- What a command line asks for. -/
inductive Request where
  | session (options : Options)
  | help
  | version
  deriving DecidableEq, Repr

/-- The options with a value. -/
inductive Key where
  | settings
  | state
  | post
  deriving DecidableEq, Repr

def key? : String → Option Key
  | "config" => some .settings
  | "state" => some .state
  | "blogpost" => some .post
  | _ => none

/-- Sets an option that is not set yet. A path is not empty. -/
def Options.set? (o : Options) (key : Key) (value : String) : Option Options :=
  match key with
  | .settings => if o.settings.isSome || value = "" then none else some { o with settings := value }
  | .state => if o.state.isSome || value = "" then none else some { o with state := value }
  | .post => if o.post.isSome then none else some { o with post := value }

/-- An argument divided into what stands before its first equals sign and what stands after. -/
def divide (arg : List Char) : String × Option String :=
  let name := String.ofList (arg.takeWhile (· ≠ '='))
  match arg.dropWhile (· ≠ '=') with
  | [] => (name, none)
  | _ :: value => (name, some (String.ofList value))

/-- The request of a command line, none if it is wrong. `pending` is an option whose value has to
come next, and that value does not look like an option. -/
def request? (options : Options) (pending : Option Key) : List String → Option Request
  | [] => if pending.isSome then none else some (.session options)
  | arg :: rest =>
    match pending, arg.toList with
    | some key, cs =>
      if cs.head? = some '-' ∧ cs ≠ ['-'] then none
      else do request? (← options.set? key arg) none rest
    | none, ['-', '-'] => if rest = [] then some (.session options) else none
    | none, '-' :: '-' :: name =>
      match divide name with
      | ("help", none) => some .help
      | ("version", none) => some .version
      | (name, value) =>
        match key? name, value with
        | none, _ => none
        | some key, none => request? options (some key) rest
        | some key, some value => do request? (← options.set? key value) none rest
    | none, '-' :: 'h' :: _ => some .help
    | none, '-' :: 'V' :: _ => some .version
    | none, _ => none

def versionText : String := "earsh 0.1.0\n"

def helpText : String :=
  Text.join "\n"
    ["Browse the earsh virtual filesystem from a console",
     "",
     "Usage: earsh [OPTIONS]",
     "",
     "Options:",
     "      --config <CONFIG>      TOML settings file; defaults apply when it does not exist " ++
       "[default: earsh.toml]",
     "      --state <STATE>        Session state file, overriding the configured one",
     "      --blogpost <BLOGPOST>  Open a blog post (or \x60list\x60) before the prompt appears",
     "  -h, --help                 Print help",
     "  -V, --version              Print version",
     ""]

/-! ## The session -/

/-- The settings that options ask for. -/
def settingsFor (d : Disk) (options : Options) : Except BootError Settings := do
  let settings ← Boot.settings d (options.settings.getD "earsh.toml")
  return { settings with statePath := options.state.getD settings.statePath }

/-- The shell that options ask for. Markdown is shown as it is. -/
def start (d : Disk) (options : Options) : Except BootError (Shell FileStore) := do
  let settings ← settingsFor d options
  match FileStore.open? d settings.statePath with
  | none => .error (.unreadable settings.statePath)
  | some store =>
    let seed ← Boot.seed d settings
    (Shell.boot settings seed (Boot.posts d settings) store id).mapError .badSeed

/-- What is written for an event. The screen is wiped by control sequences. -/
def write : Event → String
  | .line content | .rich content => content ++ "\n"
  | .clear => "\x1b[2J\x1b[H"

def writeAll (events : List Event) : String := String.join (events.map write)

/-- What is written before the first prompt. -/
def greet (sh : Shell FileStore) (options : Options) : String × Shell FileStore :=
  match options.post with
  | none => ("", sh)
  | some post =>
    let (events, after) := sh.launch post
    (writeAll events, after)

/-- Runs a line, none if it ends the session. The line itself is on the screen already. -/
def answer? (sh : Shell FileStore) (line : String) : Option (String × Shell FileStore) :=
  if Text.trim line = "exit" then none
  else
    let (events, after) := sh.submit line
    some (writeAll (events.drop 1), after)

/-- Runs lines up to the end of the session. Gives what is written, whether every line was text,
and the shell at the end. -/
def converse (sh : Shell FileStore) : List (Option String) → String × Bool × Shell FileStore
  | [] => (sh.prompt, true, sh)
  | none :: _ => (sh.prompt, false, sh)
  | some line :: rest =>
    match answer? sh line with
    | none => (sh.prompt, true, sh)
    | some (written, after) =>
      let (more, ended) := converse after rest
      (sh.prompt ++ written ++ more, ended)

/-! ## A whole run -/

/-- The lines of an input. The last one may have no end of line. -/
def splitLines : List UInt8 → List (List UInt8)
  | [] => []
  | b :: bs =>
    if b = 0x0A then [] :: splitLines bs
    else match splitLines bs with
      | [] => [[b]]
      | line :: lines => (b :: line) :: lines

/-- The lines of an input as texts, none for one that is no UTF-8. -/
def inputLines (input : List UInt8) : List (Option String) :=
  (splitLines input).map fun line => (Text.Utf8.decode? line).map String.ofList

structure Outcome where
  exit : Nat
  written : String
  disk : Disk
  deriving DecidableEq

/-- Runs a command line on a whole input. -/
def run (d : Disk) (args : List String) (input : List UInt8) : Outcome :=
  match request? {} none args with
  | none => ⟨2, "", d⟩
  | some .help => ⟨0, helpText, d⟩
  | some .version => ⟨0, versionText, d⟩
  | some (.session options) =>
    match start d options with
    | .error _ => ⟨1, "", d⟩
    | .ok sh =>
      let (greeting, sh) := greet sh options
      let (written, isText, sh) := converse sh (inputLines input)
      ⟨if isText then 0 else 1, greeting ++ written, sh.session.store.disk⟩

end SeedShell.Console
