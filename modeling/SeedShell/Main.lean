import SeedShell.Console

/-!
# The program

Reads the files that the options and the settings name, runs the console line by line, and writes
the state file when it has changed.
-/

namespace SeedShell.Console

/-- Adds a file to a disk as far as it can be read. -/
def addFile (d : Disk) (path : String) : IO Disk := do
  try
    return d.withFile path (← IO.FS.readFile path)
  catch
    | .noFileOrDirectory .. => return d
    | _ => return d.withDirectories (path ++ "/")

/-- The part of the disk that a session touches. The directory of the state file is taken to be
there. -/
def readDisk (options : Options) : IO Disk := do
  let d ← addFile {} (options.settings.getD "earsh.toml")
  match settingsFor d options with
  | .error _ => return d
  | .ok settings =>
    let paths := settings.statePath :: (settings.seedPath.toList ++ settings.postsPath.toList)
    let d ← paths.foldlM addFile d
    return d.withDirectories settings.statePath

/-- Writes the state file if it has changed. A failure goes unnoticed. -/
def saveState (before after : FileStore) : IO Unit := do
  match after.text? with
  | none => return
  | some content =>
    if before.text? ≠ some content then
      try IO.FS.writeFile after.path content catch _ => return

/-- Reads bytes up to the end of a line. `read` holds those so far, the last one first. None at
the end of the input. -/
partial def readLine? (input : IO.FS.Stream) (read : List UInt8) : IO (Option (List UInt8)) := do
  match (← input.read 1).toList with
  | [] => return if read = [] then none else some read.reverse
  | b :: _ => if b = 0x0A then return some read.reverse else readLine? input (b :: read)

/-- Runs lines of standard input until the session ends. -/
partial def converseIO (sh : Shell FileStore) : IO UInt32 := do
  let stdout ← IO.getStdout
  stdout.putStr sh.prompt
  stdout.flush
  match ← readLine? (← IO.getStdin) [] with
  | none => return 0
  | some bytes =>
    match Text.Utf8.decode? bytes with
    | none => return 1
    | some line =>
      match answer? sh (String.ofList line) with
      | none => return 0
      | some (written, after) =>
        saveState sh.session.store after.session.store
        stdout.putStr written
        converseIO after

end SeedShell.Console

open SeedShell SeedShell.Console in
/-- The command line. -/
def main (args : List String) : IO UInt32 := do
  match request? {} none args with
  | none =>
    IO.eprintln "error: unexpected arguments; try '--help'"
    return 2
  | some .help =>
    IO.print helpText
    return 0
  | some .version =>
    IO.print versionText
    return 0
  | some (.session options) =>
    let d ← readDisk options
    match start d options with
    | .error e =>
      IO.eprintln ("error: " ++ e.message)
      return 1
    | .ok booted =>
      let (greeting, sh) := greet booted options
      match FileStore.open? d booted.session.store.path with
      | none => return 1
      | some opened =>
        saveState opened sh.session.store
        IO.print greeting
        converseIO sh
