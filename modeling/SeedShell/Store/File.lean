import SeedShell.Disk
import SeedShell.Store.Memory

/-!
# A store in a file

A table that is written to a file after every change. A change stays in the table even if the
file could not be written. A file that describes no table reads as the empty one.
-/

namespace SeedShell

structure FileStore where
  disk : Disk
  path : String
  table : Memory
  deriving DecidableEq

namespace FileStore

/-- The table in a file, empty if there is no file. None if something is there that cannot be
read. -/
def tableAt? (disk : Disk) (path : String) : Option Memory :=
  match disk.read path with
  | .text content => some ((Memory.ofText? content).getD .empty)
  | .missing => some .empty
  | .unreadable => none

def open? (disk : Disk) (path : String) : Option FileStore :=
  (tableAt? disk path).map fun table => ⟨disk, path, table⟩

/-- Reads the file once more. -/
def reopen? (store : FileStore) : Option FileStore := open? store.disk store.path

/-- The text of the file. -/
def text? (store : FileStore) : Option String := store.disk.text? store.path

/-- Writes the table to the file. -/
def flush (store : FileStore) : Except StoreError Unit × FileStore :=
  let (written, disk) := store.disk.write store.path store.table.toText
  (if written then .ok () else .error .unwritable, { store with disk })

def insert (store : FileStore) (key value : String) : Except StoreError Unit × FileStore :=
  flush { store with table := store.table.insert key value }

/-- Removes a key. Nothing is written if it is not there. -/
def erase (store : FileStore) (key : String) : Except StoreError Unit × FileStore :=
  if (store.table.get? key).isSome then flush { store with table := store.table.erase key }
  else (.ok (), store)

instance : KeyValueStore FileStore where
  get? store := store.table.get?
  insert := insert
  erase := erase

end FileStore

end SeedShell
