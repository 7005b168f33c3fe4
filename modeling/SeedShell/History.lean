import SeedShell.Text.Basic

/-!
# Command history

The newest `capacity` entries, oldest first, and a position for recall. The position stands on
an entry or past the newest one; every change of the entries puts it past the newest.
-/

namespace SeedShell

structure History where
  entries : List String
  capacity : Nat
  position : Nat
  deriving DecidableEq, Repr

namespace History

def empty (capacity : Nat) : History := ⟨[], capacity, 0⟩

/-- The last `capacity` of the given entries. -/
def newest (capacity : Nat) (entries : List String) : List String :=
  entries.drop (entries.length - capacity)

/-- The history with these entries and the position past the newest. -/
def withEntries (h : History) (entries : List String) : History :=
  { h with entries, position := entries.length }

def ofEntries (entries : List String) (capacity : Nat) : History :=
  (empty capacity).withEntries (newest capacity entries)

/-- Appends an entry; the oldest ones give way past the capacity. -/
def push (h : History) (line : String) : History :=
  h.withEntries (newest h.capacity (h.entries ++ [line]))

/-- Whether a typed line is kept: neither a repeat of the newest entry nor a use of the history
itself, unless there is no entry yet. -/
def accepts (h : History) (line : String) : Bool :=
  match h.entries.getLast? with
  | none => true
  | some newest => newest ≠ line && !Text.hasPrefix "history" line

/-- Takes a typed line, and puts the position past the newest entry in any case. -/
def record (h : History) (line : String) : History :=
  if h.accepts line then h.push line else h.withEntries h.entries

def clear (h : History) : History := h.withEntries []

/-- Removes the entry with this number, counted from one. -/
def erase? (h : History) (number : Nat) : Option History :=
  if number = 0 ∨ h.entries.length < number then none
  else some (h.withEntries (h.entries.eraseIdx (number - 1)))

/-- Steps to the entry before, which is none at the oldest. -/
def back (h : History) : Option String × History :=
  if h.position = 0 then (none, h)
  else (h.entries[h.position - 1]?, { h with position := h.position - 1 })

/-- Steps to the entry after; past the newest it is the empty line. -/
def forward (h : History) : String × History :=
  match h.entries[h.position + 1]? with
  | some entry => (entry, { h with position := h.position + 1 })
  | none => ("", { h with position := h.entries.length })

/-- The last of at least two fields of a line, unless it is a flag. -/
def operand? (line : String) : Option String :=
  match Text.fields line with
  | [] | [_] => none
  | fields => fields.getLast?.filter (!Text.hasPrefix "-" ·)

/-- Steps back and gives that entry's operand. -/
def lastArgument (h : History) : Option String × History :=
  (h.back.1.bind operand?, h.back.2)

end History

end SeedShell
