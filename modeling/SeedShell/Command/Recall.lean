import SeedShell.Command.Basic

/-!
# The history command

`history` lists the entries, `-c` removes them all and `-d` removes one by its number.
-/

namespace SeedShell.Command

variable {σ : Type}

/-- The number that an argument stands for. It may begin with a plus sign. -/
def number? (arg : String) : Option Nat :=
  let digits := match arg.toList with
    | '+' :: rest => rest
    | cs => cs
  if digits ≠ [] ∧ digits.all Char.isDigit then some (Text.natOfDigits digits) else none

def history [KeyValueStore σ] : Command σ := fun s args =>
  match args with
  | "-c" :: _ => (.ok .none, s.setHistory s.history.clear)
  | ["-d"] => (.error (.usage "Usage: history -d <index>"), s)
  | "-d" :: arg :: _ =>
    match (number? arg).bind s.history.erase? with
    | none => (.error (.usage "history: index out of range"), s)
    | some history => (.ok .none, s.setHistory history)
  | _ =>
    if s.history.entries = [] then (.ok .none, s)
    else (.ok (.lines s.history.entries), s)

end SeedShell.Command
