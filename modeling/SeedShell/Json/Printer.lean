import SeedShell.Text.Basic

/-!
# Writing JSON

The two shapes that the shell stores: a list of texts on one line, and an object of texts with
one member a line. Quotes, backslashes and control characters are escaped, and all else stands
for itself.
-/

namespace SeedShell.Json

def hexDigit (n : Nat) : Char :=
  if n < 10 then Char.ofNat ('0'.toNat + n) else Char.ofNat ('a'.toNat + (n - 10))

/-- How a character is written inside a string. -/
def escapeChar (c : Char) : List Char :=
  if c = '"' then ['\\', '"']
  else if c = '\\' then ['\\', '\\']
  else if c = '\n' then ['\\', 'n']
  else if c = '\r' then ['\\', 'r']
  else if c = '\t' then ['\\', 't']
  else if c = '\x08' then ['\\', 'b']
  else if c = '\x0C' then ['\\', 'f']
  else if c.toNat < 0x20 then
    ['\\', 'u', '0', '0', hexDigit (c.toNat / 16), hexDigit (c.toNat % 16)]
  else [c]

/-- A text between quotes. -/
def quote (s : String) : String := String.ofList ('"' :: s.toList.flatMap escapeChar ++ ['"'])

/-- A list of texts on one line. -/
def ofStrings (items : List String) : String := "[" ++ Text.join "," (items.map quote) ++ "]"

/-- An object of texts, indented by two spaces. -/
def ofMembers (members : List (String × String)) : String :=
  match members with
  | [] => "\x7b\x7d"
  | _ => "\x7b\n" ++
      Text.join ",\n" (members.map fun (k, v) => "  " ++ quote k ++ ": " ++ quote v) ++ "\n\x7d"

end SeedShell.Json
