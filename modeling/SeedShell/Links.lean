import SeedShell.Text.Basic

/-!
# Links in plain text

A web address starts with `http://` or `https://`, has at least one more character and runs to
the next blank. `pieces` divides a line into the addresses and the characters around them,
leftmost address first; `markup` wraps every address in an anchor and keeps the rest.
-/

namespace SeedShell.Links

inductive Piece where
  | plain (c : Char)
  | address (url : List Char)
  deriving DecidableEq, Repr

/-- The scheme at the start of the text, and what follows it. -/
def scheme? (cs : List Char) : Option (List Char × List Char) :=
  ["https://".toList, "http://".toList].findSome? fun s =>
    (Text.dropPrefixChars? s cs).map fun rest => (s, rest)

/-- Whether an address starts here. -/
def startsAddress (cs : List Char) : Bool :=
  match scheme? cs with
  | some (_, c :: _) => !Text.isBlank c
  | _ => false

def pieces : List Char → List Piece
  | [] => []
  | c :: cs =>
    if startsAddress (c :: cs) then
      .address (c :: cs.takeWhile (!Text.isBlank ·)) :: pieces (cs.dropWhile (!Text.isBlank ·))
    else .plain c :: pieces cs
termination_by cs => cs.length
decreasing_by
  · exact Nat.lt_succ_of_le (List.dropWhile_sublist _).length_le
  · exact Nat.lt_succ_self _

/-- The anchor that shows an address as a link to itself. -/
def anchor (url : List Char) : List Char :=
  "<a href=\"".toList ++ url ++ "\" class=\"link\" target=\"_blank\">".toList ++ url ++
    "</a>".toList

def Piece.markup : Piece → List Char
  | .plain c => [c]
  | .address url => anchor url

/-- The line with every address as a link. -/
def markup (line : String) : String :=
  String.ofList ((pieces line.toList).flatMap Piece.markup)

end SeedShell.Links
