import SeedShell.Toml.Scalar

/-!
# Reading TOML

A document is a row of statements: headers and entries. `statements?` reads them and checks the
form of each; `build?` puts them together and refuses a key that is given twice or a table that
is reopened.
-/

namespace SeedShell.Toml

/-- The deepest nesting of arrays and braces, and the longest dotted key. -/
def maxDepth : Nat := 79

/-! ## Keys -/

def isBareKeyChar (c : Char) : Bool :=
  ('a' ≤ c && c ≤ 'z') || ('A' ≤ c && c ≤ 'Z') || ('0' ≤ c && c ≤ '9') || c == '_' || c == '-'

def readKey (cs : List Char) : Option (String × List Char) :=
  match cs with
  | '"' :: rest => (readBasic (cs.length + 1) rest).map fun (s, rest) => (String.ofList s, rest)
  | '\'' :: rest => (readLiteral rest).map fun (s, rest) => (String.ofList s, rest)
  | _ =>
    let key := cs.takeWhile isBareKeyChar
    if key = [] then none else some (String.ofList key, cs.drop key.length)

/-- The keys of a dotted key, blanks around the dots allowed. -/
def readKeys : Nat → List Char → Option (List String × List Char)
  | 0, _ => none
  | fuel + 1, cs => do
    let (key, rest) ← readKey (skipSpace cs)
    match skipSpace rest with
    | '.' :: rest => do
      let (keys, rest) ← readKeys fuel rest
      return (key :: keys, rest)
    | rest => return ([key], rest)

/-- A dotted key as the path to its table and the last key. -/
def readPath (cs : List Char) : Option ((List String × String) × List Char) := do
  let (keys, rest) ← readKeys (maxDepth + 1) cs
  if maxDepth < keys.length then none
  else return ((keys.dropLast, ← keys.getLast?), rest)

/-! ## Values -/

/-- The rest after a comment, which ends before the end of its line. -/
def skipComment : List Char → List Char
  | '#' :: rest => rest.dropWhile isTextChar
  | cs => cs

/-- The rest after blanks, comments and line ends. -/
def skipBlankLines : Nat → List Char → List Char
  | 0, cs => cs
  | fuel + 1, cs =>
    let rest := skipComment (skipSpace cs)
    match newline? rest with
    | some rest => skipBlankLines fuel rest
    | none => if (skipSpace cs).head? = some '#' then rest else skipSpace cs

mutual

/-- A value with at most `depth` further levels of arrays and braces. -/
def readValue : Nat → Nat → List Char → Option (Item × List Char)
  | 0, _, _ => none
  | fuel + 1, depth, cs =>
    match cs with
    | '[' :: rest => if depth = 0 then none else readArray fuel (depth - 1) rest
    | '\x7b' :: rest =>
      if depth = 0 then none
      else match skipSpace rest with
        | '\x7d' :: rest => some (.closed, rest)
        | rest => readPairs fuel (depth - 1) [] rest
    | _ => readScalar cs

/-- The items of an array up to its end. -/
def readArray : Nat → Nat → List Char → Option (Item × List Char)
  | 0, _, _ => none
  | fuel + 1, depth, cs =>
    match skipBlankLines (cs.length + 1) cs with
    | ']' :: rest => some (.plain, rest)
    | cs => do
      let (_, rest) ← readValue fuel depth cs
      match skipBlankLines (rest.length + 1) rest with
      | ',' :: rest => readArray fuel depth rest
      | ']' :: rest => some (.plain, rest)
      | _ => none

/-- The entries of a table in braces up to its end, after those already read. -/
def readPairs : Nat → Nat → Entries → List Char → Option (Item × List Char)
  | 0, _, _, _ => none
  | fuel + 1, depth, entries, cs => do
    let ((path, key), rest) ← readPath cs
    let (item, rest) ← readValue fuel depth (skipSpace (← mark? '=' rest))
    let entries ← addValue path key item entries
    match skipSpace rest with
    | ',' :: rest => readPairs fuel depth entries rest
    | '\x7d' :: rest => some (.closed, rest)
    | _ => none

end

/-! ## Statements -/

inductive Statement where
  /-- A header, and whether it starts one of several tables of its name. -/
  | header (path : List String) (key : String) (repeated : Bool)
  | entry (path : List String) (key : String) (item : Item)

/-- The rest after what may end a line: blanks, a comment and the line end. -/
def endLine? (cs : List Char) : Option (List Char) :=
  match skipComment (skipSpace cs) with
  | [] => some []
  | rest => newline? rest

def readStatement (cs : List Char) : Option (Statement × List Char) :=
  match cs with
  | '[' :: '[' :: rest => do
    let ((path, key), rest) ← readPath rest
    let rest ← mark? ']' (← mark? ']' rest)
    return (.header path key true, ← endLine? rest)
  | '[' :: rest => do
    let ((path, key), rest) ← readPath rest
    return (.header path key false, ← endLine? (← mark? ']' rest))
  | _ => do
    let ((path, key), rest) ← readPath cs
    let rest := skipSpace (← mark? '=' rest)
    let (item, rest) ← readValue (2 * rest.length + 2) maxDepth rest
    return (.entry path key item, ← endLine? rest)

/-- The statements of a text. -/
def readStatements : Nat → List Char → Option (List Statement)
  | 0, _ => none
  | fuel + 1, cs =>
    match skipBlankLines (cs.length + 1) cs with
    | [] => some []
    | rest => do
      let (statement, rest) ← readStatement rest
      return statement :: (← readStatements fuel rest)

/-- The statements of a text, which may begin with a byte order mark. -/
def statements? (text : String) : Option (List Statement) :=
  let cs := match text.toList with
    | '\uFEFF' :: rest => rest
    | cs => cs
  readStatements (cs.length + 1) cs

/-! ## Tables -/

/-- Opens the table of a header. A table that other headers imply becomes this header's own. -/
def openTable (key : String) (repeated : Bool) (entries : Entries) : Option Entries :=
  let fresh : Item := .table .explicit []
  match entries.lookup key, repeated with
  | none, false => some (entries.put key fresh)
  | none, true => some (entries.put key (.tables fresh []))
  | some (.table .implied inner), false => some (entries.put key (.table .explicit inner))
  | some (.tables newest older), true => some (entries.put key (.tables fresh (newest :: older)))
  | _, _ => none

/-- The entries of a document and the path of the table that is open. -/
structure Document where
  entries : Entries := []
  current : List String := []

def Document.step (d : Document) : Statement → Option Document
  | .header path key repeated => do
    let change := fun _ => openTable key repeated
    let entries ← alterAt false change path .explicit d.entries
    return ⟨entries, path ++ [key]⟩
  | .entry path key item => do
    let change := fun _ => addValue path key item
    let entries ← alterAt false change d.current .explicit d.entries
    return { d with entries }

def build? (statements : List Statement) : Option Entries :=
  (statements.foldlM Document.step {}).map (·.entries)

/-- The entries at the top of a document. -/
def parse? (text : String) : Option Entries := do build? (← statements? text)

end SeedShell.Toml
