import SeedShell.Store.Memory

/-!
# Pages

The page around a terminal: it may keep texts for later visits, and it is told of changes. A
function of the page takes the news if there is one and it does not fail; otherwise an event goes
to the window and then to the document.
-/

namespace SeedShell

/-- What a page does with texts that are to be kept. -/
inductive Keeping where
  | keeps
  /-- Nothing is kept, because the page has no place for it or gives no access to that. -/
  | nothing
  /-- What is kept stays as it is. -/
  | full
  /-- What is kept cannot be read. -/
  | unreadable
  deriving DecidableEq, Repr

/-- The function of a page that takes news. -/
inductive Listener where
  | takes
  | fails
  | absent
  deriving DecidableEq, Repr

structure Page where
  hasWindow : Bool := true
  hasDocument : Bool := true
  keeping : Keeping := .keeps
  kept : Memory := .empty
  /-- The query of the page's address. -/
  query : String := ""
  listener : Listener := .absent
  /-- Whether events can be made at all, and whether the two targets take them. -/
  makesEvents : Bool := true
  windowTakesEvents : Bool := true
  documentTakesEvents : Bool := true
  deriving DecidableEq

/-- What a page is told: the new prompt, and through what. -/
inductive Notice where
  | listener (prompt : String)
  | window (prompt : String)
  | document (prompt : String)
  deriving DecidableEq, Repr

namespace Page

/-- Whether the page has a place for texts. -/
def hasStorage (p : Page) : Bool := p.hasWindow && p.keeping ≠ .nothing

/-- The events by which a page learns of a new prompt. -/
def dispatch (p : Page) (prompt : String) : List Notice :=
  if p.makesEvents then
    (if p.windowTakesEvents then [.window prompt] else []) ++
      (if p.hasDocument && p.documentTakesEvents then [.document prompt] else [])
  else []

/-- Everything by which a page is told of a new prompt. -/
def announce (p : Page) (prompt : String) : List Notice :=
  if p.hasWindow then
    match p.listener with
    | .takes => [.listener prompt]
    | .fails => .listener prompt :: p.dispatch prompt
    | .absent => p.dispatch prompt
  else []

end Page

end SeedShell
