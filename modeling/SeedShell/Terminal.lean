import SeedShell.Percent
import SeedShell.Seed.Bundled
import SeedShell.Shell
import SeedShell.Store.Page
import SeedShell.Text.Units

/-!
# Terminals

A terminal is a shell on a page, over the bundled seed. It answers with the prompt after each
line, and tells the page when that has changed. Cursors count UTF-16 code units.
-/

namespace SeedShell

structure Terminal where
  shell : Shell PageStore

/-- The answer to a line, and what the page was told meanwhile. -/
structure Response where
  events : List Event
  prompt : String
  notices : List Notice
  deriving DecidableEq, Repr

/-- The completion with its cursor in UTF-16 code units. -/
def Completion.inUnits : Completion → Completion
  | .edit buffer cursor => .edit buffer (Text.Units.ofChars buffer cursor)
  | other => other

namespace Terminal

/-- Markdown as a page renders it. Where the page fails to, it is shown as it is. -/
def renderWith (renderer : String → Option String) (markdown : String) : String :=
  (renderer markdown).getD markdown

/-- A new terminal on a page. -/
def onPage (page : Page) (render : String → String) : Except SeedError Terminal :=
  (Shell.boot {} Seed.bundled Post.bundled (.ofPage page) render).map (⟨·⟩)

def page (t : Terminal) : Page := t.shell.session.store.page

def prompt (t : Terminal) : String := t.shell.prompt

/-- A new terminal on the page of this one. -/
def reload (t : Terminal) : Except SeedError Terminal := onPage t.page t.shell.session.render

/-- Changes the page around the terminal. -/
def alterPage (t : Terminal) (f : Page → Page) : Terminal :=
  let session := t.shell.session
  let store := { session.store with page := f session.store.page }
  ⟨{ t.shell with session := { session with store } }⟩

/-- The response to a line. A page whose prompt has become stale is told the new one. -/
def respond (before : String) (events : List Event) (shell : Shell PageStore) :
    Response × Terminal :=
  let after : Terminal := ⟨shell⟩
  let notices := if after.prompt = before then [] else after.page.announce after.prompt
  (⟨events, after.prompt, notices⟩, after)

/-- Runs a typed line. -/
def submit (t : Terminal) (line : String) : Response × Terminal :=
  let (events, shell) := t.shell.submit line
  respond t.prompt events shell

/-- The parameter of the page's address that names a post. -/
def postParameter (page : Page) : String :=
  if page.hasWindow then (Percent.queryValue? page.query "blogpost").getD "" else ""

/-- Opens the post that the page's address names. -/
def launch (t : Terminal) : Response × Terminal :=
  let (events, shell) := t.shell.launch (postParameter t.page)
  respond t.prompt events shell

/-- Completes the line at a cursor in code units. -/
def complete (t : Terminal) (buffer : String) (cursor now : Nat) : Completion × Terminal :=
  let (completion, shell) := t.shell.complete buffer (Text.Units.toChars buffer cursor) now
  (completion.inUnits, ⟨shell⟩)

def back (t : Terminal) : Option String × Terminal :=
  let (entry, shell) := t.shell.back
  (entry, ⟨shell⟩)

def forward (t : Terminal) : String × Terminal :=
  let (entry, shell) := t.shell.forward
  (entry, ⟨shell⟩)

def lastArgument (t : Terminal) : Option String × Terminal :=
  let (argument, shell) := t.shell.lastArgument
  (argument, ⟨shell⟩)

end Terminal

end SeedShell
