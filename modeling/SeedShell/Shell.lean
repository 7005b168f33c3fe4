import SeedShell.Completion
import SeedShell.Launch
import SeedShell.Run

/-!
# Shells

A shell is a session at a prompt. A submitted line is recorded and run, and the display receives
the prompt with the line and then the output. Keys complete the line or recall earlier ones.
-/

namespace SeedShell

structure Shell (σ : Type) where
  session : Session σ
  presses : Presses

namespace Shell

variable {σ : Type} [KeyValueStore σ]

def ofSession (s : Session σ) : Shell σ := ⟨s, { window := s.settings.doublePressMs }⟩

def boot (settings : Settings) (seed : Seed) (posts : List Post) (store : σ)
    (render : String → String) : Except SeedError (Shell σ) :=
  (Session.boot settings seed posts store render).map ofSession

def prompt (sh : Shell σ) : String := sh.session.prompt

/-- Runs a line that is not recorded. Nothing happens for a blank one. -/
def execute (sh : Shell σ) (line : String) : List Event × Shell σ :=
  let line := Text.trim line
  if line = "" then ([], sh)
  else
    let (output, session) := Run.runLine .standard sh.session line
    (.line (sh.prompt ++ line) :: output.events, { sh with session })

/-- Records a typed line and runs it. -/
def submit (sh : Shell σ) (line : String) : List Event × Shell σ :=
  let line := Text.trim line
  if line = "" then execute sh line
  else execute { sh with session := sh.session.record line } line

/-- Opens the post that a parameter names. -/
def launch (sh : Shell σ) (raw : String) : List Event × Shell σ :=
  match Launch.ofRaw? sh.session.settings raw with
  | none => ([], sh)
  | some launch =>
    let (events, after) := sh.execute launch.command
    (launch.notice.toList.map .line ++ events, after)

/-- Completes the line at a moment in milliseconds. -/
def complete (sh : Shell σ) (buffer : String) (cursor now : Nat) : Completion × Shell σ :=
  let (press, presses) := sh.presses.press now
  (Completion.complete .standard sh.session buffer cursor press, { sh with presses })

/-! ## Recall -/

/-- The shell with the position of recall moved. -/
def withHistory (sh : Shell σ) (history : History) : Shell σ :=
  { sh with session := { sh.session with history } }

def back (sh : Shell σ) : Option String × Shell σ :=
  let (entry, history) := sh.session.history.back
  (entry, sh.withHistory history)

def forward (sh : Shell σ) : String × Shell σ :=
  let (entry, history) := sh.session.history.forward
  (entry, sh.withHistory history)

def lastArgument (sh : Shell σ) : Option String × Shell σ :=
  let (argument, history) := sh.session.history.lastArgument
  (argument, sh.withHistory history)

end Shell

end SeedShell
