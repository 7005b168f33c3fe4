import SeedShell.Proofs.Histories
import SeedShell.Shell

/-!
# Effects of a run

Every operation on a shell changes its session in a few ways only: a command enters a directory,
sets the user or cuts the history, a typed line is recorded, and recall moves its position. What
all of these keep is kept by every run. A run is followed by the calls it makes, which the shell
itself does not remember.
-/

namespace SeedShell.Proofs

variable {σ : Type}

/-! ### Calls -/

/-- A command of the table as it was run, and its outcome. -/
structure Call where
  name : String
  args : List String
  outcome : Except Problem Output

/-- The call entered a directory. -/
def Call.entersDirectory (c : Call) : Bool := c.name == "cd" && c.outcome.isOk

/-- The calls of commands that are run one after the other. -/
def calls (r : Registry σ) : Session σ → List (String × List String) → List Call
  | _, [] => []
  | s, (name, args) :: commands =>
    ⟨name, args, (r.dispatch s name args).1⟩ :: calls r (r.dispatch s name args).2 commands

/-- The commands of the script at a node, none if it is not run. -/
def scriptCommands (s : Session σ) (id : Nat) : List (String × List String) :=
  if (s.tree.node id).isExecutable then
    match (s.tree.node id).content?.getD [] with
    | [] => []
    | first :: body =>
      if Text.trim first = s.settings.shebang then body.filterMap Script.command? else []
  else []

/-- The commands that words run: themselves, or those of the script that they name. -/
def commandsOf (s : Session σ) (words : List String) : List (String × List String) :=
  match words with
  | [] => []
  | name :: args =>
    match name.toList with
    | '/' :: _ => (s.resolve? name).elim [] (scriptCommands s)
    | '.' :: '/' :: path => (Run.relativeFile? s path).elim [] (scriptCommands s)
    | _ => [(name, args)]

section Commands

variable (r : Registry σ) (s : Session σ)

lemma run_snd (id : Nat) :
    (Script.run r s id).2 = (Script.runAll r s (scriptCommands s id)).2 := by
  unfold Script.run scriptCommands
  by_cases hexec : (s.tree.node id).isExecutable
  · cases hcontent : (s.tree.node id).content?.getD [] with
    | nil => simp [hexec, hcontent, Script.runAll]
    | cons first body =>
      by_cases hshebang : Text.trim first = s.settings.shebang
      · simp [hexec, hcontent, hshebang]
      · simp [hexec, hcontent, hshebang, Script.runAll]
  · simp [hexec, Script.runAll]

lemma scriptCommands_eq_nil {id : Nat} (h : (s.tree.node id).isFile = false) :
    scriptCommands s id = [] := by
  have hcontent : (s.tree.node id).content? = none := by
    unfold Node.isFile Node.isDirectory at h
    unfold Node.content?
    cases hentry : (s.tree.node id).entry with
    | directory children => rfl
    | file content => simp [hentry] at h
  simp [scriptCommands, hcontent]

lemma runFile_snd (name : String) (file : Option Nat) :
    (Run.runFile r s name file).2 = (Script.runAll r s (file.elim [] (scriptCommands s))).2 := by
  cases file with
  | none => rfl
  | some id =>
    unfold Run.runFile
    rw [Option.elim_some]
    by_cases hfile : (s.tree.node id).isFile
    · by_cases hexec : (s.tree.node id).isExecutable
      · simp only [hfile, hexec, Bool.and_self, if_true, run_snd]
      · simp [hexec, scriptCommands, Script.runAll]
    · rw [scriptCommands_eq_nil s (by simpa using hfile)]
      simp [hfile, Script.runAll]

lemma commandsOf_of_not_path {name : String} (hroot : ∀ path, name.toList = '/' :: path → False)
    (hhere : ∀ path, name.toList = '.' :: '/' :: path → False) (args : List String) :
    commandsOf s (name :: args) = [(name, args)] := by
  unfold commandsOf
  dsimp only
  split
  · next hname => exact (hroot _ hname).elim
  · next hname => exact (hhere _ hname).elim
  · rfl

/-- Running words is running their commands, as far as the session is concerned. -/
lemma runWords_snd (words : List String) :
    (Run.runWords r s words).2 = (Script.runAll r s (commandsOf s words)).2 := by
  fun_cases Run.runWords r s words with
  | case1 => rfl
  | case2 name args path hname => simp only [commandsOf, hname, runFile_snd]
  | case3 name args path hname => simp only [commandsOf, hname, runFile_snd]
  | case4 name args hroot hhere =>
    rw [commandsOf_of_not_path s hroot hhere]
    rfl

lemma runLine_snd (line : String) : (Run.runLine r s line).2 =
    (Script.runAll r s (commandsOf s (Words.ofLine line))).2 := by
  rw [Run.runLine, runWords_snd]

end Commands

variable [KeyValueStore σ]

/-- The calls of a line. -/
def lineCalls (s : Session σ) (line : String) : List Call :=
  calls .standard s (commandsOf s (Words.ofLine line))

/-! ### Operations -/

inductive Operation where
  | submit (line : String)
  | execute (line : String)
  | launch (raw : String)
  | complete (buffer : String) (cursor now : Nat)
  | back
  | forward
  | lastArgument
  deriving DecidableEq, Repr

/-- What an operation gives to the one who asks for it. -/
inductive Answer where
  | shown (events : List Event)
  | completed (completion : Completion)
  | recalled (line : Option String)
  deriving DecidableEq, Repr

def perform (sh : Shell σ) : Operation → Answer × Shell σ
  | .submit line => (sh.submit line).map .shown id
  | .execute line => (sh.execute line).map .shown id
  | .launch raw => (sh.launch raw).map .shown id
  | .complete buffer cursor now => (sh.complete buffer cursor now).map .completed id
  | .back => sh.back.map .recalled id
  | .forward => sh.forward.map (.recalled ∘ some) id
  | .lastArgument => sh.lastArgument.map .recalled id

/-- The shell after a run. -/
def after (sh : Shell σ) : List Operation → Shell σ
  | [] => sh
  | op :: ops => after (perform sh op).2 ops

def executeCalls (s : Session σ) (line : String) : List Call :=
  if Text.trim line = "" then [] else lineCalls s (Text.trim line)

def submitCalls (s : Session σ) (line : String) : List Call :=
  if Text.trim line = "" then [] else executeCalls (s.record (Text.trim line)) (Text.trim line)

def launchCalls (s : Session σ) (raw : String) : List Call :=
  (Launch.ofRaw? s.settings raw).elim [] fun launch => executeCalls s launch.command

def operationCalls (sh : Shell σ) : Operation → List Call
  | .submit line => submitCalls sh.session line
  | .execute line => executeCalls sh.session line
  | .launch raw => launchCalls sh.session raw
  | .complete .. | .back | .forward | .lastArgument => []

/-- The calls of a run. -/
def runCalls (sh : Shell σ) : List Operation → List Call
  | [] => []
  | op :: ops => operationCalls sh op ++ runCalls (perform sh op).2 ops

/-- Some call of the run entered a directory. -/
def entered (sh : Shell σ) (ops : List Operation) : Bool :=
  (runCalls sh ops).any Call.entersDirectory

/-! ### Effects of commands -/

/-- What a command may do to a session, and whether it enters a directory. -/
inductive Effect (s : Session σ) : Bool → Session σ → Prop
  | nothing : Effect s false s
  | place {path : String} {place : Place} : s.tree.resolve s.cwd s.user path = some place →
    s.tree.isDirectory place.node → Effect s true (s.setPlace place.segments)
  | user (user : String) : Effect s false (s.setUser user)
  | cleared : Effect s false (s.setHistory s.history.clear)
  | erased {number : Nat} {history : History} : s.history.erase? number = some history →
    Effect s false (s.setHistory history)

section Effects

variable (s : Session σ) (args : List String)

lemma changeDirectory_effect :
    Effect s (Command.changeDirectory s args).1.isOk (Command.changeDirectory s args).2 := by
  unfold Command.changeDirectory Session.enter
  cases hplace : s.tree.resolve s.cwd s.user (Command.destination args) with
  | none => exact .nothing
  | some place =>
    by_cases hdir : s.tree.isDirectory place.node
    · simp only [hdir, if_true]
      exact .place hplace hdir
    · simp only [hdir]
      exact .nothing

lemma switchUser_effect : Effect s false (Command.switchUser s args).2 := by
  unfold Command.switchUser
  split
  · split
    · exact .nothing
    · exact .user _
  · exact .nothing

lemma history_effect : Effect s false (Command.history s args).2 := by
  unfold Command.history
  split
  · exact .cleared
  · exact .nothing
  · split
    · exact .nothing
    · next hhistory =>
      obtain ⟨number, -, hnumber⟩ := Option.bind_eq_some_iff.mp hhistory
      exact .erased hnumber
  · split <;> exact .nothing

variable {args} in
lemma entersDirectory_of_ne {name : String} (h : name ≠ "cd") (outcome : Except Problem Output) :
    Call.entersDirectory ⟨name, args, outcome⟩ = false := by
  simp [Call.entersDirectory, h]

/-- A command of the table is `cd`, `history`, `su` or a query. -/
lemma standard_cases {name : String} {command : Command σ}
    (h : (Registry.standard : Registry σ).get? name = some command) :
    name = "cd" ∧ command = Command.changeDirectory ∨
      name ≠ "cd" ∧ (name = "history" ∧ command = Command.history ∨
        command = Command.switchUser ∨
        ∃ answer, command = Command.query answer) := by
  obtain ⟨before, behind, hrows, -⟩ := List.lookup_eq_some_iff.mp h
  have hmem : (name, command) ∈ (Registry.standard : Registry σ).commands := by simp [hrows]
  simp only [Registry.standard, List.mem_cons, Prod.mk.injEq, List.not_mem_nil, or_false] at hmem
  -- the rows of the table in their order
  rcases hmem with ⟨rfl, rfl⟩ | ⟨rfl, rfl⟩ | ⟨rfl, rfl⟩ | ⟨rfl, rfl⟩ | ⟨rfl, rfl⟩ | ⟨rfl, rfl⟩ |
    ⟨rfl, rfl⟩ | ⟨rfl, rfl⟩ | ⟨rfl, rfl⟩ | ⟨rfl, rfl⟩
  · exact .inr ⟨by decide, .inr (.inr ⟨_, rfl⟩)⟩
  · exact .inl ⟨rfl, rfl⟩
  · exact .inr ⟨by decide, .inr (.inr ⟨_, rfl⟩)⟩
  · exact .inr ⟨by decide, .inr (.inr ⟨_, rfl⟩)⟩
  · exact .inr ⟨by decide, .inr (.inr ⟨_, rfl⟩)⟩
  · exact .inr ⟨by decide, .inr (.inr ⟨_, rfl⟩)⟩
  · exact .inr ⟨by decide, .inl ⟨rfl, rfl⟩⟩
  · exact .inr ⟨by decide, .inr (.inr ⟨_, rfl⟩)⟩
  · exact .inr ⟨by decide, .inr (.inr ⟨_, rfl⟩)⟩
  · exact .inr ⟨by decide, .inr (.inl rfl)⟩

/-- Every command of the table has one of the effects, and only `cd` enters directories. -/
theorem dispatch_effect (name : String) :
    Effect s (Call.entersDirectory ⟨name, args, (Registry.standard.dispatch s name args).1⟩)
      (Registry.standard.dispatch s name args).2 := by
  unfold Registry.dispatch
  cases hget : (Registry.standard : Registry σ).get? name with
  | none =>
    have hcall : Call.entersDirectory ⟨name, args, .error (.unknownCommand name)⟩ = false :=
      Bool.and_false _
    simp only [hcall]
    exact .nothing
  | some command =>
    rcases standard_cases hget with ⟨rfl, rfl⟩ | ⟨hname, hcommand⟩
    · have heffect := changeDirectory_effect s args
      simpa only [Call.entersDirectory, beq_self_eq_true, Bool.true_and] using heffect
    · dsimp only
      rw [entersDirectory_of_ne hname]
      rcases hcommand with ⟨-, rfl⟩ | rfl | ⟨answer, rfl⟩
      · exact history_effect s args
      · exact switchUser_effect s args
      · exact .nothing

end Effects

/-! ### What every run keeps -/

section Keeping

variable {P : Bool → Session σ → Prop} {b : Bool}

/-- A property that no effect of a command breaks, where its flag tells whether a directory was
entered so far. -/
def KeptByCommands (P : Bool → Session σ → Prop) : Prop :=
  ∀ ⦃b s e s'⦄, P b s → Effect s e s' → P (b || e) s'

/-- A property that no effect of an operation breaks. -/
structure Kept (P : Bool → Session σ → Prop) : Prop where
  commands : KeptByCommands P
  record : ∀ {b s}, P b s → ∀ line, P b (s.record line)
  move : ∀ {b s}, P b s → ∀ position, P b { s with history := { s.history with position } }

namespace KeptByCommands

variable (hP : KeptByCommands P) {s : Session σ} (h : P b s)
include hP h

lemma runAll (commands : List (String × List String)) :
    P (b || (calls .standard s commands).any Call.entersDirectory)
      (Script.runAll .standard s commands).2 := by
  induction commands generalizing b s with
  | nil =>
    rw [calls, List.any_nil, Bool.or_false]
    exact h
  | cons command commands ih =>
    -- the flag of the first call joins that of the calls before
    have hfirst := hP h (dispatch_effect s command.2 command.1)
    rw [calls, List.any_cons, ← Bool.or_assoc]
    exact ih hfirst

lemma runLine (line : String) :
    P (b || (lineCalls s line).any Call.entersDirectory) (Run.runLine .standard s line).2 := by
  rw [runLine_snd]
  exact hP.runAll h _

end KeptByCommands

lemma KeptByCommands.execute (hP : KeptByCommands P) (sh : Shell σ) (h : P b sh.session)
    (line : String) : P (b || (executeCalls sh.session line).any Call.entersDirectory)
      (sh.execute line).2.session := by
  unfold executeCalls Shell.execute
  by_cases hblank : Text.trim line = ""
  · simpa [hblank] using h
  · simpa [hblank] using hP.runLine h (Text.trim line)

namespace Kept

variable (hP : Kept P) (sh : Shell σ) (h : P b sh.session)
include hP h

lemma submit (line : String) :
    P (b || (submitCalls sh.session line).any Call.entersDirectory)
      (sh.submit line).2.session := by
  unfold submitCalls Shell.submit
  by_cases hblank : Text.trim line = ""
  · have hempty : Text.trim "" = "" := rfl
    simpa [hblank, hempty, Shell.execute] using h
  · have hrecord := hP.record h (Text.trim line)
    rw [if_neg hblank]
    dsimp only
    rw [if_neg hblank]
    exact hP.commands.execute { sh with session := sh.session.record (Text.trim line) } hrecord _

lemma launch (raw : String) :
    P (b || (launchCalls sh.session raw).any Call.entersDirectory)
      (sh.launch raw).2.session := by
  unfold launchCalls Shell.launch
  cases Launch.ofRaw? sh.session.settings raw with
  | none => simpa using h
  | some launch =>
    have hexecute := hP.commands.execute sh h launch.command
    simpa only [Option.elim_some] using hexecute

lemma withHistory {history : History}
    (hhistory : ∃ position, history = { sh.session.history with position }) :
    P b (sh.withHistory history).session := by
  obtain ⟨position, rfl⟩ := hhistory
  exact hP.move h position

lemma perform (op : Operation) :
    P (b || (operationCalls sh op).any Call.entersDirectory) (perform sh op).2.session := by
  cases op <;> simp only [Proofs.perform, operationCalls, Prod.map_snd, id_eq, List.any_nil,
    Bool.or_false]
  case submit line => exact hP.submit sh h line
  case execute line => exact hP.commands.execute sh h line
  case launch raw => exact hP.launch sh h raw
  case complete buffer cursor now => exact h
  case back => exact hP.withHistory sh h (back_snd _)
  case forward => exact hP.withHistory sh h (forward_snd _)
  case lastArgument => exact hP.withHistory sh h (back_snd _)

/-- What holds of a session and is kept holds after every run. -/
theorem after (ops : List Operation) : P (b || entered sh ops) (after sh ops).session := by
  induction ops generalizing b sh with
  | nil =>
    rw [entered, runCalls, List.any_nil, Bool.or_false]
    exact h
  | cons op ops ih =>
    have hfirst := hP.perform sh h op
    rw [entered, runCalls, List.any_append, ← Bool.or_assoc]
    exact ih _ hfirst

end Kept

end Keeping

end SeedShell.Proofs
