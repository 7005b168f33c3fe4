import SeedShell.Proofs.Soundness
import SeedShell.Store.Memory

/-!
# Sessions without their stores

No command reads the store, and what becomes of a write shows nowhere. So a session that has lost
its store runs just as it did before, and all that is seen of a run is settled by what was read
when the session started.
-/

namespace SeedShell.Proofs

open Session KeyValueStore

/-- A store that keeps nothing. -/
structure NoStore where

instance : KeyValueStore NoStore where
  get? _ _ := none
  insert store _ _ := (.ok (), store)
  erase store _ := (.ok (), store)

variable {σ τ : Type}

/-- The session without its store. -/
def bare (s : Session σ) : Session NoStore := { s with store := {} }

/-- The answer with the session that has lost its store. -/
def bareRun {α : Type} (ran : α × Session σ) : α × Session NoStore := (ran.1, bare ran.2)

section Fields

variable (s : Session σ)

@[simp] lemma bare_tree : (bare s).tree = s.tree := rfl

@[simp] lemma bare_settings : (bare s).settings = s.settings := rfl

@[simp] lemma bare_history : (bare s).history = s.history := rfl

@[simp] lemma bare_resolve (path : String) :
    (bare s).tree.resolve (bare s).cwd (bare s).user path = s.tree.resolve s.cwd s.user path := rfl

end Fields

variable [KeyValueStore σ] [KeyValueStore τ]

/-! ### Commands -/

section Commands

variable (s : Session σ) (args : List String)

lemma changeDirectory_bare :
    Command.changeDirectory (bare s) args = bareRun (Command.changeDirectory s args) := by
  unfold Command.changeDirectory Session.enter
  rw [bare_resolve, bare_tree]
  cases s.tree.resolve s.cwd s.user (Command.destination args) with
  | none => rfl
  | some place =>
    by_cases hdir : s.tree.isDirectory place.node
    · simp only [hdir, if_true]
      rfl
    · simp only [hdir]
      rfl

lemma switchUser_bare :
    Command.switchUser (bare s) args = bareRun (Command.switchUser s args) := by
  unfold Command.switchUser
  split
  · split <;> rfl
  · rfl

lemma history_bare : Command.history (bare s) args = bareRun (Command.history s args) := by
  unfold Command.history
  rw [bare_history]
  split
  · rfl
  · rfl
  · split <;> rfl
  · split <;> rfl

/-- Rows of two tables under one name, whose commands differ in the stores only. -/
structure SameRow (row : String × Command σ) (row' : String × Command NoStore) : Prop where
  name : row'.1 = row.1
  run : ∀ s args, row'.2 (bare s) args = bareRun (row.2 s args)

omit [KeyValueStore σ] in
lemma dispatch_bare_of_forall₂ {rows : List (String × Command σ)}
    {rows' : List (String × Command NoStore)} (h : List.Forall₂ SameRow rows rows')
    (name : String) : Registry.dispatch ⟨rows'⟩ (bare s) name args =
      bareRun (Registry.dispatch ⟨rows⟩ s name args) := by
  unfold Registry.dispatch Registry.get?
  induction h with
  | nil => rfl
  | @cons row row' rows rows' hrow _ ih =>
    have hname := hrow.name
    dsimp only at ih ⊢
    rw [List.lookup_cons, List.lookup_cons, hname]
    cases name == row.1 with
    | true => exact hrow.run s args
    | false => exact ih

/-- Every command of the table does without the store what it does with it. -/
lemma dispatch_bare (name : String) : Registry.standard.dispatch (bare s) name args =
    bareRun (Registry.standard.dispatch s name args) := by
  refine dispatch_bare_of_forall₂ s args ?_ name
  refine .cons ⟨rfl, fun _ _ => rfl⟩ (.cons ⟨rfl, changeDirectory_bare⟩ ?_)
  refine .cons ⟨rfl, fun _ _ => rfl⟩ (.cons ⟨rfl, fun _ _ => rfl⟩ ?_)
  refine .cons ⟨rfl, fun _ _ => rfl⟩ (.cons ⟨rfl, fun _ _ => rfl⟩ ?_)
  refine .cons ⟨rfl, history_bare⟩ (.cons ⟨rfl, fun _ _ => rfl⟩ ?_)
  exact .cons ⟨rfl, fun _ _ => rfl⟩ (.cons ⟨rfl, switchUser_bare⟩ .nil)

end Commands

/-! ### Lines -/

section Lines

variable (s : Session σ)

lemma runAll_bare (commands : List (String × List String)) :
    Script.runAll .standard (bare s) commands = bareRun (Script.runAll .standard s commands) := by
  induction commands generalizing s with
  | nil => rfl
  | cons command commands ih =>
    obtain ⟨name, args⟩ := command
    have hfirst := dispatch_bare s args name
    have hrest := ih (Registry.standard.dispatch s name args).2
    simp only [Script.runAll, hfirst, bareRun, hrest]

lemma run_bare (id : Nat) :
    Script.run .standard (bare s) id = bareRun (Script.run .standard s id) := by
  unfold Script.run
  rw [bare_tree, bare_settings]
  dsimp only
  split
  · rfl
  split
  · rfl
  · split
    · rw [runAll_bare]
      rfl
    · rfl

lemma runFile_bare (name : String) (file : Option Nat) :
    Run.runFile .standard (bare s) name file = bareRun (Run.runFile .standard s name file) := by
  cases file with
  | none => rfl
  | some id =>
    unfold Run.runFile
    rw [bare_tree]
    dsimp only
    split
    · exact run_bare s id
    · rfl

lemma runWords_bare (words : List String) :
    Run.runWords .standard (bare s) words = bareRun (Run.runWords .standard s words) := by
  have hresolve : ∀ path, (bare s).resolve? path = s.resolve? path := fun _ => rfl
  have hfile : ∀ path, Run.relativeFile? (bare s) path = Run.relativeFile? s path := fun _ => rfl
  unfold Run.runWords
  split
  · rfl
  · split
    · rw [hresolve]
      exact runFile_bare s _ _
    · rw [hfile]
      exact runFile_bare s _ _
    · exact dispatch_bare s _ _

lemma runLine_bare (line : String) :
    Run.runLine .standard (bare s) line = bareRun (Run.runLine .standard s line) := by
  unfold Run.runLine
  rw [runWords_bare]
  rfl

end Lines

/-! ### Shells -/

/-- The shell of the session without its store. -/
def bareShell (sh : Shell σ) : Shell NoStore := ⟨bare sh.session, sh.presses⟩

/-- What is seen of a shell between two operations. -/
structure View where
  prompt : String
  cwd : List String
  user : String
  history : History
  deriving DecidableEq, Repr

def view (sh : Shell σ) : View :=
  ⟨sh.session.prompt, sh.session.cwd, sh.session.user, sh.session.history⟩

/-- The answer to each operation of a run, and what is seen of the shell after it. -/
def transcript (sh : Shell σ) : List Operation → List (Answer × View)
  | [] => []
  | op :: ops => ((perform sh op).1, view (perform sh op).2) :: transcript (perform sh op).2 ops

lemma record_bare (s : Session σ) (line : String) :
    (bare s).record line = bare (s.record line) := by
  unfold Session.record
  rw [bare_history]
  split <;> rfl

section Shells

variable (sh : Shell σ)

omit [KeyValueStore σ] in
lemma ofSession_bare (s : Session σ) : .ofSession (bare s) = bareShell (.ofSession s) := rfl

omit [KeyValueStore σ] in
lemma view_bare : view (bareShell sh) = view sh := rfl

lemma execute_bare (line : String) :
    (bareShell sh).execute line = ((sh.execute line).1, bareShell (sh.execute line).2) := by
  have hsession : (bareShell sh).session = bare sh.session := rfl
  have hprompt : (bareShell sh).prompt = sh.prompt := rfl
  unfold Shell.execute
  dsimp only
  rw [hsession, hprompt, runLine_bare]
  by_cases hblank : Text.trim line = ""
  · rw [if_pos hblank, if_pos hblank]
  · rw [if_neg hblank, if_neg hblank]
    cases Run.runLine .standard sh.session (Text.trim line)
    rfl

lemma submit_bare (line : String) :
    (bareShell sh).submit line = ((sh.submit line).1, bareShell (sh.submit line).2) := by
  have hsession : (bareShell sh).session = bare sh.session := rfl
  unfold Shell.submit
  dsimp only
  rw [hsession, record_bare]
  split
  · exact execute_bare sh _
  · exact execute_bare { sh with session := sh.session.record (Text.trim line) } _

lemma launch_bare (raw : String) :
    (bareShell sh).launch raw = ((sh.launch raw).1, bareShell (sh.launch raw).2) := by
  have hsettings : (bareShell sh).session.settings = sh.session.settings := rfl
  unfold Shell.launch
  rw [hsettings]
  split
  · rfl
  · rw [execute_bare]

lemma perform_bare (op : Operation) :
    perform (bareShell sh) op = ((perform sh op).1, bareShell (perform sh op).2) := by
  cases op with
  | submit line =>
    simp only [perform, submit_bare, Prod.map_apply, Prod.map_fst, Prod.map_snd, id_eq]
  | execute line =>
    simp only [perform, execute_bare, Prod.map_apply, Prod.map_fst, Prod.map_snd, id_eq]
  | launch raw =>
    simp only [perform, launch_bare, Prod.map_apply, Prod.map_fst, Prod.map_snd, id_eq]
  | complete buffer cursor now => rfl
  | back => rfl
  | forward => rfl
  | lastArgument => rfl

lemma transcript_bare (ops : List Operation) :
    transcript (bareShell sh) ops = transcript sh ops := by
  induction ops generalizing sh with
  | nil => rfl
  | cons op ops ih =>
    rw [transcript, transcript, perform_bare, view_bare, ih]

end Shells

/-! ### Two stores -/

/-- Two stores that answer the reads of a session's start alike. -/
def SameReads (a : σ) (b : τ) : Prop :=
  ∀ key ∈ [userKey, directoryKey, historyKey], get? a key = get? b key

section Starting

variable {a : σ} {b : τ} (h : SameReads a b) (settings : Settings) (posts : List Post)
  (render : String → String)
include h

lemma SameReads.texts?_eq {key : String} (hkey : key ∈ [userKey, directoryKey, historyKey]) :
    texts? a key = texts? b key := by
  rw [texts?, texts?, h key hkey]

lemma SameReads.bare_started (base : Tree) :
    bare (started settings base posts a render) = bare (started settings base posts b render) := by
  have huser : restoreUser settings a = restoreUser settings b := by
    rw [restoreUser, restoreUser, h userKey (by simp)]
  have hhistory : restoreHistory settings a = restoreHistory settings b := by
    rw [restoreHistory, restoreHistory, h.texts?_eq (by simp)]
  have hplace : ∀ t user, (restorePlace t user a).1 = (restorePlace t user b).1 := by
    intro t user
    unfold restorePlace
    rw [h.texts?_eq (by simp)]
    split <;> rfl
  simp only [bare, started, restore, huser, hhistory, hplace]

/-- Whatever two stores do with what is written to them, over both a shell starts alike, and every
operation of a run is answered alike and leaves the same to be seen. -/
theorem run_unseen_by_store (seed : Seed) (ops : List Operation) :
    (Shell.boot settings seed posts a render).map (fun sh => (view sh, transcript sh ops)) =
      (Shell.boot settings seed posts b render).map fun sh => (view sh, transcript sh ops) := by
  unfold Shell.boot Session.boot
  cases Tree.ofSeed seed with
  | error e => rfl
  | ok base =>
    have hbare := h.bare_started settings posts render base
    have hshell : bareShell (.ofSession (started settings base posts a render)) =
        bareShell (.ofSession (started settings base posts b render)) := by
      rw [← ofSession_bare, hbare, ofSession_bare]
    have hview : view (.ofSession (started settings base posts a render)) =
        view (.ofSession (started settings base posts b render)) := by
      rw [← view_bare, hshell, view_bare]
    have htranscript : transcript (.ofSession (started settings base posts a render)) ops =
        transcript (.ofSession (started settings base posts b render)) ops := by
      rw [← transcript_bare, hshell, transcript_bare]
    exact congrArg Except.ok (Prod.ext hview htranscript)

end Starting

/-- One store takes every write and the other refuses all of them. -/
theorem run_unseen_by_readOnly :
    let ops : List Operation := [.submit "su - ada", .submit "cd", .complete "cat a" 5 0, .back]
    SameReads Memory.empty (⟨.empty⟩ : ReadOnly) ∧
      (Shell.boot {} sampleSeed [samplePost] Memory.empty id).map
          (fun sh => (view sh, transcript sh ops)) =
        (Shell.boot {} sampleSeed [samplePost] (⟨.empty⟩ : ReadOnly) id).map
          (fun sh => (view sh, transcript sh ops)) ∧
      (Shell.boot {} sampleSeed [samplePost] (⟨.empty⟩ : ReadOnly) id).map
          (fun sh => (transcript sh ops).map (·.1)) =
        .ok [.shown [.line "earentir@hera:/$ su - ada"], .shown [.line "ada@hera:/$ cd"],
          .completed (.edit "cat a\\ b " 9), .recalled (some "cd")] := by
  have hreads : SameReads Memory.empty (⟨.empty⟩ : ReadOnly) := fun _ _ => rfl
  refine ⟨hreads, run_unseen_by_store hreads {} [samplePost] id sampleSeed _, ?_⟩
  decide +kernel

end SeedShell.Proofs
