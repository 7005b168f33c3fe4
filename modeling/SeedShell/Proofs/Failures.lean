import SeedShell.Proofs.ScriptRuns
import SeedShell.Proofs.StoreIndependence

/-!
# Failures without a trace

What the dispatcher refuses to do it has not begun: wherever a command, a path to a script or the
script itself turns out to be wrong, the session is the one before. Not even a write is tried,
which a store that counts its writes would tell.
-/

namespace SeedShell.Proofs

open Session KeyValueStore

variable {σ : Type}

/-! ### Requests -/

/-- What the dispatcher is asked for: to run the words of a line, or a command of the table. -/
inductive Request where
  | words (words : List String)
  | command (name : String) (args : List String)
  deriving DecidableEq, Repr

def serve [KeyValueStore σ] (s : Session σ) : Request → Ran σ
  | .words words => Run.runWords .standard s words
  | .command name args => Registry.standard.dispatch s name args

/-! ### Counting writes -/

/-- A store with the number of changes that were asked of it, accepted or not. -/
structure Counted (σ : Type) where
  store : σ
  changes : Nat

/-- Passes a change on to the store and counts it. -/
def Counted.change (c : Counted σ) (f : σ → Except StoreError Unit × σ) :
    Except StoreError Unit × Counted σ :=
  ((f c.store).1, ⟨(f c.store).2, c.changes + 1⟩)

instance [KeyValueStore σ] : KeyValueStore (Counted σ) where
  get? c key := get? c.store key
  insert c key value := c.change (insert · key value)
  erase c key := c.change (erase · key)

/-- The session over a store that starts to count. -/
def counted (s : Session σ) : Session (Counted σ) := { s with store := ⟨s.store, 0⟩ }

variable [KeyValueStore σ]

/-- How often serving a request asks the store for a change. -/
def changesAsked (s : Session σ) (request : Request) : Nat :=
  (serve (counted s) request).2.store.changes

lemma serve_bare (s : Session σ) (request : Request) :
    serve (bare s) request = bareRun (serve s request) := by
  cases request with
  | words words => exact runWords_bare s words
  | command name args => exact dispatch_bare s args name

/-- The count is not seen by what is counted. -/
lemma serve_counted_fst (s : Session σ) (request : Request) :
    (serve (counted s) request).1 = (serve s request).1 := by
  have hbare : bare (counted s) = bare s := rfl
  have hcounted := serve_bare (counted s) request
  rw [hbare, serve_bare] at hcounted
  exact (congrArg Prod.fst hcounted).symm

/-! ### What fails -/

section Failing

variable {s : Session σ} {problem : Problem}

lemma changeDirectory_error {args : List String}
    (h : (Command.changeDirectory s args).1 = .error problem) :
    (Command.changeDirectory s args).2 = s := by
  unfold Command.changeDirectory Session.enter at h ⊢
  cases hplace : s.tree.resolve s.cwd s.user (Command.destination args) with
  | none => rfl
  | some place =>
    by_cases hdir : s.tree.isDirectory place.node
    · simp [hplace, hdir] at h
    · simp [hdir]

lemma switchUser_error {args : List String}
    (h : (Command.switchUser s args).1 = .error problem) :
    (Command.switchUser s args).2 = s := by
  unfold Command.switchUser at h ⊢
  split at h
  · split at h
    · next hempty => rw [if_pos hempty]
    · cases h
  · rfl

lemma history_error {args : List String} (h : (Command.history s args).1 = .error problem) :
    (Command.history s args).2 = s := by
  unfold Command.history at h ⊢
  split at h
  · cases h
  · rfl
  · split at h
    · rfl
    · cases h
  · split <;> rfl

lemma dispatch_error {name : String} {args : List String}
    (h : (Registry.standard.dispatch s name args).1 = .error problem) :
    (Registry.standard.dispatch s name args).2 = s := by
  unfold Registry.dispatch at h ⊢
  cases hget : (Registry.standard : Registry σ).get? name with
  | none => rfl
  | some command =>
    rw [hget] at h
    rcases standard_cases hget with ⟨-, rfl⟩ | ⟨-, ⟨-, rfl⟩ | rfl | ⟨answer, rfl⟩⟩
    · exact changeDirectory_error h
    · exact history_error h
    · exact switchUser_error h
    · rfl

omit [KeyValueStore σ] in
/-- A script that has begun does not fail, whatever its commands do. -/
lemma run_error {r : Registry σ} {id : Nat} (h : (Script.run r s id).1 = .error problem) :
    (Script.run r s id).2 = s := by
  unfold Script.run at h ⊢
  dsimp only at h ⊢
  split at h
  · next hexecutable => rw [if_pos hexecutable]
  · next hexecutable =>
    rw [if_neg hexecutable]
    split at h
    · rfl
    · split at h
      · cases h
      · next hshebang => rw [if_neg hshebang]

omit [KeyValueStore σ] in
lemma runFile_error {r : Registry σ} {name : String} {file : Option Nat}
    (h : (Run.runFile r s name file).1 = .error problem) :
    (Run.runFile r s name file).2 = s := by
  cases file with
  | none => rfl
  | some id =>
    unfold Run.runFile at h ⊢
    dsimp only at h ⊢
    split at h
    · next hscript =>
      rw [if_pos hscript]
      exact run_error h
    · next hscript => rw [if_neg hscript]

lemma serve_error {request : Request} (h : (serve s request).1 = .error problem) :
    (serve s request).2 = s := by
  cases request with
  | command name args => exact dispatch_error h
  | words words =>
    unfold serve Run.runWords at h ⊢
    dsimp only at h ⊢
    split at h
    · cases h
    · split at h
      · exact runFile_error h
      · exact runFile_error h
      · exact dispatch_error h

/-- A request that fails leaves the session as it is, with every key of its store, and has asked
the store for no change. -/
theorem failure_leaves_no_trace {request : Request} (h : (serve s request).1 = .error problem) :
    (serve s request).2 = s ∧ changesAsked s request = 0 := by
  have hcounted : (serve (counted s) request).1 = .error problem := by
    rw [serve_counted_fst, h]
  refine ⟨serve_error h, ?_⟩
  rw [changesAsked, serve_error hcounted]
  rfl

end Failing

/-- In the middle of a recall an entry is removed that there is not. Removing one that there is asks
for a change. -/
theorem failure_leaves_no_trace_recall :
    let s := { scriptSession with history := ⟨["pwd", "ls"], 100, 1⟩ }
    (serve s (.words ["history", "-d", "3"])).2 = s ∧
      changesAsked s (.words ["history", "-d", "3"]) = 0 ∧
      changesAsked s (.words ["history", "-d", "2"]) = 1 := by
  have hfails : (serve { scriptSession with history := ⟨["pwd", "ls"], 100, 1⟩ }
      (.words ["history", "-d", "3"])).1 = .error (.usage "history: index out of range") := rfl
  obtain ⟨hsame, hasked⟩ := failure_leaves_no_trace hfails
  exact ⟨hsame, hasked, by decide +kernel⟩

end SeedShell.Proofs
