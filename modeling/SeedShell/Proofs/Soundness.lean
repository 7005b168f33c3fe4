import SeedShell.Proofs.Effects
import SeedShell.Proofs.Resolution

/-!
# Sound sessions

What every run keeps of a session, whatever becomes of its store: the filesystem and the settings
stay, the history fits its capacity, and the current directory is one of the filesystem.
-/

namespace SeedShell.Proofs

open Session KeyValueStore

/-! ### Places -/

/-- The places are the segments of the directories. -/
lemma WellFormed.isPlace_iff {t : Tree} (hw : WellFormed t) {segments : List String} :
    isPlace t segments = true ↔ ∃ dir, t.isDirectory dir ∧ t.segments dir = segments := by
  constructor
  · intro h
    obtain ⟨hsome, hhead⟩ := Bool.and_eq_true_iff.mp h
    obtain ⟨dir, hdir⟩ := Option.isSome_iff_exists.mp hsome
    cases segments with
    | nil => cases hhead
    | cons first names =>
      obtain rfl : first = "/" := by simpa using hhead
      exact ⟨dir, (hw.of_directoryAt? hdir).1, hw.segments_of_directoryAt? hdir⟩
  · rintro ⟨dir, hdir, rfl⟩
    rw [isPlace, hw.directoryAt?_segments hdir]
    rfl

lemma WellFormed.isPlace_resolve {t : Tree} (hw : WellFormed t) {cwd : List String}
    {user path : String} {place : Place} (hcwd : isPlace t cwd = true)
    (h : t.resolve cwd user path = some place) (hdir : t.isDirectory place.node) :
    isPlace t place.segments = true := by
  obtain ⟨dir, -, rfl⟩ := hw.isPlace_iff.mp hcwd
  exact hw.isPlace_iff.mpr ⟨place.node, hdir, hw.segments_of_resolve h⟩

lemma isPlace_fallback (t : Tree) (user : String) : isPlace t (fallback t user) = true := by
  unfold fallback
  split
  · next hhome =>
    rw [isPlace, hhome]
    rfl
  · rfl

variable {σ : Type} [KeyValueStore σ]

lemma isPlace_restorePlace (t : Tree) (user : String) (store : σ) :
    isPlace t (restorePlace t user store).1 = true := by
  unfold restorePlace
  split
  · split
    · next hplace => exact hplace
    · exact isPlace_fallback t user
  · exact isPlace_fallback t user

/-! ### Starting -/

variable {settings : Settings} {seed : Seed} {posts : List Post} {render : String → String}

/-- The session that starts over the tree of a seed, with the posts of the stored user. -/
def started (settings : Settings) (base : Tree) (posts : List Post)
    (store : σ) (render : String → String) : Session σ :=
  restore (base.addPosts (restoreUser settings store) posts).1 settings store render

lemma boot_eq_ok_iff {store : σ} {sh : Shell σ} :
    Shell.boot settings seed posts store render = .ok sh ↔ ∃ base, Tree.ofSeed seed = .ok base ∧
      sh = .ofSession (started settings base posts store render) := by
  unfold Shell.boot Session.boot started
  cases Tree.ofSeed seed with
  | error e => simp [Except.map, bind, Except.bind]
  | ok base => simp [Except.map, bind, Except.bind, pure, Except.pure, eq_comm]

variable {base : Tree} {store : σ}

lemma wellFormed_started (hw : WellFormed base) :
    WellFormed (started settings base posts store render).tree := hw.addPosts ..

/-! ### What a run keeps -/

/-- What holds of a session in every run from `start`. -/
structure Sound (start s : Session σ) : Prop where
  tree : s.tree = start.tree
  settings : s.settings = start.settings
  capacity : s.history.capacity = s.settings.historySize
  length_le : s.history.entries.length ≤ s.history.capacity
  place : isPlace s.tree s.cwd = true

lemma sound_started : Sound (started settings base posts store render)
    (started settings base posts store render) where
  tree := rfl
  settings := rfl
  capacity := rfl
  length_le := length_newest_le ..
  place := isPlace_restorePlace ..

namespace Sound

variable {start s : Session σ} (h : Sound start s)
include h

lemma setUser (user : String) : Sound start (s.setUser user) := { h with }

lemma setPlace {segments : List String} (hplace : isPlace s.tree segments = true) :
    Sound start (s.setPlace segments) := { h with place := hplace }

lemma setHistory {history : History} (hcapacity : history.capacity = s.history.capacity)
    (hlength : history.entries.length ≤ history.capacity) :
    Sound start (s.setHistory history) :=
  { h with capacity := hcapacity.trans h.capacity, length_le := hlength }

omit [KeyValueStore σ] in
lemma move (position : Nat) : Sound start { s with history := { s.history with position } } :=
  { h with }

/-- The effects of commands on a sound session: a directory is always a place, and a history that
is cut still fits. -/
lemma effect_cases (hw : WellFormed start.tree) {e : Bool} {s' : Session σ}
    (heffect : Effect s e s') : (e = false ∧ s' = s) ∨
      (e = true ∧ ∃ segments, isPlace s.tree segments = true ∧ s' = s.setPlace segments) ∨
      (e = false ∧ ∃ user, s' = s.setUser user) ∨
      (e = false ∧ ∃ history : History, history.capacity = s.history.capacity ∧
        history.entries.length ≤ history.capacity ∧ s' = s.setHistory history) := by
  cases heffect with
  | nothing => exact .inl ⟨rfl, rfl⟩
  | @place path place hplace hdir =>
    have hsegments : isPlace s.tree place.segments = true :=
      WellFormed.isPlace_resolve (h.tree ▸ hw) h.place hplace hdir
    exact .inr (.inl ⟨rfl, place.segments, hsegments, rfl⟩)
  | user user => exact .inr (.inr (.inl ⟨rfl, user, rfl⟩))
  | cleared => exact .inr (.inr (.inr ⟨rfl, s.history.clear, rfl, Nat.zero_le _, rfl⟩))
  | @erased number history herased =>
    obtain ⟨hcapacity, hentries⟩ := of_erase?_eq_some herased
    have hlength : history.entries.length ≤ history.capacity := by
      rw [hentries, hcapacity]
      exact Nat.le_trans (List.length_eraseIdx_le ..) h.length_le
    exact .inr (.inr (.inr ⟨rfl, history, hcapacity, hlength, rfl⟩))

lemma record (line : String) : Sound start (s.record line) := by
  unfold Session.record History.record
  split
  · exact h.setHistory rfl (length_newest_le ..)
  · exact h.move _

lemma effect (hw : WellFormed start.tree) {e : Bool} {s' : Session σ} (heffect : Effect s e s') :
    Sound start s' := by
  rcases h.effect_cases hw heffect with ⟨-, rfl⟩ | ⟨-, segments, hplace, rfl⟩ |
    ⟨-, user, rfl⟩ | ⟨-, history, hcapacity, hlength, rfl⟩
  · exact h
  · exact h.setPlace hplace
  · exact h.setUser user
  · exact h.setHistory hcapacity hlength

end Sound

lemma kept_sound {start : Session σ} (hw : WellFormed start.tree) :
    Kept fun _ s => Sound start s where
  commands _ _ _ _ h heffect := h.effect hw heffect
  record h line := h.record line
  move h position := h.move position

/-! ### Reachable sessions -/

/-- The session of a shell after some run. -/
def Reachable (s : Session σ) : Prop :=
  ∃ (settings : Settings) (seed : Seed) (posts : List Post) (store : σ)
    (render : String → String) (sh : Shell σ) (ops : List Operation),
    Shell.boot settings seed posts store render = .ok sh ∧ (after sh ops).session = s

namespace Reachable

variable {s : Session σ} (h : Reachable s)
include h

lemma grown_and_isPlace : Grown s.tree ∧ isPlace s.tree s.cwd = true := by
  obtain ⟨settings, seed, posts, store, render, sh, ops, hboot, rfl⟩ := h
  obtain ⟨base, hseed, rfl⟩ := boot_eq_ok_iff.mp hboot
  have hgrown : Grown (started settings base posts store render).tree :=
    (Grown.ofSeed hseed).addPosts _ posts
  have hsound : Sound (started settings base posts store render)
      (after (.ofSession (started settings base posts store render)) ops).session :=
    (kept_sound hgrown.wellFormed).after (.ofSession _) (b := false) sound_started ops
  exact ⟨hsound.tree ▸ hgrown, hsound.place⟩

lemma wellFormed : WellFormed s.tree := h.grown_and_isPlace.1.wellFormed

lemma directoryAt?_cwd : s.tree.directoryAt? s.cwd = some s.cwdNode := by
  obtain ⟨dir, hdir, hcwd⟩ := h.wellFormed.isPlace_iff.mp h.grown_and_isPlace.2
  have hat : s.tree.directoryAt? s.cwd = some dir := by
    rw [← hcwd, h.wellFormed.directoryAt?_segments hdir]
  rw [cwdNode, hat, Option.getD_some]

lemma isDirectory_cwdNode : s.tree.isDirectory s.cwdNode :=
  (h.wellFormed.of_directoryAt? h.directoryAt?_cwd).1

end Reachable

end SeedShell.Proofs
