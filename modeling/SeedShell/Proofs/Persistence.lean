import SeedShell.Proofs.Soundness
import SeedShell.Proofs.StoredTexts
import SeedShell.Store.Memory

/-!
# The session in its store

The user, the history and the place of a session are stored by different operations. Over a
table in memory every run leaves in the store what the session holds. Only a stored place that was
no directory when the session started may stay there, until a directory is entered.
-/

namespace SeedShell.Proofs

open Session KeyValueStore

/-- The stored list of segments leads to no directory from the root's slash on. -/
def Stale (t : Tree) (store : Memory) : Prop :=
  ∃ segments, texts? store directoryKey = some segments ∧ isPlace t segments = false

/-- The session and its store hold the same, if `initial` was stored before the session started
and `entered` tells whether a directory was entered since then. -/
structure Agrees (settings : Settings) (initial : Memory) (entered : Bool)
    (s : Session Memory) : Prop where
  user : get? s.store userKey = some s.user ∨
    get? s.store userKey = none ∧ s.user = settings.defaultUser
  history : s.history.entries =
    History.newest settings.historySize ((texts? s.store historyKey).getD [])
  directory : texts? s.store directoryKey = some s.cwd ∨
    get? s.store directoryKey = get? initial directoryKey ∧ Stale s.tree initial ∧ entered = false
  other : ∀ key, key ≠ userKey → key ≠ directoryKey → key ≠ historyKey →
    get? s.store key = get? initial key

/-! ### Tables -/

section Tables

variable (m : Memory) (key : String)

lemma get?_insert_self (value : String) : get? (insert m key value).2 key = some value :=
  (Memory.get?_insert m key value key).trans (if_pos rfl)

variable {key} in
lemma get?_insert_of_ne (value : String) {other : String} (h : other ≠ key) :
    get? (insert m key value).2 other = get? m other :=
  (Memory.get?_insert m key value other).trans (if_neg h)

lemma texts?_insertTexts_self (texts : List String) :
    texts? (insertTexts m key texts).2 key = some texts := by
  rw [texts?, insertTexts, get?_insert_self]
  exact decodeTexts?_ofStrings texts

variable {m key} in
lemma texts?_congr {m' : Memory} (h : get? m key = get? m' key) : texts? m key = texts? m' key := by
  rw [texts?, texts?, h]

end Tables

/-! ### Starting -/

section Starting

variable {t : Tree} {user : String} {m : Memory}

lemma restorePlace_of_isPlace {segments : List String} (h : texts? m directoryKey = some segments)
    (hplace : isPlace t segments = true) : restorePlace t user m = (segments, m) := by
  simp only [restorePlace, h, hplace, if_true]

lemma restorePlace_of_stale (h : Stale t m) : restorePlace t user m = (fallback t user, m) := by
  obtain ⟨segments, hsegments, hplace⟩ := h
  simp only [restorePlace, hsegments, hplace]
  rfl

lemma get?_restorePlace {key : String} (h : key ≠ directoryKey) :
    get? (restorePlace t user m).2 key = get? m key := by
  unfold restorePlace
  split
  · rfl
  · exact get?_insert_of_ne m _ h

variable (t user m) in
/-- The place that a session starts from is stored, unless a stale one is. -/
lemma restorePlace_cases :
    texts? (restorePlace t user m).2 directoryKey = some (restorePlace t user m).1 ∨
      restorePlace t user m = (fallback t user, m) ∧ Stale t m := by
  cases htexts : texts? m directoryKey with
  | none =>
    rw [restorePlace, htexts]
    exact .inl (texts?_insertTexts_self m directoryKey _)
  | some segments =>
    cases hplace : isPlace t segments with
    | true =>
      rw [restorePlace_of_isPlace htexts hplace]
      exact .inl htexts
    | false =>
      have hstale : Stale t m := ⟨segments, htexts, hplace⟩
      exact .inr ⟨restorePlace_of_stale hstale, hstale⟩

end Starting

variable {settings : Settings} {seed : Seed} {base : Tree} {posts : List Post} {initial : Memory}
  {render : String → String}

/-! ### What a run keeps -/

/-- What holds of a session and its store in every run from `start`, where `entered` tells whether
a directory was entered on the way. -/
structure Steady (start : Session Memory) (entered : Bool) (s : Session Memory) : Prop
    extends Sound start s where
  user : get? s.store userKey = some s.user ∨
    get? s.store userKey = none ∧ s.user = s.settings.defaultUser
  history : s.history.entries =
    History.newest s.history.capacity ((texts? s.store historyKey).getD [])
  moved : entered = true → texts? s.store directoryKey = some s.cwd
  unmoved : entered = false →
    s.cwd = start.cwd ∧ get? s.store directoryKey = get? start.store directoryKey
  other : ∀ key, key ≠ userKey → key ≠ directoryKey → key ≠ historyKey →
    get? s.store key = get? start.store key

lemma steady_started : Steady (started settings base posts initial render) false
    (started settings base posts initial render) where
  toSound := sound_started
  user := by
    have hkey : get? (started settings base posts initial render).store userKey =
      get? initial userKey := get?_restorePlace (by decide)
    rw [hkey]
    cases huser : get? initial userKey with
    | none => exact .inr ⟨rfl, by simp [started, restore, restoreUser, huser]⟩
    | some user => exact .inl (by simp [started, restore, restoreUser, huser])
  history := by
    have hkey : get? (started settings base posts initial render).store historyKey =
      get? initial historyKey := get?_restorePlace (by decide)
    rw [texts?_congr hkey]
    rfl
  moved := nofun
  unmoved _ := ⟨rfl, rfl⟩
  other _ _ _ _ := rfl

section Frames

variable (s : Session Memory) {key : String}

lemma get?_setUser (user : String) (h : key ≠ userKey) :
    get? (s.setUser user).store key = get? s.store key := get?_insert_of_ne s.store user h

lemma get?_setPlace (segments : List String) (h : key ≠ directoryKey) :
    get? (s.setPlace segments).store key = get? s.store key := get?_insert_of_ne s.store _ h

lemma get?_setHistory (history : History) (h : key ≠ historyKey) :
    get? (s.setHistory history).store key = get? s.store key := get?_insert_of_ne s.store _ h

end Frames

namespace Steady

variable {start s : Session Memory} {b : Bool} (h : Steady start b s)
include h

lemma setUser (user : String) : Steady start b (s.setUser user) := by
  have hdirectory : get? (s.setUser user).store directoryKey = get? s.store directoryKey :=
    get?_setUser s user (by decide)
  have hhistory : get? (s.setUser user).store historyKey = get? s.store historyKey :=
    get?_setUser s user (by decide)
  refine ⟨h.toSound.setUser user, .inl (get?_insert_self ..), ?_, ?_, ?_, ?_⟩
  · rw [texts?_congr hhistory]
    exact h.history
  · rw [texts?_congr hdirectory]
    exact h.moved
  · rw [hdirectory]
    exact h.unmoved
  · intro key huser
    rw [get?_setUser s user huser]
    exact h.other key huser

lemma setPlace {segments : List String} (hplace : isPlace s.tree segments = true) :
    Steady start true (s.setPlace segments) := by
  have huser : get? (s.setPlace segments).store userKey = get? s.store userKey :=
    get?_setPlace s segments (by decide)
  have hhistory : get? (s.setPlace segments).store historyKey = get? s.store historyKey :=
    get?_setPlace s segments (by decide)
  have hdirectory : texts? (s.setPlace segments).store directoryKey = some segments :=
    texts?_insertTexts_self ..
  refine ⟨h.toSound.setPlace hplace, ?_, ?_, fun _ => hdirectory, nofun, ?_⟩
  · rw [huser]
    exact h.user
  · rw [texts?_congr hhistory]
    exact h.history
  · intro key huser hkey
    rw [get?_setPlace s segments hkey]
    exact h.other key huser hkey

lemma setHistory {history : History} (hcapacity : history.capacity = s.history.capacity)
    (hlength : history.entries.length ≤ history.capacity) :
    Steady start b (s.setHistory history) := by
  have huser : get? (s.setHistory history).store userKey = get? s.store userKey :=
    get?_setHistory s history (by decide)
  have hdirectory : get? (s.setHistory history).store directoryKey = get? s.store directoryKey :=
    get?_setHistory s history (by decide)
  have hhistory : texts? (s.setHistory history).store historyKey = some history.entries :=
    texts?_insertTexts_self ..
  refine ⟨h.toSound.setHistory hcapacity hlength, ?_, ?_, ?_, ?_, ?_⟩
  · rw [huser]
    exact h.user
  · rw [hhistory]
    exact (newest_of_length_le hlength).symm
  · rw [texts?_congr hdirectory]
    exact h.moved
  · rw [hdirectory]
    exact h.unmoved
  · intro key huser hdirectory hkey
    rw [get?_setHistory s history hkey]
    exact h.other key huser hdirectory hkey

lemma move (position : Nat) :
    Steady start b { s with history := { s.history with position } } :=
  ⟨h.toSound.move position, h.user, h.history, h.moved, h.unmoved, h.other⟩

lemma record (line : String) : Steady start b (s.record line) := by
  unfold Session.record History.record
  split
  · exact h.setHistory rfl (length_newest_le ..)
  -- a line that is not kept moves the position all the same
  · exact h.move _

lemma effect (hw : WellFormed start.tree) {e : Bool} {s' : Session Memory}
    (heffect : Effect s e s') : Steady start (b || e) s' := by
  rcases h.effect_cases hw heffect with ⟨rfl, rfl⟩ | ⟨rfl, segments, hplace, rfl⟩ |
    ⟨rfl, user, rfl⟩ | ⟨rfl, history, hcapacity, hlength, rfl⟩
  · rwa [Bool.or_false]
  · rw [Bool.or_true]
    exact h.setPlace hplace
  · rw [Bool.or_false]
    exact h.setUser user
  · rw [Bool.or_false]
    exact h.setHistory hcapacity hlength

end Steady

lemma kept_steady {start : Session Memory} (hw : WellFormed start.tree) : Kept (Steady start) where
  commands _ _ _ _ h heffect := h.effect hw heffect
  record h line := h.record line
  move h position := h.move position

lemma steady_after {start : Session Memory} (hw : WellFormed start.tree)
    (hstart : Steady start false start) (ops : List Operation) :
    Steady start (entered (.ofSession start) ops) (after (.ofSession start) ops).session := by
  have hrun := (kept_steady hw).after (.ofSession start) hstart ops
  rwa [Bool.false_or] at hrun

lemma Steady.agrees {b : Bool} {s : Session Memory}
    (h : Steady (started settings base posts initial render) b s) :
    Agrees settings initial b s where
  user := by
    have hsettings : s.settings = settings := h.settings
    rw [← hsettings]
    exact h.user
  history := by
    have hcapacity : s.history.capacity = settings.historySize :=
      h.capacity.trans (congrArg Settings.historySize h.settings)
    rw [← hcapacity]
    exact h.history
  directory := by
    cases b with
    | true => exact .inl (h.moved rfl)
    | false =>
      obtain ⟨hcwd, hkey⟩ := h.unmoved rfl
      rcases restorePlace_cases (started settings base posts initial render).tree
        (restoreUser settings initial) initial with hstored | ⟨hstart, hstale⟩
      · rw [texts?_congr hkey, hcwd]
        exact .inl hstored
      · have hinitial : (started settings base posts initial render).store = initial :=
          congrArg Prod.snd hstart
        rw [hkey, hinitial, h.tree]
        exact .inr ⟨rfl, hstale, rfl⟩
  other key huser hdirectory hhistory := by
    rw [h.other key huser hdirectory hhistory]
    exact get?_restorePlace hdirectory

/-- Every run leaves in the store what the session holds: its user, its history and, unless it
waits for a directory to be entered, its place. -/
theorem run_agrees {sh : Shell Memory}
    (h : Shell.boot settings seed posts initial render = .ok sh) (ops : List Operation) :
    Agrees settings initial (entered sh ops) (after sh ops).session := by
  obtain ⟨base, hseed, rfl⟩ := boot_eq_ok_iff.mp h
  have hw : WellFormed (started settings base posts initial render).tree :=
    wellFormed_started (wellFormed_ofSeed hseed)
  have hsteady := steady_after hw steady_started ops
  exact hsteady.agrees

def staleStore : Memory := .insert .empty directoryKey (Json.ofStrings ["/", "gone"])

/-- The shell over `staleStore`: its user has no home, so it stands at the root. -/
def staleShell : Shell Memory := .ofSession (started {} sampleTree [samplePost] staleStore id)

lemma boot_staleShell : Shell.boot {} sampleSeed [samplePost] staleStore id = .ok staleShell :=
  boot_eq_ok_iff.mpr ⟨sampleTree, ofSeed_sampleSeed, rfl⟩

/-- No directory is entered and the stale place stays. -/
theorem run_agrees_stale : Shell.boot {} sampleSeed [samplePost] staleStore id = .ok staleShell ∧
    Agrees {} staleStore false (after staleShell [.submit "su - ada", .submit "cd gone"]).session := by
  have hentered : entered staleShell [.submit "su - ada", .submit "cd gone"] = false := by
    decide +kernel
  have hagrees := run_agrees boot_staleShell [.submit "su - ada", .submit "cd gone"]
  rw [hentered] at hagrees
  exact ⟨boot_staleShell, hagrees⟩

end SeedShell.Proofs
