import SeedShell.Proofs.Persistence

/-!
# Starting again

A shell that is started again over the store that a run left has the user and the history of the
run. It is in the same directory unless a stale place is still stored: then both sessions stand
where their users fall back to. Posts go to the blog of the stored user, which may be another one
now, but they are files and no directory moves.
-/

namespace SeedShell.Proofs

open Session KeyValueStore

/-! ### Posts and directories -/

section Posts

variable {t t' : Tree}

/-- A new file is in no list but that of its directory. -/
lemma mem_children_attach_file {parent : Nat} {name : String} {attributes : Attributes}
    {content : List String} (hdir : t.isDirectory parent) {dir child : Nat}
    (hchild : child ≠ t.size) :
    child ∈ ((t.attach parent name attributes (.file content)).node dir).children ↔
      child ∈ (t.node dir).children := by
  rw [children_attach hdir]
  split
  · next hnew =>
    rw [hnew, node_of_size_le (Nat.le_refl t.size)]
    rfl
  · split
    · simp [hchild]
    · rfl

/-- A new file changes no way from directory to directory. -/
lemma WellFormed.childDirectory?_add_file (hw : WellFormed t) {parent : Nat} {name : String}
    {attributes : Attributes} {content : List String}
    (h : t.add parent name attributes (.file content) = .ok t') :
    t'.childDirectory? = t.childDirectory? := by
  have hw' : WellFormed t' := hw.add rfl h
  obtain ⟨-, hdir, rfl⟩ := add_eq_ok h
  funext dir segment
  ext child
  rw [hw'.childDirectory?_eq_some_iff, hw.childDirectory?_eq_some_iff]
  by_cases hchild : child = t.size
  · subst hchild
    have hfile : (t.attach parent name attributes (.file content)).isDirectory t.size = false :=
      isDirectory_attach_new
    simp [hfile, hw.notMem_size dir]
  · rw [mem_children_attach_file hdir hchild, name_attach hchild, isDirectory_attach hchild]

lemma WellFormed.childDirectory?_addPosts (hw : WellFormed t) (user : String)
    (posts : List Post) : (t.addPosts user posts).1.childDirectory? = t.childDirectory? := by
  have hposts := addPosts_induction
    (P := fun grown => WellFormed grown ∧ grown.childDirectory? = t.childDirectory?)
    (fun ⟨hgrown, hsame⟩ h =>
      ⟨hgrown.add rfl h, (hgrown.childDirectory?_add_file h).trans hsame⟩)
    ⟨hw, rfl⟩ user posts
  exact hposts.2

lemma WellFormed.directoryAt?_addPosts (hw : WellFormed t) (user : String) (posts : List Post)
    (segments : List String) :
    (t.addPosts user posts).1.directoryAt? segments = t.directoryAt? segments := by
  unfold Tree.directoryAt?
  rw [hw.childDirectory?_addPosts]

lemma WellFormed.isPlace_addPosts (hw : WellFormed t) (user : String) (posts : List Post)
    (segments : List String) :
    isPlace (t.addPosts user posts).1 segments = isPlace t segments := by
  rw [isPlace, isPlace, hw.directoryAt?_addPosts]

lemma WellFormed.fallback_addPosts (hw : WellFormed t) (poster : String) (posts : List Post)
    (user : String) : fallback (t.addPosts poster posts).1 user = fallback t user := by
  rw [fallback, fallback, hw.directoryAt?_addPosts]

end Posts

/-! ### Prompts -/

section Prompts

variable {σ : Type} {s s' : Session σ}

lemma shownPath_of_root (h : s.cwd = ["/"]) : s.shownPath = "/" := by
  simp [shownPath, h]

lemma shownPath_of_home {user : String} (h : s.cwd = Tree.homeOf user) :
    s.shownPath = if user = s.user then "~" else "/home/" ++ user := by
  have hjoin : "/" ++ Text.join "/" ["home", user] = "/home/" ++ user := by
    have hhome : Text.join "/" ["home", user] = "home" ++ "/" ++ user := rfl
    rw [hhome, ← String.append_assoc]
    rfl
  by_cases huser : user = s.user
  · simp [shownPath, h, Tree.homeOf, huser]
  · simp [shownPath, h, Tree.homeOf, huser, hjoin]

lemma shownPath_congr (hcwd : s'.cwd = s.cwd) (huser : s'.user = s.user) :
    s'.shownPath = s.shownPath := by
  rw [shownPath, shownPath, hcwd, huser]

lemma prompt_eq_iff (huser : s'.user = s.user) (hsettings : s'.settings = s.settings) :
    s'.prompt = s.prompt ↔ s'.shownPath = s.shownPath := by
  rw [Session.prompt, Session.prompt, huser, hsettings, String.append_left_inj,
    String.append_right_inj]

/-- A prompt tells the places apart that users fall back to. -/
lemma cwd_eq_of_shownPath_eq {t : Tree} {user : String} (huser : s'.user = s.user)
    (hs' : s'.cwd = fallback t s.user) (hs : s.cwd = fallback t user)
    (h : s'.shownPath = s.shownPath) : s'.cwd = s.cwd := by
  unfold fallback at hs hs'
  split at hs' <;> split at hs
  · rw [shownPath_of_home hs', shownPath_of_home hs, huser, if_pos rfl] at h
    by_cases hsame : user = s.user
    · rw [hs', hs, hsame]
    · rw [if_neg hsame] at h
      have hchars := congrArg String.toList h
      simp at hchars
  · rw [shownPath_of_home hs', shownPath_of_root hs, huser, if_pos rfl] at h
    exact absurd h (by decide)
  · rw [shownPath_of_root hs', shownPath_of_home hs] at h
    have hchars := congrArg String.toList h
    by_cases hsame : user = s.user <;> simp [hsame] at hchars
  · rw [hs', hs]

end Prompts

/-! ### The store that a run left -/

/-- No stale place is left in the store, or `user` falls back to where the user of the start
did. -/
def Settled (start : Session Memory) (initial : Memory) (entered : Bool) (user : String) : Prop :=
  Stale start.tree initial → entered = false →
    fallback start.tree user = fallback start.tree start.user

namespace Steady

variable {settings : Settings} {base : Tree} {posts : List Post} {initial : Memory}
  {render : String → String} {b : Bool} {left : Session Memory}
  (h : Steady (started settings base posts initial render) b left)
include h

lemma restoreUser_eq : restoreUser settings left.store = left.user := by
  rcases h.agrees.user with hkey | ⟨hkey, huser⟩
  · rw [restoreUser, hkey, Option.getD_some]
  · rw [restoreUser, hkey, Option.getD_none, huser]

lemma entries_again :
    (started settings base posts left.store render).history.entries = left.history.entries :=
  h.agrees.history.symm

variable (hw : WellFormed base)
include hw

/-- A place that is stored is found again. -/
lemma cwd_again (hmoved : ¬(Stale (started settings base posts initial render).tree initial ∧
    b = false)) : (started settings base posts left.store render).cwd = left.cwd := by
  have htexts : texts? left.store directoryKey = some left.cwd := by
    rcases h.agrees.directory with htexts | ⟨-, hstale, hb⟩
    · exact htexts
    · exact absurd ⟨h.tree ▸ hstale, hb⟩ hmoved
  have hplace : isPlace base left.cwd = true := by
    have hleft := h.place
    rw [h.tree] at hleft
    exact (hw.isPlace_addPosts ..).symm.trans hleft
  have hagain : restorePlace (started settings base posts left.store render).tree
      (restoreUser settings left.store) left.store = (left.cwd, left.store) :=
    restorePlace_of_isPlace htexts ((hw.isPlace_addPosts ..).trans hplace)
  exact congrArg Prod.fst hagain

/-- A stale place that is left makes both sessions fall back, each to the home of its user. -/
lemma cwd_again_of_stale (hstale : Stale (started settings base posts initial render).tree initial)
    (hb : b = false) :
    left.cwd = fallback base (started settings base posts initial render).user ∧
      (started settings base posts left.store render).cwd = fallback base left.user := by
  obtain ⟨hcwd, hkey⟩ := h.unmoved hb
  have hstart : restorePlace (started settings base posts initial render).tree
      (restoreUser settings initial) initial =
        (fallback (started settings base posts initial render).tree
          (restoreUser settings initial), initial) := restorePlace_of_stale hstale
  have hstore : (started settings base posts initial render).store = initial :=
    congrArg Prod.snd hstart
  -- neither the start nor the run has written a place
  have hleft : Stale (started settings base posts left.store render).tree left.store := by
    obtain ⟨segments, hsegments, hplace⟩ := hstale
    refine ⟨segments, ?_, ?_⟩
    · rw [texts?_congr hkey, hstore, hsegments]
    · exact (hw.isPlace_addPosts ..).trans ((hw.isPlace_addPosts ..).symm.trans hplace)
  constructor
  · rw [hcwd]
    exact (congrArg Prod.fst hstart).trans (hw.fallback_addPosts ..)
  · rw [← h.restoreUser_eq]
    exact (congrArg Prod.fst (restorePlace_of_stale hleft)).trans (hw.fallback_addPosts ..)

lemma cwd_again_iff : (started settings base posts left.store render).cwd = left.cwd ↔
    Settled (started settings base posts initial render) initial b left.user := by
  by_cases hwaits : Stale (started settings base posts initial render).tree initial ∧ b = false
  · obtain ⟨hleft, hagain⟩ := h.cwd_again_of_stale hw hwaits.1 hwaits.2
    have hfallback : ∀ user, fallback (started settings base posts initial render).tree user =
      fallback base user := hw.fallback_addPosts _ posts
    rw [hleft, hagain, ← hfallback, ← hfallback]
    exact ⟨fun hsame _ _ => hsame, fun hsettled => hsettled hwaits.1 hwaits.2⟩
  · exact iff_of_true (h.cwd_again hw hwaits) fun hstale hb => absurd ⟨hstale, hb⟩ hwaits

lemma prompt_again_iff : (started settings base posts left.store render).prompt = left.prompt ↔
    Settled (started settings base posts initial render) initial b left.user := by
  have huser : (started settings base posts left.store render).user = left.user :=
    h.restoreUser_eq
  rw [← h.cwd_again_iff hw, prompt_eq_iff huser h.settings.symm]
  constructor
  · intro hshown
    by_cases hwaits : Stale (started settings base posts initial render).tree initial ∧ b = false
    · obtain ⟨hleft, hagain⟩ := h.cwd_again_of_stale hw hwaits.1 hwaits.2
      exact cwd_eq_of_shownPath_eq huser hagain hleft hshown
    · exact h.cwd_again hw hwaits
  · intro hcwd
    exact shownPath_congr hcwd huser

end Steady

variable {settings : Settings} {seed : Seed} {posts : List Post} {render : String → String}
  {initial : Memory}

/-- A shell that is started again over the store of a run has its user and its history, and it has
its directory and its prompt exactly if the store is settled. -/
theorem reload_iff {sh : Shell Memory}
    (h : Shell.boot settings seed posts initial render = .ok sh) (ops : List Operation) :
    ∃ again : Shell Memory,
      Shell.boot settings seed posts (after sh ops).session.store render = .ok again ∧
      again.session.user = (after sh ops).session.user ∧
      again.session.history.entries = (after sh ops).session.history.entries ∧
      (again.session.cwd = (after sh ops).session.cwd ↔
        Settled sh.session initial (entered sh ops) (after sh ops).session.user) ∧
      (again.prompt = (after sh ops).prompt ↔
        Settled sh.session initial (entered sh ops) (after sh ops).session.user) := by
  obtain ⟨base, hseed, rfl⟩ := boot_eq_ok_iff.mp h
  have hw := wellFormed_ofSeed hseed
  have hstart : WellFormed (started settings base posts initial render).tree :=
    wellFormed_started hw
  have hsteady := steady_after hstart steady_started ops
  exact ⟨_, boot_eq_ok_iff.mpr ⟨base, hseed, rfl⟩, hsteady.restoreUser_eq, hsteady.entries_again,
    hsteady.cwd_again_iff hw, hsteady.prompt_again_iff hw⟩

/-- A directory is entered, so the stale place is gone. -/
theorem reload_iff_entered : ∃ again : Shell Memory, Shell.boot {} sampleSeed [samplePost]
    (after staleShell [.submit "su - ada", .submit "cd /etc"]).session.store id = .ok again ∧
      again.session.cwd = ["/", "etc"] ∧ again.prompt = "ada@hera:/etc$ " := by
  obtain ⟨again, hagain, -, -, hcwd, hprompt⟩ :=
    reload_iff boot_staleShell [.submit "su - ada", .submit "cd /etc"]
  have hentered : entered staleShell [.submit "su - ada", .submit "cd /etc"] = true := by
    decide +kernel
  have hsettled : Settled staleShell.session staleStore
      (entered staleShell [.submit "su - ada", .submit "cd /etc"])
      (after staleShell [.submit "su - ada", .submit "cd /etc"]).session.user := by
    rw [hentered]
    exact fun _ => nofun
  refine ⟨again, hagain, ?_, ?_⟩
  · rw [hcwd.mpr hsettled]
    decide +kernel
  · rw [hprompt.mpr hsettled]
    decide +kernel

/-- The user changes while a stale place is stored, and the next session starts in the home of the
new one. -/
theorem reload_moves : Shell.boot {} sampleSeed [samplePost] staleStore id = .ok staleShell ∧
    (after staleShell [.submit "su - ada"]).session.cwd = ["/"] ∧
    (after staleShell [.submit "su - ada"]).prompt = "ada@hera:/$ " ∧
    ∃ again : Shell Memory, Shell.boot {} sampleSeed [samplePost]
      (after staleShell [.submit "su - ada"]).session.store id = .ok again ∧
        again.session.cwd = ["/", "home", "ada"] ∧ again.prompt = "ada@hera:~$ " := by
  refine ⟨boot_staleShell, by decide +kernel, by decide +kernel, ?_⟩
  exact ⟨_, boot_eq_ok_iff.mpr ⟨sampleTree, ofSeed_sampleSeed, rfl⟩, by decide +kernel,
    by decide +kernel⟩

end SeedShell.Proofs
