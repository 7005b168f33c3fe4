import SeedShell.Proofs.Persistence
import SeedShell.Proofs.ScriptRuns
import SeedShell.Proofs.Texts
import SeedShell.Store.File
import SeedShell.Store.Page

/-!
# What running a line leaves alone

Running a line, be it a command, a script or a launch, leaves the filesystem and the settings. It
takes entries out of the history only where it is told to and puts none in, and it writes under
the keys of the session alone. The history grows by what is typed at the prompt and by nothing
else.
-/

namespace SeedShell.Proofs

open Session KeyValueStore

/-! ### Writes under one key -/

/-- A write, accepted or refused, changes nothing under other keys. -/
class WritesLocally (σ : Type) [KeyValueStore σ] : Prop where
  get?_insert_of_ne (store : σ) {key other : String} (value : String) (h : other ≠ key) :
    get? (insert store key value).2 other = get? store other

instance : WritesLocally Memory where
  get?_insert_of_ne table _ _ value h := get?_insert_of_ne table value h

instance : WritesLocally ReadOnly where
  get?_insert_of_ne _ _ _ _ _ := rfl

instance : WritesLocally FileStore where
  get?_insert_of_ne store _ _ value h := get?_insert_of_ne store.table value h

instance : WritesLocally PageStore where
  get?_insert_of_ne store key other value h := by
    have hinsert : insert store key value =
        store.change (.notKept key) (·.insert key value) := rfl
    have hget : ∀ store' : PageStore, get? store' other = store'.get? other := fun _ => rfl
    rw [hinsert, hget, hget, PageStore.change, PageStore.get?, PageStore.get?]
    cases hstandIn : store.standIn with
    | some table => exact get?_insert_of_ne table value h
    | none =>
      by_cases hfull : store.page.keeping = .full
      · simp [hfull, hstandIn]
      · have hkept : (store.page.kept.insert key value).get? other =
            store.page.kept.get? other := get?_insert_of_ne store.page.kept value h
        simp [hfull, hkept]

/-- The keys under which a session writes. -/
def sessionKeys : List String := [userKey, directoryKey, historyKey]

/-! ### Frames -/

/-- The call is `history -c` or `history -d`. -/
def Call.cutsHistory (c : Call) : Prop :=
  c.name = "history" ∧ (c.args.head? = some "-c" ∨ c.args.head? = some "-d")

variable {σ : Type} [KeyValueStore σ]

/-- What is left of a session by the calls that are made in it. -/
structure Frame (before : Session σ) (made : List Call) (after : Session σ) : Prop where
  tree : after.tree = before.tree
  settings : after.settings = before.settings
  entries : after.history.entries.Sublist before.history.entries
  cut : after.history.entries ≠ before.history.entries → ∃ call ∈ made, call.cutsHistory
  elsewhere : ∀ key ∉ sessionKeys, get? after.store key = get? before.store key

namespace Frame

variable {s s' s'' : Session σ} {made made' : List Call}

lemma refl (s : Session σ) (made : List Call) : Frame s made s :=
  ⟨rfl, rfl, .refl _, fun hne => absurd rfl hne, fun _ _ => rfl⟩

lemma trans (h : Frame s made s') (h' : Frame s' made' s'') : Frame s (made ++ made') s'' where
  tree := h'.tree.trans h.tree
  settings := h'.settings.trans h.settings
  entries := h'.entries.trans h.entries
  cut := by
    intro hne
    by_cases hfirst : s'.history.entries = s.history.entries
    · obtain ⟨call, hmem, hcuts⟩ := h'.cut (hfirst ▸ hne)
      exact ⟨call, List.mem_append_right _ hmem, hcuts⟩
    · obtain ⟨call, hmem, hcuts⟩ := h.cut hfirst
      exact ⟨call, List.mem_append_left _ hmem, hcuts⟩
  elsewhere key hkey := (h'.elsewhere key hkey).trans (h.elsewhere key hkey)

end Frame

variable [WritesLocally σ] (s : Session σ)

lemma get?_insert_sessionKey {key other : String} (hkey : key ∈ sessionKeys)
    (hother : other ∉ sessionKeys) (value : String) :
    get? (insert s.store key value).2 other = get? s.store other :=
  WritesLocally.get?_insert_of_ne s.store value fun heq => hother (heq ▸ hkey)

variable {s} in
/-- The effects of commands, where a call accounts for each change of the history. -/
lemma Effect.frame {e : Bool} {s' : Session σ} {made : List Call} (h : Effect s e s')
    (hcut : s'.history.entries ≠ s.history.entries → ∃ call ∈ made, call.cutsHistory) :
    Frame s made s' := by
  cases h with
  | nothing => exact .refl s made
  | place hplace hdir =>
    exact ⟨rfl, rfl, .refl _, hcut, fun key hkey =>
      get?_insert_sessionKey s (by decide) hkey _⟩
  | user user =>
    exact ⟨rfl, rfl, .refl _, hcut, fun key hkey =>
      get?_insert_sessionKey s (by decide) hkey _⟩
  | cleared =>
    exact ⟨rfl, rfl, List.nil_sublist _, hcut, fun key hkey =>
      get?_insert_sessionKey s (by decide) hkey _⟩
  | erased herased =>
    have hentries := (of_erase?_eq_some herased).2
    refine ⟨rfl, rfl, ?_, hcut, fun key hkey => get?_insert_sessionKey s (by decide) hkey _⟩
    exact hentries ▸ List.eraseIdx_sublist ..

omit [WritesLocally σ] in
lemma changeDirectory_history (args : List String) :
    (Command.changeDirectory s args).2.history = s.history := by
  unfold Command.changeDirectory Session.enter
  cases s.tree.resolve s.cwd s.user (Command.destination args) with
  | none => rfl
  | some place => by_cases hdir : s.tree.isDirectory place.node <;> simp [hdir, Session.setPlace]

omit [WritesLocally σ] in
lemma switchUser_history (args : List String) :
    (Command.switchUser s args).2.history = s.history := by
  unfold Command.switchUser
  split
  · split <;> rfl
  · rfl

omit [WritesLocally σ] in
lemma history_cuts {args : List String}
    (h : (Command.history s args).2.history.entries ≠ s.history.entries) :
    args.head? = some "-c" ∨ args.head? = some "-d" := by
  unfold Command.history at h
  split at h
  · exact .inl rfl
  · exact .inr rfl
  · exact .inr rfl
  · split at h <;> exact absurd rfl h

omit [WritesLocally σ] in
/-- A command changes the entries of the history only as `history -c` or `history -d`. -/
lemma dispatch_cuts {name : String} {args : List String} {outcome : Except Problem Output}
    (h : (Registry.standard.dispatch s name args).2.history.entries ≠ s.history.entries) :
    Call.cutsHistory ⟨name, args, outcome⟩ := by
  unfold Registry.dispatch at h
  cases hget : (Registry.standard : Registry σ).get? name with
  | none =>
    rw [hget] at h
    exact absurd rfl h
  | some command =>
    rw [hget] at h
    rcases standard_cases hget with ⟨-, rfl⟩ | ⟨-, ⟨hname, rfl⟩ | rfl | ⟨answer, rfl⟩⟩
    · exact absurd (congrArg History.entries (changeDirectory_history s args)) h
    · exact ⟨hname, history_cuts s h⟩
    · exact absurd (congrArg History.entries (switchUser_history s args)) h
    · exact absurd rfl h

lemma dispatch_frame (name : String) (args : List String) :
    Frame s [⟨name, args, (Registry.standard.dispatch s name args).1⟩]
      (Registry.standard.dispatch s name args).2 :=
  (dispatch_effect s args name).frame fun hne => ⟨_, List.mem_cons_self, dispatch_cuts s hne⟩

lemma runAll_frame (commands : List (String × List String)) :
    Frame s (calls .standard s commands) (Script.runAll .standard s commands).2 := by
  induction commands generalizing s with
  | nil => exact .refl s []
  | cons command commands ih =>
    obtain ⟨name, args⟩ := command
    have hfirst := dispatch_frame s name args
    have hrest := ih (Registry.standard.dispatch s name args).2
    exact hfirst.trans hrest

lemma execute_frame (sh : Shell σ) (line : String) :
    Frame sh.session (executeCalls sh.session line) (sh.execute line).2.session := by
  unfold executeCalls Shell.execute
  by_cases hblank : Text.trim line = ""
  · simpa only [hblank, if_true] using .refl sh.session []
  · simp only [hblank, if_false, runLine_snd]
    exact runAll_frame sh.session _

lemma launch_frame (sh : Shell σ) (raw : String) :
    Frame sh.session (launchCalls sh.session raw) (sh.launch raw).2.session := by
  unfold launchCalls Shell.launch
  cases Launch.ofRaw? sh.session.settings raw with
  | none => exact .refl sh.session []
  | some launch => simpa only [Option.elim_some] using execute_frame sh launch.command

/-! ### What is typed -/

/-- The shell that has recorded a typed line, unless that is blank. -/
def recordTyped (sh : Shell σ) (line : String) : Shell σ :=
  if Text.trim line = "" then sh
  else { sh with session := sh.session.record (Text.trim line) }

omit [WritesLocally σ] in
lemma execute_trim (sh : Shell σ) (line : String) :
    sh.execute (Text.trim line) = sh.execute line := by
  rw [Shell.execute, Shell.execute, trim_trim]

omit [WritesLocally σ] in
lemma submit_eq_execute (sh : Shell σ) (line : String) :
    sh.submit line = (recordTyped sh line).execute line := by
  unfold Shell.submit recordTyped
  by_cases hblank : Text.trim line = ""
  · rw [if_pos hblank, if_pos hblank, execute_trim]
  · rw [if_neg hblank, if_neg hblank, execute_trim]

/-- A line as it is recorded, none if it is blank. -/
def recordable (line : String) : List String :=
  if Text.trim line = "" then [] else [Text.trim line]

omit [WritesLocally σ] in
lemma recordTyped_entries (sh : Shell σ) (line : String) :
    (recordTyped sh line).session.history.entries.Sublist
      (sh.session.history.entries ++ recordable line) := by
  unfold recordTyped recordable
  by_cases hblank : Text.trim line = ""
  · rw [if_pos hblank, if_pos hblank, List.append_nil]
  · rw [if_neg hblank, if_neg hblank]
    unfold Session.record History.record
    split
    · exact List.drop_sublist ..
    · exact List.sublist_append_left ..

/-- What an operation types at the prompt. -/
def typedBy : Operation → List String
  | .submit line => recordable line
  | _ => []

lemma perform_entries (sh : Shell σ) (op : Operation) :
    (perform sh op).2.session.history.entries.Sublist
      (sh.session.history.entries ++ typedBy op) := by
  have hmove : ∀ h : History, (∃ position, h = { sh.session.history with position }) →
      (sh.withHistory h).session.history.entries.Sublist sh.session.history.entries := by
    rintro h ⟨position, rfl⟩
    exact .refl _
  cases op <;> simp only [perform, typedBy, Prod.map_snd, id_eq, List.append_nil]
  case submit line =>
    rw [submit_eq_execute]
    exact (execute_frame _ line).entries.trans (recordTyped_entries sh line)
  case execute line => exact (execute_frame sh line).entries
  case launch raw => exact (launch_frame sh raw).entries
  case complete buffer cursor now => exact .refl _
  case back => exact hmove _ (back_snd _)
  case forward => exact hmove _ (forward_snd _)
  case lastArgument => exact hmove _ (back_snd _)

/-- Nothing comes into the history but what is typed at the prompt. -/
theorem entries_after_sublist (sh : Shell σ) (ops : List Operation) :
    (after sh ops).session.history.entries.Sublist
      (sh.session.history.entries ++ ops.flatMap typedBy) := by
  induction ops generalizing sh with
  | nil => exact List.sublist_append_left ..
  | cons op ops ih =>
    have hfirst := perform_entries sh op
    have hrest := ih (perform sh op).2
    rw [List.flatMap_cons, ← List.append_assoc]
    exact hrest.trans (hfirst.append_right _)

/-- Lines and launches run within the frame of their calls. A typed line is recorded once and is
run as it would be without that. -/
theorem only_typing_is_recorded (sh : Shell σ) (line : String) :
    Frame sh.session (executeCalls sh.session line) (sh.execute line).2.session ∧
      (∀ raw, Frame sh.session (launchCalls sh.session raw) (sh.launch raw).2.session) ∧
      sh.submit line = (recordTyped sh line).execute line ∧
      (recordTyped sh line).session.history.entries.Sublist
        (sh.session.history.entries ++ recordable line) :=
  ⟨execute_frame sh line, launch_frame sh, submit_eq_execute sh line, recordTyped_entries sh line⟩

/-- A script is typed where the store holds a text of someone else. The text stays, and of five
lines that run none comes into the history beside the typed one. -/
theorem only_typing_is_recorded_script :
    let sh : Shell Memory := .ofSession
      (started { defaultUser := "ada" } scriptTree [] (Memory.empty.insert "theme" "dark") id)
    (sh.submit " ./run ").2.session.history.entries = ["./run"] ∧
      (sh.execute " ./run ").2.session.history.entries = [] ∧
      (sh.submit " ./run ").2.session.cwd = ["/", "home", "ada", "docs"] ∧
      get? (sh.submit " ./run ").2.session.store "theme" = some "dark" ∧
      (sh.submit " ./run ").2.session.tree = scriptTree := by
  intro sh
  obtain ⟨-, -, hsubmit, -⟩ := only_typing_is_recorded sh " ./run "
  obtain ⟨hframe, -⟩ := only_typing_is_recorded (recordTyped sh " ./run ") " ./run "
  rw [← hsubmit] at hframe
  have hbefore : get? (recordTyped sh " ./run ").session.store "theme" = some "dark" := by
    decide +kernel
  have htree : (recordTyped sh " ./run ").session.tree = scriptTree := by decide +kernel
  refine ⟨by decide +kernel, by decide +kernel, by decide +kernel, ?_, ?_⟩
  · rw [hframe.elsewhere "theme" (by decide), hbefore]
  · rw [hframe.tree, htree]

end SeedShell.Proofs
