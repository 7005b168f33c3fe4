import SeedShell.Proofs.StoredTables
import SeedShell.Store.File

/-!
# Stores in files

A file describes the table of its store as long as every write succeeds, and then the store with
its file is one table, however often it is reopened. A refused write leaves the file behind. The
next write that is made catches up; erasing a key that is not there makes none.
-/

namespace SeedShell.Proofs

open KeyValueStore

/-! ### Disks -/

section Disks

variable {d : Disk} {path content : String}

lemma target?_eq_some_iff {place : List String} : d.target? path = some place ↔
    d.place? path = some place ∧ d.isDirectory place = false := by
  simp [Disk.target?, Option.filter_eq_some_iff]

lemma read_put {place : List String} (h : d.target? path = some place) :
    (d.put place content).read path = .text content := by
  obtain ⟨hplace, hdirectory⟩ := target?_eq_some_iff.mp h
  have hplace' : (d.put place content).place? path = some place := hplace
  have hdirectory' : (d.put place content).isDirectory place = false := hdirectory
  have hfile : (d.put place content).files.lookup place = some content := List.lookup_cons_self
  simp only [Disk.read, hplace', hdirectory', hfile, Bool.false_eq_true, if_false]

lemma read_write (d : Disk) (path content : String) : (d.write path content).2.read path =
    if (d.write path content).1 then .text content else d.read path := by
  unfold Disk.write
  dsimp only
  split
  · next htarget =>
    have htarget' : ({ d with refusals := d.refusals.tail } : Disk).target? path = some _ := htarget
    exact read_put htarget'
  · rfl

lemma write_of_target? {place : List String} (hrefusals : d.refusals = [])
    (htarget : d.target? path = some place) :
    d.write path content = (true, d.put place content) := by
  obtain ⟨files, directories, refusals⟩ := d
  subst hrefusals
  unfold Disk.write
  simp only [htarget, List.headD_nil, List.tail_nil]

end Disks

/-! ### Calls -/

/-- A call of a store, or a new store on what the old one left. -/
inductive StoreStep where
  | find (key : String)
  | insert (key text : String)
  | erase (key : String)
  | reopen

inductive StoreAnswer where
  | found (text : Option String)
  | changed (result : Except StoreError Unit)
  | reopened (succeeded : Bool)
  deriving DecidableEq

namespace StoreStep

/-- The table that a step leads to. -/
def next (table : Memory) : StoreStep → Memory
  | find _ | reopen => table
  | insert key text => table.insert key text
  | erase key => table.erase key

/-- Whether a step writes the file. -/
def Writes (table : Memory) : StoreStep → Prop
  | find _ | reopen => False
  | insert _ _ => True
  | erase key => (table.get? key).isSome

end StoreStep

section Asking

variable {σ : Type} [KeyValueStore σ] (reopen? : σ → Option σ)

/-- The answer to a step and the store after it. A store that cannot be reopened stays. -/
def ask (store : σ) : StoreStep → StoreAnswer × σ
  | .find key => (.found (get? store key), store)
  | .insert key text =>
    let (result, store) := insert store key text
    (.changed result, store)
  | .erase key =>
    let (result, store) := erase store key
    (.changed result, store)
  | .reopen => (.reopened (reopen? store).isSome, (reopen? store).getD store)

def afterSteps (store : σ) (steps : List StoreStep) : σ :=
  steps.foldl (fun store step => (ask reopen? store step).2) store

def answers (store : σ) : List StoreStep → List StoreAnswer
  | [] => []
  | step :: steps => (ask reopen? store step).1 :: answers (ask reopen? store step).2 steps

end Asking

/-! ### Files and tables -/

/-- The file of a store describes its table. -/
def Stored (store : FileStore) : Prop :=
  FileStore.tableAt? store.disk store.path = some store.table

section Steps

variable {store : FileStore} {step : StoreStep}

lemma tableAt?_flush (store : FileStore) :
    FileStore.tableAt? store.flush.2.disk store.flush.2.path =
      if store.flush.1 = .ok () then some store.table
      else FileStore.tableAt? store.disk store.path := by
  have hread := read_write store.disk store.path store.table.toText
  unfold FileStore.tableAt? FileStore.flush
  dsimp only
  rw [hread]
  by_cases hwritten : (store.disk.write store.path store.table.toText).1
  · simp [hwritten, ofText?_toText]
  · simp [hwritten]

lemma stored_flush (h : store.flush.1 = .ok ()) : Stored store.flush.2 :=
  (tableAt?_flush store).trans (if_pos h)

lemma flush_of_target? (store : FileStore) {place : List String}
    (hrefusals : store.disk.refusals = [])
    (htarget : store.disk.target? store.path = some place) :
    store.flush = (.ok (), { store with disk := store.disk.put place store.table.toText }) := by
  rw [FileStore.flush, write_of_target? hrefusals htarget]
  rfl

lemma ask_of_writes (h : step.Writes store.table) : ask FileStore.reopen? store step =
    (.changed { store with table := step.next store.table }.flush.1,
      { store with table := step.next store.table }.flush.2) := by
  cases step with
  | find key => exact h.elim
  | reopen => exact h.elim
  | insert key text => rfl
  | erase key =>
    have herase : KeyValueStore.erase store key =
        { store with table := store.table.erase key }.flush := if_pos h
    rw [ask, herase]
    rfl

lemma ask_of_not_writes (h : ¬step.Writes store.table) {result : Except StoreError Unit}
    (hchanged : (ask FileStore.reopen? store step).1 = .changed result) :
    ask FileStore.reopen? store step = (.changed (.ok ()), store) := by
  cases step with
  | find key => cases hchanged
  | reopen => cases hchanged
  | insert key text => exact absurd trivial h
  | erase key =>
    have herase : KeyValueStore.erase store key = (.ok (), store) := if_neg h
    rw [ask, herase]

lemma reopen?_of_stored (h : Stored store) : store.reopen? = some store := by
  rw [FileStore.reopen?, FileStore.open?, h, Option.map_some]

lemma stored_of_open? {disk : Disk} {path : String} (h : FileStore.open? disk path = some store) :
    Stored store := by
  obtain ⟨table, htable, rfl⟩ := Option.map_eq_some_iff.mp h
  exact htable

lemma tableAt?_eq_some_iff {disk : Disk} {path : String} {table : Memory} :
    FileStore.tableAt? disk path = some table ↔ disk.read path ≠ .unreadable ∧
      ((disk.text? path).bind Memory.ofText?).getD .empty = table := by
  unfold FileStore.tableAt? Disk.text?
  cases disk.read path <;> simp

lemma Stored.text (h : Stored store) :
    store.text?.bind Memory.ofText? = some store.table ∨
      store.text?.bind Memory.ofText? = none ∧ store.table = .empty := by
  have htable := (tableAt?_eq_some_iff.mp h).2
  rw [FileStore.text?]
  cases hdecoded : (store.disk.text? store.path).bind Memory.ofText? with
  | none =>
    rw [hdecoded, Option.getD_none] at htable
    exact .inr ⟨rfl, htable.symm⟩
  | some table =>
    rw [hdecoded, Option.getD_some] at htable
    exact .inl (congrArg some htable)

end Steps

/-! ### Reopening a store -/

/-- A store that was opened and used. -/
def InUse (store : FileStore) : Prop :=
  ∃ disk path start steps, FileStore.open? disk path = some start ∧
    afterSteps FileStore.reopen? start steps = store

section Reopening

variable {store after : FileStore} {step : StoreStep}

lemma reopen?_eq_some_iff {again : FileStore} : store.reopen? = some again ↔
    ∃ table, FileStore.tableAt? store.disk store.path = some table ∧
      { store with table } = again :=
  Option.map_eq_some_iff

lemma stored_iff {again : FileStore} (h : store.reopen? = some again) :
    Stored store ↔ ∀ key, get? again key = get? store key := by
  obtain ⟨table, htable, rfl⟩ := reopen?_eq_some_iff.mp h
  rw [Stored, htable, Option.some.injEq]
  constructor
  · rintro rfl key
    rfl
  · exact eq_of_get?

lemma exists_ask_eq_of_not_writes (h : ¬step.Writes store.table) :
    ∃ table, (ask FileStore.reopen? store step).2 = { store with table } := by
  cases step with
  | find key => exact ⟨store.table, rfl⟩
  | insert key text => exact absurd trivial h
  | erase key => exact ⟨store.table, congrArg Prod.snd (ask_of_not_writes h rfl)⟩
  | reopen =>
    cases hagain : store.reopen? with
    | none =>
      rw [ask, hagain]
      exact ⟨store.table, rfl⟩
    | some again =>
      obtain ⟨table, -, rfl⟩ := reopen?_eq_some_iff.mp hagain
      rw [ask, hagain]
      exact ⟨table, rfl⟩

/-- A step leaves a file that can be read. -/
lemma exists_reopen?_ask (h : ∃ again, store.reopen? = some again) (step : StoreStep) :
    ∃ again, (ask FileStore.reopen? store step).2.reopen? = some again := by
  obtain ⟨again, hagain⟩ := h
  obtain ⟨table, htable, -⟩ := reopen?_eq_some_iff.mp hagain
  by_cases hwrites : step.Writes store.table
  · rw [ask_of_writes hwrites]
    by_cases hflush : { store with table := step.next store.table }.flush.1 = .ok ()
    · exact ⟨_, reopen?_of_stored (stored_flush hflush)⟩
    -- a refused write leaves what could be read before
    · have hkept := tableAt?_flush { store with table := step.next store.table }
      rw [if_neg hflush] at hkept
      exact ⟨_, reopen?_eq_some_iff.mpr ⟨table, hkept.trans htable, rfl⟩⟩
  · obtain ⟨other, hother⟩ := exists_ask_eq_of_not_writes hwrites
    rw [hother]
    exact ⟨again, hagain⟩

lemma stored_of_accepted (hwrites : step.Writes store.table)
    (haccepted : ask FileStore.reopen? store step = (.changed (.ok ()), after)) :
    Stored after := by
  rw [ask_of_writes hwrites, Prod.mk.injEq, StoreAnswer.changed.injEq] at haccepted
  obtain ⟨hflush, rfl⟩ := haccepted
  exact stored_flush hflush

lemma eq_of_accepted (hwrites : ¬step.Writes store.table)
    (haccepted : ask FileStore.reopen? store step = (.changed (.ok ()), after)) :
    store = after := by
  rw [ask_of_not_writes hwrites (congrArg Prod.fst haccepted)] at haccepted
  exact congrArg Prod.snd haccepted

lemma InUse.exists_reopen? (h : InUse store) : ∃ again, store.reopen? = some again := by
  obtain ⟨disk, path, start, steps, hopen, rfl⟩ := h
  have hstart : ∃ again, start.reopen? = some again :=
    ⟨start, reopen?_of_stored (stored_of_open? hopen)⟩
  clear hopen
  induction steps generalizing start with
  | nil => exact hstart
  | cons step steps ih => exact ih _ (exists_reopen?_ask hstart step)

/-- After an accepted change, the file describes the table exactly if the change was written or
the file described the table before, and exactly then a reopened store answers alike. A key that
was erased stays away exactly if that was written or the file did not hold the key. -/
theorem accepted_change_is_kept_iff (hstore : InUse store)
    (haccepted : ask FileStore.reopen? store step = (.changed (.ok ()), after)) :
    ∃ old again, store.reopen? = some old ∧ after.reopen? = some again ∧
      (Stored after ↔ step.Writes store.table ∨ Stored store) ∧
      (Stored after ↔ ∀ key, get? again key = get? after key) ∧
      ∀ key, step = .erase key →
        (get? again key = none ↔ step.Writes store.table ∨ get? old key = none) := by
  obtain ⟨old, hold⟩ := hstore.exists_reopen?
  obtain ⟨again, hagain⟩ := exists_reopen?_ask ⟨old, hold⟩ step
  rw [haccepted] at hagain
  refine ⟨old, again, hold, hagain, ?_, stored_iff hagain, ?_⟩
  · by_cases hwrites : step.Writes store.table
    · simp only [hwrites, true_or, iff_true]
      exact stored_of_accepted hwrites haccepted
    · obtain rfl := eq_of_accepted hwrites haccepted
      simp only [hwrites, false_or]
  · rintro key rfl
    by_cases hwrites : (StoreStep.erase key).Writes store.table
    · have hgone : get? again key = none := by
        rw [(stored_iff hagain).mp (stored_of_accepted hwrites haccepted)]
        rw [ask_of_writes hwrites] at haccepted
        obtain rfl := congrArg Prod.snd haccepted
        exact (Memory.get?_erase store.table key key).trans (if_pos rfl)
      simp only [hgone, hwrites, true_or]
    · obtain rfl := eq_of_accepted hwrites haccepted
      obtain rfl := Option.some.inj (hold.symm.trans hagain)
      simp only [hwrites, false_or]

end Reopening

/-- A file with one row on a disk that refuses the next write. -/
def refusingDisk : Disk :=
  { files := [(["state"], "\x7b\"k\": \"v\"\x7d")], refusals := [true] }

def refusedStore : FileStore := ⟨refusingDisk, "state", Memory.empty.insert "k" "v"⟩

lemma open?_refusingDisk : FileStore.open? refusingDisk "state" = some refusedStore := by
  decide +kernel

/-- A change that was refused and made again is kept. -/
theorem accepted_change_is_kept_iff_again :
    let store := afterSteps FileStore.reopen? refusedStore [.insert "k" "w"]
    let after := (ask FileStore.reopen? store (.insert "k" "w")).2
    ask FileStore.reopen? store (.insert "k" "w") = (.changed (.ok ()), after) ∧
      ∃ again, after.reopen? = some again ∧ get? again "k" = some "w" := by
  intro store after
  have hstore : InUse store := ⟨_, _, _, _, open?_refusingDisk, rfl⟩
  have haccepted : ask FileStore.reopen? store (.insert "k" "w") = (.changed (.ok ()), after) := by
    decide +kernel
  have hkept : get? after "k" = some "w" := by decide +kernel
  obtain ⟨old, again, -, hagain, hstored, halike, -⟩ :=
    accepted_change_is_kept_iff hstore haccepted
  refine ⟨haccepted, again, hagain, ?_⟩
  rw [← hkept]
  exact halike.mp (hstored.mpr (.inl trivial)) "k"

/-- A key whose erasure was refused is erased again, which is accepted. It comes back. -/
theorem erased_key_comes_back :
    FileStore.open? refusingDisk "state" = some refusedStore ∧
      answers FileStore.reopen? refusedStore [.erase "k", .erase "k", .reopen, .find "k"] =
        [.changed (.error .unwritable), .changed (.ok ()), .reopened true, .found (some "v")] :=
  ⟨open?_refusingDisk, by decide +kernel⟩

/-! ### A store as a table -/

/-- Every write of a run succeeds. -/
def WritesSucceed (store : FileStore) : List StoreStep → Prop
  | [] => True
  | step :: steps =>
    (step.Writes store.table →
      (store.disk.write store.path (step.next store.table).toText).1 = true) ∧
    WritesSucceed (ask FileStore.reopen? store step).2 steps

section Simulating

variable {store : FileStore} {step : StoreStep}

lemma ask_of_stored (h : Stored store) (hsucceeds : step.Writes store.table →
      (store.disk.write store.path (step.next store.table).toText).1 = true) :
    (ask FileStore.reopen? store step).1 = (ask some store.table step).1 ∧
      (ask FileStore.reopen? store step).2.table = (ask some store.table step).2 ∧
      Stored (ask FileStore.reopen? store step).2 := by
  have hnext : (ask some store.table step).2 = step.next store.table := by
    cases step <;> rfl
  by_cases hwrites : step.Writes store.table
  · have hflush : { store with table := step.next store.table }.flush.1 = .ok () :=
      if_pos (hsucceeds hwrites)
    have hanswer : (ask some store.table step).1 = .changed (.ok ()) := by
      cases step with
      | find key => exact hwrites.elim
      | reopen => exact hwrites.elim
      | insert key text => rfl
      | erase key => rfl
    rw [ask_of_writes hwrites, hnext, hflush, hanswer]
    exact ⟨rfl, rfl, stored_flush hflush⟩
  · cases step with
    | find key => exact ⟨rfl, rfl, h⟩
    | insert key text => exact absurd trivial hwrites
    | erase key =>
      have habsent : store.table.get? key = none := Option.not_isSome_iff_eq_none.mp hwrites
      rw [ask_of_not_writes hwrites rfl, hnext]
      exact ⟨rfl, (erase_of_get?_eq_none habsent).symm, h⟩
    -- what the file describes is the table already
    | reopen =>
      rw [ask, reopen?_of_stored h]
      exact ⟨rfl, rfl, h⟩

lemma answers_of_stored (h : Stored store) {steps : List StoreStep}
    (hsucceed : WritesSucceed store steps) :
    answers FileStore.reopen? store steps = answers some store.table steps := by
  induction steps generalizing store with
  | nil => rfl
  | cons step steps ih =>
    obtain ⟨hanswer, htable, hstored⟩ := ask_of_stored h hsucceed.1
    have hrest := ih hstored hsucceed.2
    rw [htable] at hrest
    rw [answers, answers, hanswer, hrest]

lemma stored_afterSteps (h : Stored store) {steps : List StoreStep}
    (hsucceed : WritesSucceed store steps) : Stored (afterSteps FileStore.reopen? store steps) := by
  induction steps generalizing store with
  | nil => exact h
  | cons step steps ih => exact ih (ask_of_stored h hsucceed.1).2.2 hsucceed.2

lemma WritesSucceed.of_prefix {before steps : List StoreStep} (h : WritesSucceed store steps)
    (hbefore : before <+: steps) : WritesSucceed store before := by
  induction before generalizing store steps with
  | nil => trivial
  | cons step before ih =>
    obtain ⟨rest, rfl⟩ := hbefore
    exact ⟨h.1, ih h.2 (List.prefix_append before rest)⟩

/-- Every write of a run succeeds where the disk refuses none and the file has a place. -/
lemma writesSucceed_of_target? (hrefusals : store.disk.refusals = [])
    (htarget : (store.disk.target? store.path).isSome) (steps : List StoreStep) :
    WritesSucceed store steps := by
  induction steps generalizing store with
  | nil => trivial
  | cons step steps ih =>
    obtain ⟨place, hplace⟩ := Option.isSome_iff_exists.mp htarget
    refine ⟨fun _ => ?_, ?_⟩
    · rw [write_of_target? hrefusals hplace]
    by_cases hwrites : step.Writes store.table
    · have hflush := flush_of_target? { store with table := step.next store.table } hrefusals hplace
      rw [ask_of_writes hwrites, hflush]
      exact ih hrefusals htarget
    · obtain ⟨table, htable⟩ := exists_ask_eq_of_not_writes hwrites
      rw [htable]
      exact ih hrefusals htarget

end Simulating

/-- While its writes succeed, a store in a file answers as the table that the file described at
first, which has no need to be reopened; and the file describes the table at every point, unless
there is no table in it and the table is empty. -/
theorem file_store_answers_as_table {disk : Disk} {path : String}
    (hfile : disk.read path ≠ .unreadable) :
    ∃ start, FileStore.open? disk path = some start ∧
      start.table = ((disk.text? path).bind Memory.ofText?).getD .empty ∧
      ∀ steps, WritesSucceed start steps →
        answers FileStore.reopen? start steps = answers some start.table steps ∧
        ∀ before, before <+: steps →
          let store := afterSteps FileStore.reopen? start before
          store.text?.bind Memory.ofText? = some store.table ∨
            store.text?.bind Memory.ofText? = none ∧ store.table = .empty := by
  obtain ⟨table, htable⟩ : ∃ table, FileStore.tableAt? disk path = some table :=
    ⟨_, tableAt?_eq_some_iff.mpr ⟨hfile, rfl⟩⟩
  have hopen : FileStore.open? disk path = some ⟨disk, path, table⟩ := by
    rw [FileStore.open?, htable, Option.map_some]
  have hstored := stored_of_open? hopen
  have htext := (tableAt?_eq_some_iff.mp htable).2.symm
  refine ⟨_, hopen, htext, fun steps hsucceed => ⟨answers_of_stored hstored hsucceed, ?_⟩⟩
  intro before hbefore
  exact (stored_afterSteps hstored (hsucceed.of_prefix hbefore)).text

/-- A file with a key twice is read with the last text. What is erased there is gone for good, and
what is put into it is found again. -/
theorem file_store_answers_as_table_twice :
    let disk : Disk := { files := [(["state"], "\x7b\"k\": \"old\", \"k\": \"new\"\x7d")] }
    let steps : List StoreStep := [.find "k", .erase "gone", .reopen, .insert "a" "\"", .erase "k",
      .reopen, .find "k", .find "a"]
    disk.read "state" ≠ .unreadable ∧ ∃ start, FileStore.open? disk "state" = some start ∧
      WritesSucceed start steps ∧ answers FileStore.reopen? start steps =
        [.found (some "new"), .changed (.ok ()), .reopened true, .changed (.ok ()),
          .changed (.ok ()), .reopened true, .found none, .found (some "\"")] := by
  intro disk steps
  have hfile : disk.read "state" ≠ .unreadable := by decide +kernel
  have htarget : (disk.target? "state").isSome := by decide +kernel
  obtain ⟨start, hopen, htable, hrun⟩ := file_store_answers_as_table hfile
  have hsucceed : WritesSucceed start steps := by
    obtain ⟨table, -, rfl⟩ := Option.map_eq_some_iff.mp hopen
    exact writesSucceed_of_target? rfl htarget steps
  refine ⟨hfile, start, hopen, hsucceed, ?_⟩
  rw [(hrun steps hsucceed).1, htable]
  decide +kernel

end SeedShell.Proofs
