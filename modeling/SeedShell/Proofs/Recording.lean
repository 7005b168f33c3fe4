import Mathlib.Data.List.Destutter
import SeedShell.Proofs.Failures

/-!
# What recording keeps

A typed line is only compared with the newest entry, while the oldest entries give way. Still the
lines that are taken are those that a history without bounds would take, so the entries are the
newest of these. The history is stored exactly when its entries change.
-/

namespace SeedShell.Proofs

open History KeyValueStore

/-! ### Kept lines -/

/-- A line that is kept behind another one: it does not repeat it and is no use of the history. -/
def Follows (last line : String) : Prop := last ≠ line ∧ Text.hasPrefix "history" line = false

instance : DecidableRel Follows := fun _ _ => inferInstanceAs (Decidable (_ ∧ _))

/-- The first line, and each later one that follows the last one kept. -/
def keptLines (lines : List String) : List String := lines.destutter Follows

/-- A line is kept if it is the first one or follows the last one kept. -/
def Enters (kept : List String) (line : String) : Prop :=
  ∀ last ∈ kept.getLast?, Follows last line

instance (kept : List String) (line : String) : Decidable (Enters kept line) :=
  inferInstanceAs (Decidable (∀ last ∈ kept.getLast?, Follows last line))

section Kept

variable {lines kept : List String} {line : String}

lemma accepts_iff_enters {h : History} : h.accepts line = true ↔ Enters h.entries line := by
  unfold accepts Enters
  cases hlast : h.entries.getLast? with
  | none => simp
  | some last => simp [Follows]

lemma enters_cons_iff (first line : String) (hkept : kept ≠ []) :
    Enters (first :: kept) line ↔ Enters kept line := by
  rw [Enters, Enters, List.getLast?_cons_of_ne_nil hkept]

lemma destutter'_concat (first : String) (lines : List String) (line : String) :
    (lines ++ [line]).destutter' Follows first = lines.destutter' Follows first ++
      (if Enters (lines.destutter' Follows first) line then [line] else []) := by
  induction lines generalizing first with
  | nil =>
    by_cases hline : Follows first line
    · simp [Enters, hline]
    · simp [Enters, hline]
  | cons next lines ih =>
    by_cases hnext : Follows first next
    · have hrest : Enters (first :: lines.destutter' Follows next) line ↔
          Enters (lines.destutter' Follows next) line :=
        enters_cons_iff first line (lines.destutter'_ne_nil Follows)
      rw [List.cons_append, List.destutter'_cons_pos _ hnext, List.destutter'_cons_pos _ hnext, ih]
      simp only [hrest, List.cons_append]
    · rw [List.cons_append, List.destutter'_cons_neg _ hnext, List.destutter'_cons_neg _ hnext, ih]

lemma keptLines_concat (lines : List String) (line : String) : keptLines (lines ++ [line]) =
    keptLines lines ++ (if Enters (keptLines lines) line then [line] else []) := by
  cases lines with
  | nil => simp [keptLines, Enters]
  | cons first lines => exact destutter'_concat first lines line

lemma keptLines_concat_iff :
    keptLines (lines ++ [line]) = keptLines lines ++ [line] ↔ Enters (keptLines lines) line := by
  rw [keptLines_concat]
  split
  · next henters => simp [henters]
  · next henters => simp [henters]

lemma head?_keptLines (lines : List String) : (keptLines lines).head? = lines.head? := by
  have hfirst : ∀ first : String, (lines.tail.destutter' Follows first).head? = some first := by
    intro first
    induction lines.tail with
    | nil => rfl
    | cons next rest ih =>
      by_cases hnext : Follows first next
      · rw [List.destutter'_cons_pos _ hnext, List.head?_cons]
      · rwa [List.destutter'_cons_neg _ hnext]
  cases lines with
  | nil => rfl
  | cons first rest => exact hfirst first

end Kept

/-! ### Recorded entries -/

section Recorded

variable {capacity : Nat} {h : History} {line : String}

lemma getLast?_newest (hpos : 0 < capacity) (entries : List String) :
    (newest capacity entries).getLast? = entries.getLast? := by
  rw [newest, List.getLast?_drop]
  split
  · next hle =>
    have hnil : entries = [] := List.length_eq_zero_iff.mp (by omega)
    rw [hnil, List.getLast?_nil]
  · rfl

lemma record_of_accepts (haccepts : h.accepts line = true) : h.record line = h.push line :=
  if_pos haccepts

lemma record_of_not_accepts (haccepts : ¬h.accepts line = true) :
    h.record line = h.withEntries h.entries :=
  if_neg haccepts

/-- A line that is taken is the newest entry from then on. -/
lemma record_entries_eq_iff (hpos : 0 < h.capacity) :
    (h.record line).entries = h.entries ↔ ¬h.accepts line = true := by
  constructor
  · intro hsame haccepts
    have henters := accepts_iff_enters.mp haccepts
    have hlast : (h.record line).entries.getLast? = some line := by
      rw [record_of_accepts haccepts]
      exact (getLast?_newest hpos _).trans (List.getLast?_concat ..)
    rw [hsame] at hlast
    exact (henters line hlast).1 rfl
  · intro haccepts
    rw [record_of_not_accepts haccepts]
    rfl

lemma used_foldl_record (capacity : Nat) (lines : List String) :
    Used capacity (lines.foldl record (empty capacity)) := by
  induction lines using List.reverseRecOn with
  | nil => exact .new
  | append_singleton lines line ih =>
    rw [List.foldl_concat]
    exact ih.use (.record line)

/-- The newest entry is the last line kept, so the decision is the one taken without bounds. -/
lemma accepts_iff_of_newest (hpos : 0 < capacity) {kept : List String}
    (hentries : h.entries = newest capacity kept) : h.accepts line = true ↔ Enters kept line := by
  rw [accepts_iff_enters, Enters, Enters, hentries, getLast?_newest hpos]

lemma entries_foldl_record (hpos : 0 < capacity) (lines : List String) :
    (lines.foldl record (empty capacity)).entries = newest capacity (keptLines lines) := by
  induction lines using List.reverseRecOn with
  | nil => simp [empty, newest, keptLines]
  | append_singleton lines line ih =>
    have hcapacity := (used_foldl_record capacity lines).inCapacity.capacity_eq
    rw [List.foldl_concat, keptLines_concat]
    generalize lines.foldl record (empty capacity) = h at ih hcapacity
    by_cases henters : Enters (keptLines lines) line
    · have haccepts := (accepts_iff_of_newest hpos ih).mpr henters
      have hpush : (h.push line).entries = newest h.capacity (h.entries ++ [line]) := rfl
      rw [record_of_accepts haccepts, if_pos henters, hpush, hcapacity, ih, newest_newest_append]
    · have haccepts := mt (accepts_iff_of_newest hpos ih).mp henters
      rw [record_of_not_accepts haccepts, if_neg henters, List.append_nil, ← ih]
      rfl

/-- Behind the first line no use of the history is kept. -/
lemma eq_zero_of_hasPrefix {lines : List String} {index : Nat} {entry : String}
    (hentry : (keptLines lines)[index]? = some entry)
    (hhistory : Text.hasPrefix "history" entry = true) : index = 0 := by
  obtain ⟨hlt, rfl⟩ := List.getElem?_eq_some_iff.mp hentry
  cases index with
  | zero => rfl
  | succ index =>
    have hchain := lines.isChain_destutter Follows
    obtain ⟨-, hother⟩ := List.isChain_iff_getElem.mp hchain index hlt
    exact absurd hhistory (Bool.eq_false_iff.mp hother)

end Recorded

/-- What is left of lines that are recorded one after the other: of the lines that were kept as they
came, the newest ones. No entry repeats the one before, and a use of the history is an entry only
as the first line of all. -/
structure Recorded (capacity : Nat) (lines : List String) (h : History) : Prop where
  entries_eq : h.entries = (keptLines lines).rtake capacity
  accepts_iff : ∀ front line, front ++ [line] <+: lines →
    ((front.foldl record (empty capacity)).accepts line = true ↔
      keptLines (front ++ [line]) = keptLines front ++ [line])
  differ : h.entries.IsChain (· ≠ ·)
  first_of_history : ∀ index entry, h.entries[index]? = some entry →
    Text.hasPrefix "history" entry = true →
    index = 0 ∧ h.entries = keptLines lines ∧ lines.head? = some entry

lemma recorded_foldl {capacity : Nat} (hpos : 0 < capacity) (lines : List String) :
    Recorded capacity lines (lines.foldl record (empty capacity)) := by
  have hentries := entries_foldl_record hpos lines
  refine ⟨hentries, fun front line _ => ?_, ?_, fun index entry hentry hhistory => ?_⟩
  · rw [keptLines_concat_iff]
    exact accepts_iff_of_newest hpos (entries_foldl_record hpos front)
  · rw [hentries]
    exact ((lines.isChain_destutter Follows).drop _).imp fun _ _ hfollows => hfollows.1
  · rw [hentries, newest, List.getElem?_drop] at hentry
    have hzero := eq_zero_of_hasPrefix hentry hhistory
    obtain ⟨hall, rfl⟩ := Nat.add_eq_zero_iff.mp hzero
    rw [hzero, ← List.head?_eq_getElem?, head?_keptLines] at hentry
    exact ⟨rfl, hentries.trans (by rw [newest, hall, List.drop_zero]), hentry⟩

/-! ### Stored entries -/

section Storing

variable {σ : Type} [KeyValueStore σ]

/-- Recording a line stores the entries if they change, and else asks the store for nothing. -/
structure StoresChange (s : Session σ) (line : String) : Prop where
  store_eq : (s.record line).store =
    if (s.record line).history.entries = s.history.entries then s.store
    else (insertTexts s.store Session.historyKey (s.record line).history.entries).2
  changes_eq : ((counted s).record line).store.changes =
    if (s.record line).history.entries = s.history.entries then 0 else 1

lemma history_record (s : Session σ) (line : String) :
    (s.record line).history = s.history.record line := by
  unfold Session.record
  split <;> rfl

lemma storesChange {s : Session σ} (hpos : 0 < s.history.capacity) (line : String) :
    StoresChange s line := by
  have hhistory := history_record s line
  have hsame : (s.history.record line).entries = s.history.entries ↔
      ¬s.history.accepts line = true := record_entries_eq_iff hpos
  by_cases haccepts : s.history.accepts line = true
  · have hchanged : (s.history.record line).entries ≠ s.history.entries :=
      mt hsame.mp (not_not_intro haccepts)
    constructor
    · rw [hhistory, if_neg hchanged, Session.record, if_pos haccepts]
      rfl
    · have hcounted : (counted s).history.accepts line = true := haccepts
      rw [hhistory, if_neg hchanged, Session.record, if_pos hcounted]
      rfl
  · have hkept := hsame.mpr haccepts
    constructor
    · rw [hhistory, if_pos hkept, Session.record, if_neg haccepts]
    · have hcounted : ¬(counted s).history.accepts line = true := haccepts
      rw [hhistory, if_pos hkept, Session.record, if_neg hcounted]
      rfl

end Storing

/-- Lines recorded into a new history that has room leave the newest of those that are kept without
bounds, and a session whose history has room stores it exactly when its entries change. -/
theorem recording_keeps {capacity : Nat} (hpos : 0 < capacity) (lines : List String) :
    Recorded capacity lines (lines.foldl record (empty capacity)) ∧
    ∀ (σ : Type) [KeyValueStore σ] (s : Session σ) (line : String),
      s.history.capacity = capacity → StoresChange s line := by
  refine ⟨recorded_foldl hpos lines, fun σ _ s line hcapacity => storesChange ?_ line⟩
  exact hcapacity ▸ hpos

/-- The first line is a use of the history and has given way to later ones. A later use and a repeat
are not kept. -/
theorem recording_keeps_two :
    let lines := ["history", "ls", "ls", "history -c", "pwd"]
    let s := { scriptSession with history := ⟨["ls", "pwd"], 2, 2⟩ }
    0 < 2 ∧ keptLines lines = ["history", "ls", "pwd"] ∧
      Recorded 2 lines ⟨["ls", "pwd"], 2, 2⟩ ∧
      s.history.capacity = 2 ∧ StoresChange s "ls" := by
  intro lines s
  have hleft : lines.foldl record (empty 2) = ⟨["ls", "pwd"], 2, 2⟩ := by decide
  obtain ⟨hrecorded, hstores⟩ := recording_keeps (by decide : 0 < 2) lines
  rw [hleft] at hrecorded
  exact ⟨by decide, by decide, hrecorded, rfl, hstores Memory s "ls" rfl⟩

end SeedShell.Proofs
