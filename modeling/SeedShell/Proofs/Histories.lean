import Mathlib.Data.List.DropRight
import Mathlib.Tactic.Lemma
import SeedShell.History

/-!
# Histories in use

Whatever is done with a history, it holds no more entries than it has room for, its position is on
an entry or right behind the newest one, and recall looks up no entry that there is not. So recall
walks the entries one by one between its two ends, and comes back the way that it went.
-/

namespace SeedShell.Proofs

open History

/-! ### The newest entries -/

section Newest

variable {capacity smaller : Nat} {entries : List String}

lemma newest_of_length_le (h : entries.length ≤ capacity) :
    newest capacity entries = entries := by
  rw [newest, Nat.sub_eq_zero_of_le h, List.drop_zero]

lemma length_newest_le (capacity : Nat) (entries : List String) :
    (newest capacity entries).length ≤ capacity := by
  rw [newest, List.length_drop]
  omega

/-- Entries that give way early would have given way anyway. -/
lemma newest_newest_append (capacity : Nat) (entries more : List String) :
    newest capacity (newest capacity entries ++ more) = newest capacity (entries ++ more) := by
  have hdrop : newest capacity entries ++ more =
      (entries ++ more).drop (entries.length - capacity) := by
    rw [newest, List.drop_append_of_le_length (Nat.sub_le _ _)]
  rw [hdrop, newest, newest, List.drop_drop, List.length_drop, List.length_append]
  congr 1
  omega

lemma newest_newest (h : smaller ≤ capacity) (entries : List String) :
    newest smaller (newest capacity entries) = newest smaller entries := by
  simp only [newest, List.drop_drop, List.length_drop]
  congr 1
  omega

/-- A history is restored as if its entries had been appended one after the other. -/
lemma ofEntries_eq_foldl (entries : List String) (capacity : Nat) :
    ofEntries entries capacity = entries.foldl push (empty capacity) := by
  induction entries using List.reverseRecOn with
  | nil => simp [ofEntries, withEntries, empty, newest]
  | append_singleton entries entry ih =>
    rw [List.foldl_concat, ← ih]
    exact congrArg (empty capacity).withEntries
      (newest_newest_append capacity entries [entry]).symm

end Newest

lemma of_erase?_eq_some {history erased : History} {number : Nat}
    (h : history.erase? number = some erased) : erased.capacity = history.capacity ∧
      erased.entries = history.entries.eraseIdx (number - 1) := by
  unfold erase? at h
  split at h
  · cases h
  · cases h
    exact ⟨rfl, rfl⟩

/-! ### Recall and other uses -/

/-- The ways to step through the entries. -/
inductive Recall where
  | back
  | forward
  | lastArgument
  deriving DecidableEq, Repr

namespace Recall

/-- Takes a step. A step forward always gives a line. -/
def run (h : History) : Recall → Option String × History
  | .back => h.back
  | .forward => (some h.forward.1, h.forward.2)
  | .lastArgument => h.lastArgument

/-- The number of the entry that a step looks up, if it looks up one. -/
def index? (h : History) : Recall → Option Nat
  | .back | .lastArgument => if h.position = 0 then none else some (h.position - 1)
  | .forward => if h.position + 1 < h.entries.length then some (h.position + 1) else none

/-- What a step gives for an entry, and what for none. -/
def reply (found? : Option String) : Recall → Option String
  | .back => found?
  | .forward => some (found?.getD "")
  | .lastArgument => found?.bind operand?

end Recall

/-- What can be done with a history. -/
inductive HistoryUse where
  | push (line : String)
  | record (line : String)
  | clear
  | erase (number : Nat)
  | step (kind : Recall)
  deriving DecidableEq, Repr

/-- The history after a use. To erase an entry that there is not changes nothing. -/
def HistoryUse.run (h : History) : HistoryUse → History
  | .push line => h.push line
  | .record line => h.record line
  | .clear => h.clear
  | .erase number => (h.erase? number).getD h
  | .step kind => (kind.run h).2

/-- The histories that come from a new or a restored one by any uses. -/
inductive Used (capacity : Nat) : History → Prop
  | new : Used capacity (empty capacity)
  | restored (entries : List String) : Used capacity (ofEntries entries capacity)
  | use {h : History} : Used capacity h → ∀ use : HistoryUse, Used capacity (use.run h)

/-! ### Steps of recall -/

section Stepping

variable {h : History} {step : Recall}

/-- Recall changes nothing but its position. -/
lemma back_snd (h : History) : ∃ position, h.back.2 = { h with position } := by
  unfold History.back
  split
  · exact ⟨h.position, rfl⟩
  · exact ⟨h.position - 1, rfl⟩

lemma forward_snd (h : History) : ∃ position, h.forward.2 = { h with position } := by
  unfold History.forward
  split
  · exact ⟨h.position + 1, rfl⟩
  · exact ⟨h.entries.length, rfl⟩

lemma back_of_zero (hzero : h.position = 0) : h.back = (none, h) := by
  rw [History.back, if_pos hzero]

lemma back_of_pos (hpos : 0 < h.position) (hle : h.position ≤ h.entries.length) :
    ∃ _ : h.position - 1 < h.entries.length,
      h.back = (some h.entries[h.position - 1], { h with position := h.position - 1 }) := by
  have hlt : h.position - 1 < h.entries.length := by omega
  refine ⟨hlt, ?_⟩
  rw [History.back, if_neg (Nat.ne_of_gt hpos), List.getElem?_eq_getElem hlt]

lemma forward_of_lt (hlt : h.position + 1 < h.entries.length) :
    h.forward = (h.entries[h.position + 1], { h with position := h.position + 1 }) := by
  rw [History.forward, List.getElem?_eq_getElem hlt]

lemma forward_of_le (hle : h.entries.length ≤ h.position + 1) :
    h.forward = ("", { h with position := h.entries.length }) := by
  rw [History.forward, List.getElem?_eq_none hle]

lemma run_of_index?_eq_some {index : Nat} (hle : h.position ≤ h.entries.length)
    (hsome : step.index? h = some index) : ∃ _ : index < h.entries.length,
      step.run h = (step.reply (some h.entries[index]), { h with position := index }) := by
  cases step with
  | back =>
    obtain ⟨hzero, rfl⟩ : h.position ≠ 0 ∧ h.position - 1 = index := by
      simpa [Recall.index?] using hsome
    exact back_of_pos (Nat.pos_of_ne_zero hzero) hle
  | forward =>
    obtain ⟨hlt, rfl⟩ : h.position + 1 < h.entries.length ∧ h.position + 1 = index := by
      simpa [Recall.index?] using hsome
    refine ⟨hlt, ?_⟩
    rw [Recall.run, forward_of_lt hlt]
    rfl
  | lastArgument =>
    obtain ⟨hzero, rfl⟩ : h.position ≠ 0 ∧ h.position - 1 = index := by
      simpa [Recall.index?] using hsome
    obtain ⟨hlt, hback⟩ := back_of_pos (Nat.pos_of_ne_zero hzero) hle
    refine ⟨hlt, ?_⟩
    rw [Recall.run, lastArgument, hback]
    rfl

lemma run_of_index?_eq_none (hnone : step.index? h = none) : step.run h =
    (step.reply none,
      { h with position := if step = .forward then h.entries.length else h.position }) := by
  cases step with
  | back =>
    have hzero : h.position = 0 := by simpa [Recall.index?] using hnone
    exact back_of_zero hzero
  | forward =>
    have hle : h.entries.length ≤ h.position + 1 := by simpa [Recall.index?] using hnone
    rw [Recall.run, forward_of_le hle]
    rfl
  | lastArgument =>
    have hzero : h.position = 0 := by simpa [Recall.index?] using hnone
    rw [Recall.run, lastArgument, back_of_zero hzero]
    rfl

end Stepping

/-! ### Bounds -/

/-- The entries have room, and the position is on one of them or right behind the newest. -/
structure InCapacity (capacity : Nat) (h : History) : Prop where
  capacity_eq : h.capacity = capacity
  length_le : h.entries.length ≤ capacity
  position_le : h.position ≤ h.entries.length

namespace InCapacity

variable {capacity : Nat} {h : History}

lemma withEntries (hcapacity : h.capacity = capacity) {entries : List String}
    (hlength : entries.length ≤ capacity) : InCapacity capacity (h.withEntries entries) :=
  ⟨hcapacity, hlength, Nat.le_refl _⟩

variable (hin : InCapacity capacity h)
include hin

lemma push (line : String) : InCapacity capacity (h.push line) :=
  withEntries hin.capacity_eq (hin.capacity_eq ▸ length_newest_le _ _)

lemma step (kind : Recall) : InCapacity capacity (kind.run h).2 := by
  cases hindex : kind.index? h with
  | some index =>
    obtain ⟨hlt, hrun⟩ := run_of_index?_eq_some hin.position_le hindex
    rw [hrun]
    exact ⟨hin.capacity_eq, hin.length_le, Nat.le_of_lt hlt⟩
  | none =>
    rw [run_of_index?_eq_none hindex]
    refine ⟨hin.capacity_eq, hin.length_le, ?_⟩
    dsimp only
    split
    · exact Nat.le_refl _
    · exact hin.position_le

lemma run (use : HistoryUse) : InCapacity capacity (use.run h) := by
  cases use with
  | push line => exact hin.push line
  | record line =>
    rw [HistoryUse.run, record]
    split
    · exact hin.push line
    · exact withEntries hin.capacity_eq hin.length_le
  | clear => exact withEntries hin.capacity_eq (Nat.zero_le _)
  | erase number =>
    rw [HistoryUse.run, erase?]
    split
    · exact hin
    · refine withEntries hin.capacity_eq ?_
      exact Nat.le_trans (List.length_eraseIdx_le ..) hin.length_le
  | step kind => exact hin.step kind

end InCapacity

lemma Used.inCapacity {capacity : Nat} {h : History} (hused : Used capacity h) :
    InCapacity capacity h := by
  induction hused with
  | new => exact ⟨rfl, Nat.zero_le _, Nat.le_refl _⟩
  | restored entries => exact .withEntries (h := empty capacity) rfl (length_newest_le ..)
  | use _ use ih => exact ih.run use

/-- Bounds that recall cannot leave: a step that looks up an entry finds it and stays on it, and any
other step gives what it gives for none. -/
structure InBounds (capacity : Nat) (h : History) : Prop extends InCapacity capacity h where
  finds : ∀ (step : Recall) (index : Nat), step.index? h = some index →
    ∃ _ : index < h.entries.length, (step.run h).2.position = index ∧
      (step.run h).1 = step.reply (some h.entries[index])
  misses : ∀ step : Recall, step.index? h = none → (step.run h).1 = step.reply none

/-- A history that is new or restored stays in its bounds, whatever is done with it. Restoring keeps
the newest entries, as if all had been appended to a new history one after the other. -/
theorem history_stays_in_bounds (capacity : Nat) :
    (∀ h, Used capacity h → InBounds capacity h) ∧
    ∀ entries : List String,
      ofEntries entries capacity = entries.foldl push (empty capacity) ∧
      ofEntries entries capacity =
        ⟨entries.rtake capacity, capacity, (entries.rtake capacity).length⟩ ∧
      ∀ smaller ≤ capacity,
        ofEntries (ofEntries entries capacity).entries smaller = ofEntries entries smaller := by
  refine ⟨fun h hused => ?_, fun entries => ⟨ofEntries_eq_foldl entries capacity, rfl, ?_⟩⟩
  · have hin := hused.inCapacity
    refine ⟨hin, fun step index hindex => ?_, fun step hindex => ?_⟩
    · obtain ⟨hlt, hrun⟩ := run_of_index?_eq_some hin.position_le hindex
      rw [hrun]
      exact ⟨hlt, rfl, rfl⟩
    · rw [run_of_index?_eq_none hindex]
  · intro smaller hle
    exact congrArg (empty smaller).withEntries (newest_newest hle entries)

/-- A history of one entry after two appends, whose recall is on it. -/
theorem history_stays_in_bounds_one :
    Used 1 ⟨["ls"], 1, 0⟩ ∧ InBounds 1 ⟨["ls"], 1, 0⟩ ∧
    (1 ≤ 2 ∧ ofEntries (ofEntries ["cd", "pwd", "ls"] 2).entries 1 = ⟨["ls"], 1, 1⟩) := by
  have hused : Used 1 ⟨["ls"], 1, 0⟩ :=
    ((Used.new.use (.push "pwd")).use (.push "ls")).use (.step .back)
  obtain ⟨hbounds, -⟩ := history_stays_in_bounds 1
  obtain ⟨-, hrestored⟩ := history_stays_in_bounds 2
  obtain ⟨-, -, hsmaller⟩ := hrestored ["cd", "pwd", "ls"]
  exact ⟨hused, hbounds _ hused, by decide, hsmaller 1 (by decide)⟩

/-! ### Walks -/

/-- What steps give, one after the other. -/
def replies : History → List Recall → List (Option String)
  | _, [] => []
  | h, step :: steps => (step.run h).1 :: replies (step.run h).2 steps

/-- The history after some steps. -/
def recalled (h : History) (steps : List Recall) : History :=
  steps.foldl (fun h step => (step.run h).2) h

section Walking

variable {capacity : Nat} {h : History}

lemma replies_append (h : History) (steps more : List Recall) :
    replies h (steps ++ more) = replies h steps ++ replies (recalled h steps) more := by
  induction steps generalizing h with
  | nil => rfl
  | cons step steps ih => exact congrArg ((step.run h).1 :: ·) (ih _)

lemma recalled_eq (h : History) (steps : List Recall) :
    ∃ position, recalled h steps = { h with position } := by
  induction steps generalizing h with
  | nil => exact ⟨h.position, rfl⟩
  | cons step steps ih =>
    have hfirst : ∃ position, (step.run h).2 = { h with position } := by
      cases step with
      | back => exact back_snd h
      | forward => exact forward_snd h
      | lastArgument => exact back_snd h
    obtain ⟨first, hfirst⟩ := hfirst
    obtain ⟨position, hrest⟩ := ih (step.run h).2
    refine ⟨position, ?_⟩
    rw [hfirst] at hrest
    rw [recalled, List.foldl_cons, hfirst]
    exact hrest

lemma Used.recalled (hused : Used capacity h) (steps : List Recall) :
    Used capacity (recalled h steps) := by
  induction steps generalizing h with
  | nil => exact hused
  | cons step steps ih => exact ih (hused.use (.step step))

/-- Steps back give the entries before the position, the nearest first. -/
lemma replies_back {count : Nat} (hcount : count ≤ h.position)
    (hle : h.position ≤ h.entries.length) :
    replies h (List.replicate count .back) =
        ((h.entries.take h.position).rtake count).reverse.map some ∧
      recalled h (List.replicate count .back) = { h with position := h.position - count } := by
  induction count generalizing h with
  | zero => simp [replies, recalled]
  | succ count ih =>
    obtain ⟨hlt, hback⟩ := back_of_pos (Nat.lt_of_lt_of_le (Nat.succ_pos count) hcount) hle
    have htake : h.entries.take h.position =
        h.entries.take (h.position - 1) ++ [h.entries[h.position - 1]] := by
      rw [List.take_append_getElem hlt]
      congr 1
      omega
    have hrun : Recall.back.run h =
        (some h.entries[h.position - 1], { h with position := h.position - 1 }) := hback
    obtain ⟨hreplies, hmoved⟩ := @ih { h with position := h.position - 1 }
      (Nat.le_sub_one_of_lt hcount) (Nat.le_of_lt hlt)
    rw [List.replicate_succ, replies, recalled, List.foldl_cons, hrun, ← recalled, hmoved,
      hreplies, htake, List.rtake_concat_succ]
    refine ⟨by simp, ?_⟩
    rw [Nat.sub_sub, Nat.add_comm 1]

/-- Steps forward give the entries behind the position, the nearest first. -/
lemma replies_forward {count : Nat} (hlt : h.position + count < h.entries.length) :
    replies h (List.replicate count .forward) =
        ((h.entries.drop (h.position + 1)).take count).map some ∧
      recalled h (List.replicate count .forward) = { h with position := h.position + count } := by
  induction count generalizing h with
  | zero => simp [replies, recalled]
  | succ count ih =>
    have hnext : h.position + 1 < h.entries.length := by omega
    have hrun : Recall.forward.run h =
        (some h.entries[h.position + 1], { h with position := h.position + 1 }) := by
      rw [Recall.run, forward_of_lt hnext]
    have hahead : h.position + 1 + count < h.entries.length := by omega
    obtain ⟨hreplies, hmoved⟩ := @ih { h with position := h.position + 1 } hahead
    rw [List.replicate_succ, replies, recalled, List.foldl_cons, hrun, ← recalled, hmoved,
      hreplies, List.drop_eq_getElem_cons hnext, List.take_succ_cons, List.map_cons]
    refine ⟨rfl, ?_⟩
    rw [Nat.add_assoc, Nat.add_comm 1]

/-- From the newest entry on, steps forward give the empty line. -/
lemma replies_forward_end (hle : h.entries.length ≤ h.position + 1) (count : Nat) :
    replies h (List.replicate count .forward) = List.replicate count (some "") := by
  induction count generalizing h with
  | zero => rfl
  | succ count ih =>
    have hrun : Recall.forward.run h = (some "", { h with position := h.entries.length }) := by
      rw [Recall.run, forward_of_le hle]
    rw [List.replicate_succ, replies, hrun, ih (Nat.le_succ _), List.replicate_succ]

/-- From behind the newest entry steps back give as many of the newest entries. Steps forward give
them again but for the oldest of them, and then the empty line. -/
lemma replies_there_and_back (hend : h.position = h.entries.length) {count : Nat}
    (hpos : 1 ≤ count) (hcount : count ≤ h.entries.length) (more : Nat) :
    replies h (List.replicate count .back ++ List.replicate (count - 1) .forward ++
        List.replicate more .forward) =
      (h.entries.rtake count).reverse.map some ++ (h.entries.rtake (count - 1)).map some ++
        List.replicate more (some "") := by
  obtain ⟨hback, hturned⟩ := replies_back (hend ▸ hcount) (Nat.le_of_eq hend)
  have hlast : h.entries.length - count + (count - 1) + 1 = h.entries.length := by omega
  have hnext : h.entries.length - count + 1 = h.entries.length - (count - 1) := by omega
  rw [hend] at hback hturned
  obtain ⟨hforward, hnewest⟩ := @replies_forward { h with position := h.entries.length - count }
    (count - 1) (Nat.lt_of_lt_of_eq (Nat.lt_succ_self _) hlast)
  have hagain : (h.entries.drop (h.entries.length - count + 1)).take (count - 1) =
      h.entries.rtake (count - 1) := by
    rw [hnext, List.rtake, List.take_of_length_le]
    rw [List.length_drop]
    omega
  rw [List.append_assoc, replies_append, hback, List.take_length, hturned, replies_append, hforward,
    hagain, hnewest, replies_forward_end (Nat.le_of_eq hlast.symm), List.append_assoc]

/-- Recall as a cursor that moves by one entry and stops at the two ends. An entry may be the empty
line itself. -/
structure Clamped (h : History) : Prop where
  back_zero : h.position = 0 → h.back = (none, h)
  back_pos : 0 < h.position → ∃ _ : h.position - 1 < h.entries.length,
    h.back = (some h.entries[h.position - 1], { h with position := h.position - 1 })
  forward_moves : h.forward.2 = { h with position := min (h.position + 1) h.entries.length }
  forward_entry : ∀ _ : min (h.position + 1) h.entries.length < h.entries.length,
    h.forward.1 = h.entries[min (h.position + 1) h.entries.length]
  forward_end : min (h.position + 1) h.entries.length = h.entries.length → h.forward.1 = ""
  lastArgument_moves : h.lastArgument.2 = h.back.2

lemma InCapacity.clamped (hin : InCapacity capacity h) : Clamped h where
  back_zero := back_of_zero
  back_pos hpos := back_of_pos hpos hin.position_le
  forward_moves := by
    rcases Nat.lt_or_ge (h.position + 1) h.entries.length with hlt | hle
    · rw [forward_of_lt hlt, Nat.min_eq_left (Nat.le_of_lt hlt)]
    · rw [forward_of_le hle, Nat.min_eq_right hle]
  forward_entry hlt := by
    have hnext : h.position + 1 < h.entries.length := by omega
    simp only [forward_of_lt hnext, Nat.min_eq_left (Nat.le_of_lt hnext)]
  forward_end hmin := by
    have hle : h.entries.length ≤ h.position + 1 := by omega
    rw [forward_of_le hle]
  lastArgument_moves := rfl

end Walking

/-- Recall leaves the entries alone and walks them as a clamped cursor, so what it gives on the way
back is given again on the way forward. -/
theorem recall_walks_entries {capacity : Nat} {h : History} (hused : Used capacity h)
    (steps : List Recall) :
    (recalled h steps).entries = h.entries ∧ Clamped (recalled h steps) ∧
    ((recalled h steps).position = h.entries.length →
      ∀ count more : Nat, 1 ≤ count → count ≤ h.entries.length →
        replies (recalled h steps) (List.replicate count .back ++
            List.replicate (count - 1) .forward ++ List.replicate more .forward) =
          (h.entries.rtake count).reverse.map some ++ (h.entries.rtake (count - 1)).map some ++
            List.replicate more (some "")) := by
  have hentries : (recalled h steps).entries = h.entries := by
    obtain ⟨position, hmoved⟩ := recalled_eq h steps
    rw [hmoved]
  have hclamped := (hused.recalled steps).inCapacity.clamped
  refine ⟨hentries, hclamped, fun hend count more hpos hcount => ?_⟩
  rw [← hentries] at hend hcount ⊢
  exact replies_there_and_back hend hpos hcount more

/-- Two of three entries there and back, after another one was erased in the middle of a recall. -/
theorem recall_walks_entries_erased :
    Used 5 ⟨["pwd", "cd", "ls -l"], 5, 3⟩ ∧
    replies ⟨["pwd", "cd", "ls -l"], 5, 3⟩ [.back, .back, .forward, .forward, .forward] =
      [some "ls -l", some "cd", some "ls -l", some "", some ""] := by
  have hused : Used 5 ⟨["pwd", "cd", "ls -l"], 5, 3⟩ :=
    ((Used.restored ["help", "pwd", "cd", "ls -l"]).use (.step .back)).use (.erase 1)
  obtain ⟨-, -, hreplies⟩ := recall_walks_entries hused []
  exact ⟨hused, hreplies rfl 2 2 (by decide) (by decide)⟩

end SeedShell.Proofs
