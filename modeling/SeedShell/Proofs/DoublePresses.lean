import Mathlib.Data.List.Chain
import Mathlib.Data.List.Induction
import Mathlib.Data.List.TakeDrop
import SeedShell.Presses

/-!
# Double presses

Between presses the count is one behind a single press and else zero. So a press makes a double one
exactly when the press before it was a single one and is not longer ago than the window allows, and
the count has room in its byte however many presses come.
-/

namespace SeedShell.Proofs

open Presses

/-- What is known of the presses after several of them. -/
def pressed (p : Presses) (times : List Nat) : Presses :=
  times.foldl (fun p now => (p.press now).2) p

/-! ### One more press -/

section Pressing

variable {p : Presses} {window : Nat} {times : List Nat} {answers : List Press}

lemma pressAll_concat (p : Presses) (times : List Nat) (now : Nat) :
    p.pressAll (times ++ [now]) = p.pressAll times ++ [((pressed p times).press now).1] := by
  induction times generalizing p with
  | nil => rfl
  | cons first times ih =>
    rw [List.cons_append, pressAll, pressAll, ih, List.cons_append]
    rfl

lemma pressed_concat (p : Presses) (times : List Nat) (now : Nat) :
    pressed p (times ++ [now]) = ((pressed p times).press now).2 :=
  List.foldl_concat ..

lemma length_pressAll (p : Presses) (times : List Nat) :
    (p.pressAll times).length = times.length := by
  induction times generalizing p with
  | nil => rfl
  | cons now times ih => rw [pressAll, List.length_cons, List.length_cons, ih]

/-- Later presses change nothing about the answers to earlier ones. -/
lemma pressAll_take (p : Presses) (times : List Nat) (n : Nat) :
    p.pressAll (times.take n) = (p.pressAll times).take n := by
  induction times generalizing p n with
  | nil => simp [pressAll]
  | cons now times ih =>
    cases n with
    | zero => rfl
    | succ n => rw [List.take_succ_cons, pressAll, pressAll, List.take_succ_cons, ih]

/-- What the presses so far leave behind: the moment of the last one, and a count of one if that
was a single press. -/
structure Tracks (window : Nat) (times : List Nat) (answers : List Press) (p : Presses) :
    Prop where
  window_eq : p.window = window
  last_eq : p.last = times.getLast?
  count_eq : p.count = if answers.getLast? = some .single then 1 else 0

lemma press_of_second {now : Nat} (hquick : p.isQuick now = true) (hcount : p.count = 1) :
    p.press now = (.double, { p with last := some now, count := 0 }) := by
  have htwo : (1 : UInt8) + 1 = 2 := by decide
  simp only [press, hquick, hcount, htwo, if_true]

lemma press_of_first {now : Nat} (hfirst : ¬(p.isQuick now = true ∧ p.count = 1))
    (hcount : p.count = 0 ∨ p.count = 1) :
    p.press now = (.single, { p with last := some now, count := 1 }) := by
  have hone : (if p.isQuick now then p.count + 1 else 1) = 1 := by
    split
    · next hquick =>
      have hzero : p.count = 0 := hcount.resolve_right fun hone => hfirst ⟨hquick, hone⟩
      rw [hzero]
      decide
    · rfl
  have hne : ¬(1 : UInt8) = 2 := by decide
  simp only [press, hone, if_neg hne]

namespace Tracks

variable (h : Tracks window times answers p)
include h

lemma count_cases : p.count = 0 ∨ p.count = 1 := by
  rw [h.count_eq]
  split
  · exact .inr rfl
  · exact .inl rfl

lemma count_eq_one_iff : p.count = 1 ↔ answers.getLast? = some .single := by
  rw [h.count_eq]
  split
  · next hsingle => exact iff_of_true rfl hsingle
  · next hsingle => exact iff_of_false (by decide) hsingle

lemma isQuick_iff {now : Nat} :
    p.isQuick now = true ↔ ∃ last, times.getLast? = some last ∧ now - last < window := by
  rw [isQuick, h.last_eq, h.window_eq, Option.any_eq_true]
  simp only [decide_eq_true_eq]

lemma press_eq_double_iff {now : Nat} : (p.press now).1 = .double ↔
    (∃ last, times.getLast? = some last ∧ now - last < window) ∧
      answers.getLast? = some .single := by
  rw [← h.isQuick_iff, ← h.count_eq_one_iff]
  by_cases hsecond : p.isQuick now = true ∧ p.count = 1
  · rw [press_of_second hsecond.1 hsecond.2]
    exact iff_of_true rfl hsecond
  · rw [press_of_first hsecond h.count_cases]
    exact iff_of_false Press.noConfusion hsecond

lemma press (now : Nat) :
    Tracks window (times ++ [now]) (answers ++ [(p.press now).1]) (p.press now).2 := by
  by_cases hsecond : p.isQuick now = true ∧ p.count = 1
  · rw [press_of_second hsecond.1 hsecond.2]
    exact ⟨h.window_eq, by simp, by simp⟩
  · rw [press_of_first hsecond h.count_cases]
    exact ⟨h.window_eq, by simp, by simp⟩

end Tracks

/-- However many presses come, and whenever, the count follows the answers. -/
lemma tracks_pressed (window : Nat) (times : List Nat) :
    Tracks window times (pressAll { window } times) (pressed { window } times) := by
  induction times using List.reverseRecOn with
  | nil => exact ⟨rfl, rfl, rfl⟩
  | append_singleton times now ih =>
    rw [pressAll_concat, pressed_concat]
    exact ih.press now

end Pressing

/-! ### All presses -/

/-- The answers to presses, told by their moments alone. A press makes a double one if it is not the
first, the one before was answered as a single one, and the time since then is within the window. A
clock that runs backward lets no time pass. -/
structure AnswersPresses (window : Nat) (times : List Nat) (answers : List Press) : Prop where
  length_eq : answers.length = times.length
  double_iff : ∀ i now, times[i]? = some now → (answers[i]? = some .double ↔
    ∃ before last, i = before + 1 ∧ answers[before]? = some .single ∧
      times[before]? = some last ∧ now - last < window)

section Answers

variable {window : Nat} {times : List Nat} {answers : List Press}

lemma answersPresses_pressAll (window : Nat) (times : List Nat) :
    AnswersPresses window times (pressAll { window } times) := by
  refine ⟨length_pressAll _ times, fun i now hnow => ?_⟩
  obtain ⟨hlt, rfl⟩ := List.getElem?_eq_some_iff.mp hnow
  have htracks := tracks_pressed window (times.take i)
  -- the answer to a press is the last one to the presses up to it
  have hanswer : (pressAll { window } times)[i]? =
      some ((pressed { window } (times.take i)).press times[i]).1 := by
    have hupto := pressAll_concat { window } (times.take i) times[i]
    rw [List.take_concat_get' _ _ hlt, pressAll_take, pressAll_take] at hupto
    have hlast := congrArg (·[i]?) hupto
    simpa [length_pressAll, Nat.min_eq_left hlt.le] using hlast
  rw [hanswer, Option.some_inj, htracks.press_eq_double_iff, pressAll_take]
  cases i with
  | zero => simp
  | succ before =>
    have hbefore : before < times.length := by omega
    have hbefore' : before < (pressAll { window } times).length := by rwa [length_pressAll]
    simp [List.getLast?_take, hbefore, hbefore', and_comm]

namespace AnswersPresses

variable (h : AnswersPresses window times answers)
include h

lemma exists_single {i : Nat} (hdouble : answers[i]? = some .double) :
    ∃ before last now, i = before + 1 ∧ answers[before]? = some .single ∧
      now - last < window := by
  have hlt : i < times.length := h.length_eq ▸ (List.getElem?_eq_some_iff.mp hdouble).1
  have hnow : times[i]? = some times[i] := List.getElem?_eq_getElem hlt
  obtain ⟨before, last, hi, hsingle, -, hwithin⟩ := (h.double_iff i times[i] hnow).mp hdouble
  exact ⟨before, last, times[i], hi, hsingle, hwithin⟩

lemma isChain_doubles :
    answers.IsChain fun first second => ¬(first = .double ∧ second = .double) := by
  refine List.isChain_iff_getElem.mpr fun i hi => ?_
  rintro ⟨hfirst, hsecond⟩
  have hdouble : answers[i + 1]? = some .double := List.getElem?_eq_some_iff.mpr ⟨hi, hsecond⟩
  obtain ⟨before, -, -, hbefore, hsingle, -⟩ := h.exists_single hdouble
  obtain rfl : i = before := Nat.succ_injective hbefore
  obtain ⟨_, hfirst'⟩ := List.getElem?_eq_some_iff.mp hsingle
  exact absurd (hfirst.symm.trans hfirst') (by decide)

omit h in
lemma double_notMem (h : AnswersPresses 0 times answers) : .double ∉ answers := by
  intro hmem
  obtain ⟨i, hlt, hdouble⟩ := List.getElem_of_mem hmem
  obtain ⟨before, last, now, -, -, hwithin⟩ :=
    h.exists_single (List.getElem?_eq_some_iff.mpr ⟨hlt, hdouble⟩)
  exact Nat.not_lt_zero _ hwithin

end AnswersPresses

end Answers

/-- Presses are answered as their moments ask for. No double press follows another one directly, a
window of zero has none, and between presses the count is at most one, so that the next press does
not leave the byte. -/
theorem double_presses_are_recognised (window : Nat) (times : List Nat) :
    let answers := pressAll { window } times
    let count := (pressed { window } times).count
    AnswersPresses window times answers ∧
      (answers.IsChain fun first second => ¬(first = .double ∧ second = .double)) ∧
      .double ∉ pressAll { window := 0 } times ∧
      count ≤ 1 ∧ (count + 1).toNat = count.toNat + 1 := by
  have hanswers := answersPresses_pressAll window times
  refine ⟨hanswers, hanswers.isChain_doubles, (answersPresses_pressAll 0 times).double_notMem, ?_⟩
  rcases (tracks_pressed window times).count_cases with hzero | hone
  · rw [hzero]
    decide
  · rw [hone]
    decide

/-- The second press comes quickly, the third would be quick again but starts over, the fourth is
late, and before the last one the clock runs backward. -/
example : pressAll { window := 500 } [1000, 1200, 1300, 2000, 1900] =
    [.single, .double, .single, .single, .double] := by decide

end SeedShell.Proofs
