import SeedShell.Proofs.Recording

/-!
# Submitted lines

A line that is not blank puts the position of recall behind the newest entry, whether it is kept
or not and whatever it does to the history. A blank line does nothing at all, so a recall that is
under way goes on after it.
-/

namespace SeedShell.Proofs

open History

variable {σ : Type} [KeyValueStore σ]

/-! ### One line -/

section OneLine

variable {sh : Shell σ} {line : String}

lemma prompt_record (s : Session σ) (line : String) : (s.record line).prompt = s.prompt := by
  unfold Session.record
  split <;> rfl

lemma submit_of_blank (h : Text.trim line = "") : sh.submit line = ([], sh) := by
  have hempty : Text.trim "" = "" := rfl
  simp only [Shell.submit, h, Shell.execute, hempty, if_true]

lemma submit_of_not_blank (h : Text.trim line ≠ "") : sh.submit line =
    (.line (sh.prompt ++ Text.trim line) ::
        (Run.runLine .standard (sh.session.record (Text.trim line)) (Text.trim line)).1.events,
      { sh with session :=
        (Run.runLine .standard (sh.session.record (Text.trim line)) (Text.trim line)).2 }) := by
  have hprompt : (sh.session.record (Text.trim line)).prompt = sh.prompt :=
    prompt_record sh.session _
  simp only [Shell.submit, Shell.execute, trim_trim, if_neg h, Shell.prompt] at hprompt ⊢
  rw [hprompt]

end OneLine

/-! ### Recall after a line -/

/-- The position of recall is behind the newest entry. -/
def AtEnd (h : History) : Prop := h.position = h.entries.length

/-- Recall starts over: a step back gives the newest entry if there is one, and a step forward the
empty line. -/
structure StartsOver (sh : Shell σ) : Prop where
  back : sh.back.1 = sh.session.history.entries.getLast?
  forward : sh.forward.1 = ""

lemma atEnd_record (h : History) (line : String) : AtEnd (h.record line) := by
  unfold History.record
  split <;> rfl

lemma atEnd_of_erase? {h erased : History} {number : Nat}
    (herase : h.erase? number = some erased) : AtEnd erased := by
  unfold erase? at herase
  split at herase
  · cases herase
  · cases herase
    rfl

/-- A command that changes the entries puts the position behind them, and no other one moves it. -/
lemma keptByCommands_atEnd :
    KeptByCommands fun _ (s : Session σ) => AtEnd s.history := by
  intro b s e s' h heffect
  cases heffect with
  | nothing => exact h
  | place _ _ => exact h
  | user _ => exact h
  | cleared => rfl
  | erased herase => exact atEnd_of_erase? herase

lemma atEnd_submit (sh : Shell σ) {line : String} (hline : Text.trim line ≠ "") :
    AtEnd (sh.submit line).2.session.history := by
  have hrecord : AtEnd (sh.session.record (Text.trim line)).history := by
    rw [history_record]
    exact atEnd_record _ _
  have hrun := keptByCommands_atEnd.runLine (b := false) hrecord (Text.trim line)
  rw [submit_of_not_blank hline]
  dsimp only at hrun ⊢
  exact hrun

omit [KeyValueStore σ] in
lemma AtEnd.startsOver {sh : Shell σ} (h : AtEnd sh.session.history) : StartsOver sh := by
  constructor
  · change sh.session.history.back.1 = _
    unfold History.back
    split
    · next hzero =>
      have hnone : sh.session.history.entries = [] :=
        List.length_eq_zero_iff.mp (h.symm.trans hzero)
      rw [hnone, List.getLast?_nil]
    · rw [h, List.getLast?_eq_getElem?]
  · change sh.session.history.forward.1 = _
    rw [forward_of_le (Nat.le_succ_of_le (Nat.le_of_eq h.symm))]

/-- A submitted line makes recall start over behind the newest entry. Only a blank line does not: it
leaves a recall that is under way where it is. -/
theorem submission_restarts_recall_iff (sh : Shell σ) (line : String) :
    (StartsOver (sh.submit line).2 ↔ (Text.trim line = "" → StartsOver sh)) ∧
    (AtEnd (sh.submit line).2.session.history ↔
      (Text.trim line = "" → AtEnd sh.session.history)) := by
  by_cases hline : Text.trim line = ""
  · rw [submit_of_blank hline]
    exact ⟨⟨fun h _ => h, fun h => h hline⟩, ⟨fun h _ => h, fun h => h hline⟩⟩
  · have hend := atEnd_submit sh hline
    exact ⟨⟨fun _ hblank => absurd hblank hline, fun _ => hend.startsOver⟩,
      ⟨fun _ hblank => absurd hblank hline, fun _ => hend⟩⟩

/-- After two lines and one step back a blank line leaves recall on the newest entry, so the next
step back gives the older one. -/
theorem blank_line_keeps_recall :
    let sh := after (.ofSession scriptSession) [.submit "ls", .submit "pwd", .back]
    Reachable sh.session ∧ Text.trim " \t" = "" ∧
      (sh.submit " \t").2.session.history.entries.getLast? = some "pwd" ∧
      (sh.submit " \t").2.back.1 = some "ls" ∧ ¬StartsOver (sh.submit " \t").2 := by
  intro sh
  have hnewest : (sh.submit " \t").2.session.history.entries.getLast? = some "pwd" := by
    decide +kernel
  have hback : (sh.submit " \t").2.back.1 = some "ls" := by decide +kernel
  refine ⟨?_, by decide, hnewest, hback, fun hstarts => ?_⟩
  · exact ⟨{ defaultUser := "ada" }, scriptSeed, [], .empty, id, .ofSession scriptSession, _,
      boot_eq_ok_iff.mpr ⟨scriptTree, ofSeed_scriptSeed, rfl⟩, rfl⟩
  · have hsame := hback.symm.trans (hstarts.back.trans hnewest)
    exact absurd hsame (by decide)

end SeedShell.Proofs
