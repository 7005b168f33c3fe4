import SeedShell.Proofs.Launching
import SeedShell.Proofs.Persistence
import SeedShell.Proofs.Submitting

/-!
# Entries erased by their numbers

`history` shows the entries in their order, and `history -d` erases one by its number. Both lines
go through recording first. But the first one is kept only in a history without entries, before it
shows them, and the second one never, so the numbers are still those of the lines that were shown.
-/

namespace SeedShell.Proofs

open History KeyValueStore Session

variable {σ : Type} [KeyValueStore σ]

/-! ### Numbers of entries -/

/-- A number as it is written in digits, with a hyphen in front of a negative one. -/
def numeral : Int → String
  | .ofNat n => Nat.repr n
  | .negSucc n => "-" ++ Nat.repr (n + 1)

/-- The line that erases the entry of a number. -/
def eraseLine (number : Int) : String := "history -d " ++ numeral number

section Numbers

lemma isDigit_of_mem_repr {n : Nat} {c : Char} (h : c ∈ (Nat.repr n).toList) : c.isDigit := by
  rw [Nat.toList_repr] at h
  exact Nat.isDigit_of_mem_toDigits (by decide) (by decide) h

lemma natOfDigits_repr (n : Nat) : Text.natOfDigits (Nat.repr n).toList = n := by
  have hread := Nat.ofDigitChars_toDigits (b := 10) (n := n) (by decide) (by decide)
  rw [← Nat.toList_repr] at hread
  simpa only [Text.natOfDigits, Nat.ofDigitChars, Nat.mul_comm 10] using hread

lemma toList_repr_ne_nil (n : Nat) : (Nat.repr n).toList ≠ [] := by
  rw [Nat.toList_repr]
  exact Nat.toDigits_ne_nil

lemma number?_of_head?_ne {arg : String} (h : arg.toList.head? ≠ some '+') :
    Command.number? arg = if arg.toList ≠ [] ∧ arg.toList.all Char.isDigit then
      some (Text.natOfDigits arg.toList) else none := by
  dsimp only [Command.number?]
  split
  · next rest heq => simp [heq] at h
  · rfl

/-- A written number is read back if it is not negative. -/
lemma number?_numeral (number : Int) : Command.number? (numeral number) =
    if 0 ≤ number then some number.toNat else none := by
  cases number with
  | ofNat n =>
    have hdigit : ∀ c ∈ (Nat.repr n).toList, c.isDigit := fun c => isDigit_of_mem_repr
    have hplus : (Nat.repr n).toList.head? ≠ some '+' := by
      intro heq
      exact absurd (hdigit '+' (List.mem_of_head? heq)) (by decide)
    rw [numeral, number?_of_head?_ne hplus, natOfDigits_repr,
      if_pos ⟨toList_repr_ne_nil n, List.all_eq_true.mpr hdigit⟩]
    exact (if_pos (Int.natCast_nonneg n)).symm
  | negSucc n =>
    have hchars : (numeral (.negSucc n)).toList = '-' :: (Nat.repr (n + 1)).toList := by
      simp [numeral]
    have hhyphen : Char.isDigit '-' = false := by decide
    rw [number?_of_head?_ne (by simp [hchars]), hchars]
    simp [hhyphen]

lemma isLiteral_of_mem_numeral {number : Int} {c : Char} (h : c ∈ (numeral number).toList) :
    isLiteral c := by
  have hdigit : ∀ n, c ∈ (Nat.repr n).toList → isLiteral c := by
    intro n hc
    have hc := isDigit_of_mem_repr hc
    have hname : Launch.isNameChar c := by simp [isNameChar_eq, Char.isAlphanum, hc]
    refine (isLiteral_of_isNameChar hname).resolve_right ?_
    rintro rfl
    cases hc
  cases number with
  | ofNat n => exact hdigit n h
  | negSucc n =>
    rw [numeral, String.toList_append, List.mem_append] at h
    rcases h with h | h
    · obtain rfl : c = '-' := by simpa using h
      decide
    · exact hdigit _ h

lemma toList_numeral_ne_nil (number : Int) : (numeral number).toList ≠ [] := by
  cases number with
  | ofNat n => exact toList_repr_ne_nil n
  | negSucc n => simp [numeral]

lemma ofLine_eraseLine (number : Int) :
    Words.ofLine (eraseLine number) = ["history", "-d", numeral number] := by
  have hliteral : ∀ c ∈ (numeral number).toList, isLiteral c := fun c => isLiteral_of_mem_numeral
  have hstart : EndsBetweenWords "history -d ".toList :=
    ⟨["history".toList, "-d".toList], by decide⟩
  have htoken : Token (numeral number).toList := by
    rw [← escapeChars_of_isLiteral hliteral]
    exact token_escapeChars fun c hc => .inl (hliteral c hc)
  have hchars : Completion.unescape (numeral number).toList = (numeral number).toList := by
    have hescaped := unescape_escapeChars (numeral number).toList
    rwa [escapeChars_of_isLiteral hliteral] at hescaped
  have hne : Completion.unescape (numeral number).toList ≠ [] := by
    rw [hchars]
    exact toList_numeral_ne_nil number
  have hread := ofLine_append_token hstart htoken hne
  rw [String.ofList_append, hchars, String.ofList_toList, String.ofList_toList] at hread
  exact hread

lemma trim_eraseLine (number : Int) : Text.trim (eraseLine number) = eraseLine number := by
  obtain ⟨front, last, hchars⟩ := (List.eq_nil_or_concat (numeral number).toList).resolve_left
    (toList_numeral_ne_nil number)
  rw [List.concat_eq_append] at hchars
  have hlast : isLiteral last := @isLiteral_of_mem_numeral number last (by simp [hchars])
  have hline : eraseLine number =
      String.ofList ('h' :: (("istory -d ".toList ++ front) ++ [last])) := by
    rw [← String.toList_inj, eraseLine, String.toList_append, hchars]
    simp
  rw [hline]
  exact trim_of_not_blank (by decide) (isBlank_of_isLiteral hlast) _

end Numbers

/-! ### Erasing what was shown -/

/-- The session with the position of recall behind the newest entry. -/
def rewound (s : Session σ) : Session σ :=
  { s with history := s.history.withEntries s.history.entries }

section Listing

variable {s : Session σ}

lemma entries_record_ne_nil (hroom : 0 < s.history.capacity) (line : String) :
    (s.record line).history.entries ≠ [] := by
  rw [history_record]
  by_cases haccepts : s.history.accepts line = true
  · rw [record_of_accepts haccepts]
    have hlast : (s.history.push line).entries.getLast? = some line :=
      (getLast?_newest hroom _).trans (List.getLast?_concat ..)
    intro hnil
    rw [hnil] at hlast
    cases hlast
  · rw [record_of_not_accepts haccepts]
    intro hnil
    have hentries : s.history.entries = [] := hnil
    exact haccepts (by simp [accepts, hentries])

/-- No use of the history is kept behind other lines. -/
lemma record_of_hasPrefix {line : String} (hentries : s.history.entries ≠ [])
    (hline : Text.hasPrefix "history" line = true) : s.record line = rewound s := by
  have haccepts : ¬s.history.accepts line = true := by
    rw [accepts_iff_enters, Enters]
    intro hfollows
    have hother := (hfollows _ (List.getLast?_eq_some_getLast hentries)).2
    rw [hline] at hother
    cases hother
  rw [Session.record, if_neg haccepts, record_of_not_accepts haccepts]
  rfl

lemma runLine_history (hentries : s.history.entries ≠ []) :
    Run.runLine .standard s "history" = (.lines s.history.entries, s) := by
  have hwords : Words.ofLine "history" = ["history"] := by decide
  have hran : Run.runWords .standard s ["history"] = Command.history s [] :=
    runWords_of_get? [] (by decide) (by decide) rfl
  rw [Run.runLine, hwords, hran]
  simp [Command.history, hentries, Output.ofResult]

/-- The entry that a written number names, or none. -/
lemma erase?_numeral (h : History) (number : Int) :
    (Command.number? (numeral number)).bind h.erase? =
      if 1 ≤ number ∧ number ≤ h.entries.length then
        some (h.withEntries (h.entries.take (number.toNat - 1) ++ h.entries.drop number.toNat))
      else none := by
  rw [number?_numeral]
  by_cases hsign : 0 ≤ number
  · rw [if_pos hsign, Option.bind_some, erase?]
    by_cases hin : 1 ≤ number ∧ number ≤ h.entries.length
    · have hnext : number.toNat - 1 + 1 = number.toNat := by omega
      rw [if_pos hin, if_neg (by omega), List.eraseIdx_eq_take_drop_succ, hnext]
    · rw [if_neg hin, if_pos (by omega)]
  · rw [if_neg hsign, if_neg (by omega), Option.bind_none]

lemma runWords_erase (s : Session σ) (number : Int) :
    Run.runWords .standard s ["history", "-d", numeral number] =
      Command.history s ["-d", numeral number] :=
  runWords_of_get? _ (by decide) (by decide) rfl

lemma runLine_eraseLine_of_le {number : Int}
    (hin : 1 ≤ number ∧ number ≤ s.history.entries.length) :
    Run.runLine .standard s (eraseLine number) =
      (.none, s.setHistory (s.history.withEntries
        (s.history.entries.take (number.toNat - 1) ++ s.history.entries.drop number.toNat))) := by
  have herase := erase?_numeral s.history number
  rw [if_pos hin] at herase
  simp only [Run.runLine, ofLine_eraseLine, runWords_erase, Command.history, herase]
  rfl

lemma runLine_eraseLine_of_not_le {number : Int}
    (hout : ¬(1 ≤ number ∧ number ≤ s.history.entries.length)) :
    Run.runLine .standard s (eraseLine number) =
      (.ofProblem (.usage "history: index out of range"), s) := by
  have herase := erase?_numeral s.history number
  rw [if_neg hout] at herase
  simp only [Run.runLine, ofLine_eraseLine, runWords_erase, Command.history, herase]
  rfl

end Listing

/-- A store that takes every value and gives it back. -/
def Accepting (store : σ) : Prop :=
  ∀ key value, get? (insert store key value).2 key = some value

/-- The entry of a number is erased without a word. The others stay in their order, and they are
stored. -/
structure ErasesShown (sh : Shell σ) (shown : List String) (number : Int) : Prop where
  events : (sh.submit (eraseLine number)).1 = [.line (sh.prompt ++ eraseLine number)]
  entries : (sh.submit (eraseLine number)).2.session.history.entries =
    shown.take (number.toNat - 1) ++ shown.drop number.toNat
  stored : Accepting sh.session.store →
    texts? (sh.submit (eraseLine number)).2.session.store historyKey =
      some (shown.take (number.toNat - 1) ++ shown.drop number.toNat)

/-- The number of no entry is refused. All entries stay, and so does what is stored. -/
structure RefusesNumber (sh : Shell σ) (shown : List String) (number : Int) : Prop where
  events : (sh.submit (eraseLine number)).1 =
    [.line (sh.prompt ++ eraseLine number), .line "history: index out of range"]
  entries : (sh.submit (eraseLine number)).2.session.history.entries = shown
  store : (sh.submit (eraseLine number)).2.session.store = sh.session.store

section Erasing

variable (sh : Shell σ)

lemma submit_history (hroom : 0 < sh.session.history.capacity) : sh.submit "history" =
    (.line (sh.prompt ++ "history") ::
        (sh.session.record "history").history.entries.map .line,
      { sh with session := sh.session.record "history" }) := by
  have htrim : Text.trim "history" = "history" := by decide
  have hne : Text.trim "history" ≠ "" := by decide
  rw [submit_of_not_blank hne, htrim, runLine_history (entries_record_ne_nil hroom _)]
  rfl

/-- The line that erases an entry is not kept, so it finds all entries in their places. -/
lemma submit_eraseLine (hentries : sh.session.history.entries ≠ []) (number : Int) :
    sh.submit (eraseLine number) =
      (.line (sh.prompt ++ eraseLine number) ::
          (Run.runLine .standard (rewound sh.session) (eraseLine number)).1.events,
        { sh with session :=
          (Run.runLine .standard (rewound sh.session) (eraseLine number)).2 }) := by
  have hhistory : Text.hasPrefix "history" (eraseLine number) = true := by
    rw [Text.hasPrefix, List.isPrefixOf_iff_prefix, eraseLine, String.toList_append]
    exact ⟨" -d ".toList ++ (numeral number).toList, by simp⟩
  have hne : Text.trim (eraseLine number) ≠ "" := by
    rw [trim_eraseLine]
    intro hnil
    rw [hnil] at hhistory
    cases hhistory
  rw [submit_of_not_blank hne, trim_eraseLine, record_of_hasPrefix hentries hhistory]

lemma erasesShown (hentries : sh.session.history.entries ≠ []) {number : Int}
    (hin : 1 ≤ number ∧ number ≤ sh.session.history.entries.length) :
    ErasesShown sh sh.session.history.entries number := by
  have hsubmit := submit_eraseLine sh hentries number
  rw [runLine_eraseLine_of_le (s := rewound sh.session) hin] at hsubmit
  constructor
  · rw [hsubmit]
    rfl
  · rw [hsubmit]
    rfl
  · intro haccepts
    have hkept : Accepting (rewound sh.session).store := haccepts
    rw [hsubmit]
    dsimp only [setHistory]
    rw [texts?, insertTexts, hkept]
    exact decodeTexts?_ofStrings _

lemma refusesNumber (hentries : sh.session.history.entries ≠ []) {number : Int}
    (hout : ¬(1 ≤ number ∧ number ≤ sh.session.history.entries.length)) :
    RefusesNumber sh sh.session.history.entries number := by
  have hline : '\n' ∉ (Problem.usage "history: index out of range").message.toList := by decide
  have hsubmit := submit_eraseLine sh hentries number
  rw [runLine_eraseLine_of_not_le (s := rewound sh.session) hout, events_ofProblem hline]
    at hsubmit
  constructor
  · rw [hsubmit]
    rfl
  · rw [hsubmit]
    rfl
  · rw [hsubmit]
    rfl

end Erasing

/-- The lines that `history` shows are numbered from one on: `history -d` with the number of a line
erases that entry and no other one, and is refused with any other number. -/
theorem shown_numbers_erase {sh : Shell σ} (hroom : 1 ≤ sh.session.history.capacity) :
    ∃ shown : List String,
      (sh.submit "history").1 = .line (sh.prompt ++ "history") :: shown.map .line ∧
      ∀ number : Int,
        (1 ≤ number ∧ number ≤ shown.length → ErasesShown (sh.submit "history").2 shown number) ∧
        (¬(1 ≤ number ∧ number ≤ shown.length) →
          RefusesNumber (sh.submit "history").2 shown number) := by
  have hentries : (sh.session.record "history").history.entries ≠ [] :=
    entries_record_ne_nil hroom "history"
  rw [submit_history sh hroom]
  refine ⟨_, rfl, fun number => ⟨fun hin => ?_, fun hout => ?_⟩⟩
  · exact erasesShown { sh with session := sh.session.record "history" } hentries hin
  · exact refusesNumber { sh with session := sh.session.record "history" } hentries hout

/-- A full history in the middle of a recall. Its older entry is erased and stored no more, and there
is no entry with a negative number. -/
theorem shown_numbers_erase_full :
    let sh : Shell Memory := .ofSession { scriptSession with history := ⟨["ls", "pwd"], 2, 1⟩ }
    1 ≤ sh.session.history.capacity ∧
      ErasesShown (sh.submit "history").2 ["ls", "pwd"] 1 ∧
      RefusesNumber (sh.submit "history").2 ["ls", "pwd"] (-1) ∧
      texts? ((sh.submit "history").2.submit "history -d 1").2.session.store historyKey =
        some ["pwd"] := by
  intro sh
  have hroom : 1 ≤ sh.session.history.capacity := by decide
  obtain ⟨shown, hshown, hnumbers⟩ := shown_numbers_erase hroom
  have hlines : (sh.submit "history").1 =
      .line (sh.prompt ++ "history") :: ["ls", "pwd"].map .line := by decide +kernel
  obtain rfl : shown = ["ls", "pwd"] := by
    have hmap := (List.cons.inj (hshown.symm.trans hlines)).2
    exact List.map_injective_iff.mpr (fun _ _ => Event.line.inj) hmap
  have herases := (hnumbers 1).1 (by decide)
  have haccepting : Accepting (sh.submit "history").2.session.store :=
    fun key value => get?_insert_self _ key value
  exact ⟨hroom, herases, (hnumbers (-1)).2 (by decide), herases.stored haccepting⟩

end SeedShell.Proofs
