import SeedShell.Proofs.TypedWords

/-!
# Spellings of words

A word may be written in many ways: each character as it is or behind a backslash, and any part
of the word between two marks. However the words of a line are spelled, and whatever blanks stand
around them, the scanner reads these words and no others.
-/

namespace SeedShell.Proofs

open Words

/-! ### Pieces of a word -/

/-- A part of a word and its text between two marks. The mark and the backslash need a backslash
there. -/
inductive SpellsInside (mark : Char) : List Char → List Char → Prop
  | nil : SpellsInside mark [] []
  | plain {c : Char} {part text : List Char} : c ≠ mark → c ≠ '\\' →
    SpellsInside mark part text → SpellsInside mark (c :: part) (c :: text)
  | escaped (c : Char) {part text : List Char} : SpellsInside mark part text →
    SpellsInside mark (c :: part) ('\\' :: c :: text)

/-- A word and a text for it, piece by piece. -/
inductive Spells : List Char → List Char → Prop
  | nil : Spells [] []
  | bare {c : Char} {word text : List Char} : isLiteral c → Spells word text →
    Spells (c :: word) (c :: text)
  | escaped (c : Char) {word text : List Char} : Spells word text →
    Spells (c :: word) ('\\' :: c :: text)
  | quoted {mark : Char} {part inside word text : List Char} : isQuote mark →
    SpellsInside mark part inside → Spells word text →
    Spells (part ++ word) (mark :: (inside ++ mark :: text))

/-- The words of a line and a text for it. A word ends at a blank or at the end of the line. -/
inductive SpellsLine : List String → List Char → Prop
  | nil : SpellsLine [] []
  | blank {c : Char} {words : List String} {text : List Char} : Text.isBlank c →
    SpellsLine words text → SpellsLine words (c :: text)
  | word {word : String} {words : List String} {spelled rest : List Char} : word ≠ "" →
    Spells word.toList spelled → (∀ c ∈ rest.head?, Text.isBlank c) → SpellsLine words rest →
    SpellsLine (word :: words) (spelled ++ rest)

/-! ### Scanning pieces -/

section Scanning

variable (words : List (List Char)) (word : List Char)

lemma step_open {mark : Char} (h : isQuote mark) :
    Scan.step ⟨words, word, .bare, false⟩ mark = ⟨words, word, .quoted mark, false⟩ := by
  have hbackslash : mark ≠ '\\' := by
    rintro rfl
    cases h
  simp [Scan.step, hbackslash, h]

lemma step_shut {mark : Char} (h : isQuote mark) :
    Scan.step ⟨words, word, .quoted mark, false⟩ mark = ⟨words, word, .bare, false⟩ := by
  have hbackslash : mark ≠ '\\' := by
    rintro rfl
    cases h
  simp [Scan.step, hbackslash]

variable {words word}

/-- Between two marks the scanner takes the part into the word, and the quote stays open. -/
lemma SpellsInside.foldl_step {mark : Char} {part inside : List Char}
    (h : SpellsInside mark part inside) :
    inside.foldl Scan.step ⟨words, word, .quoted mark, false⟩ =
      ⟨words, word ++ part, .quoted mark, false⟩ := by
  induction h generalizing word with
  | nil => simp
  | @plain c part text hmark hbackslash _ ih =>
    have hstep : Scan.step ⟨words, word, .quoted mark, false⟩ c =
        ⟨words, word ++ [c], .quoted mark, false⟩ := by
      simp [Scan.step, hmark, hbackslash, Scan.keep]
    rw [List.foldl_cons, hstep, ih, List.append_assoc, List.singleton_append]
  | escaped c _ ih =>
    rw [List.foldl_cons, List.foldl_cons, step_escape, ih, List.append_assoc,
      List.singleton_append]

/-- A spelled word is taken whole, and the scanner is outside of quotes again. -/
lemma Spells.foldl_step {spelled text : List Char} (h : Spells spelled text) :
    text.foldl Scan.step ⟨words, word, .bare, false⟩ =
      ⟨words, word ++ spelled, .bare, false⟩ := by
  induction h generalizing word with
  | nil => simp
  | bare hc _ ih =>
    rw [List.foldl_cons, step_literal hc, ih, List.append_assoc, List.singleton_append]
  | escaped c _ ih =>
    rw [List.foldl_cons, List.foldl_cons, step_escape, ih, List.append_assoc,
      List.singleton_append]
  | quoted hmark hinside _ ih =>
    rw [List.foldl_cons, step_open _ _ hmark, List.foldl_append, hinside.foldl_step,
      List.foldl_cons, step_shut _ _ hmark, ih, List.append_assoc]

/-- A blank or the end of the line ends a word. -/
lemma words_close_foldl {rest : List Char} (hempty : word ≠ [])
    (hrest : ∀ c ∈ rest.head?, Text.isBlank c) :
    (rest.foldl Scan.step ⟨words, word, .bare, false⟩).close.words =
      (rest.foldl Scan.step { words := words ++ [word] }).close.words := by
  have hclose : Scan.close ⟨words, word, .bare, false⟩ = { words := words ++ [word] } := by
    simp [Scan.close, hempty]
  cases rest with
  | nil =>
    rw [List.foldl_nil, List.foldl_nil, hclose]
    rfl
  | cons c rest =>
    have hblank : Text.isBlank c := hrest c rfl
    have hagain : Scan.step { words := words ++ [word] } c = { words := words ++ [word] } :=
      step_blank _ _ hblank
    rw [List.foldl_cons, List.foldl_cons, step_blank _ _ hblank, hclose, hagain]

end Scanning

/-! ### Scanning lines -/

lemma SpellsLine.foldl_step {words : List String} {text : List Char} (h : SpellsLine words text)
    (before : List (List Char)) : (text.foldl Scan.step { words := before }).close.words =
      before ++ words.map String.toList := by
  induction h generalizing before with
  | nil => simp [Scan.close]
  | @blank c words text hblank _ ih =>
    have hstep : Scan.step { words := before } c = { words := before } := step_blank _ _ hblank
    rw [List.foldl_cons, hstep, ih]
  | @word word words spelled rest hempty hspelled hrest _ ih =>
    have hchars : word.toList ≠ [] := by simpa using hempty
    rw [List.foldl_append, hspelled.foldl_step, List.nil_append, words_close_foldl hchars hrest,
      ih, List.append_assoc, List.map_cons, List.singleton_append]

lemma SpellsLine.ofLine_eq {words : List String} {line : String}
    (h : SpellsLine words line.toList) : ofLine line = words := by
  have hscan : scan line.toList = words.map String.toList := by
    rw [scan, h.foldl_step, List.nil_append]
  rw [ofLine, hscan, List.map_map]
  simp [Function.comp_def]

/-! ### Words that can be spelled -/

lemma ne_nil_of_mem_close {s : Scan} (h : ∀ word ∈ s.words, word ≠ []) :
    ∀ word ∈ s.close.words, word ≠ [] := by
  unfold Scan.close
  split
  · exact h
  · next hempty =>
    intro word hword
    rcases List.mem_append.mp hword with hword | hword
    · exact h word hword
    · rwa [List.mem_singleton.mp hword]

lemma ne_nil_of_mem_foldl {s : Scan} (h : ∀ word ∈ s.words, word ≠ []) (cs : List Char) :
    ∀ word ∈ (cs.foldl Scan.step s).words, word ≠ [] := by
  induction cs generalizing s with
  | nil => exact h
  | cons c cs ih =>
    apply ih
    rcases s with ⟨words, word, mode, escaped⟩
    rcases step_cases mode escaped c with ⟨mode', escaped', -, hstep⟩ | hstep | hstep
    · rwa [hstep]
    · rwa [hstep]
    · rw [hstep]
      exact ne_nil_of_mem_close h

/-- No word is empty. -/
lemma ne_empty_of_mem_ofLine {line word : String} (h : word ∈ ofLine line) : word ≠ "" := by
  obtain ⟨chars, hchars, rfl⟩ := List.mem_map.mp h
  have hstart : ∀ word ∈ ({} : Scan).words, word ≠ [] := by simp
  have hne : chars ≠ [] :=
    ne_nil_of_mem_close (ne_nil_of_mem_foldl hstart line.toList) chars hchars
  simpa using hne

/-- Every word can be spelled: with a backslash before each character. -/
lemma exists_spells (word : List Char) : ∃ text, Spells word text := by
  induction word with
  | nil => exact ⟨[], .nil⟩
  | cons c word ih =>
    obtain ⟨text, htext⟩ := ih
    exact ⟨'\\' :: c :: text, .escaped c htext⟩

lemma exists_spellsLine {words : List String} (h : ∀ word ∈ words, word ≠ "") :
    ∃ line : String, SpellsLine words line.toList := by
  induction words with
  | nil => exact ⟨"", .nil⟩
  | cons word words ih =>
    obtain ⟨line, hline⟩ := ih fun other hother => h other (List.mem_cons_of_mem word hother)
    obtain ⟨spelled, hspelled⟩ := exists_spells word.toList
    have hblank : Text.isBlank ' ' := by decide
    have hends : ∀ c ∈ (' ' :: line.toList).head?, Text.isBlank c := by
      intro c hc
      obtain rfl := Option.some.inj hc
      exact hblank
    refine ⟨String.ofList (spelled ++ ' ' :: line.toList), ?_⟩
    rw [String.toList_ofList]
    exact .word (h word List.mem_cons_self) hspelled hends (.blank hblank hline)

/-- A line is read as the words that it spells. What is read of any line can be spelled again, and
each way to do so is read as the same words. -/
theorem spelled_line_is_read :
    (∀ words (line : String), SpellsLine words line.toList → ofLine line = words) ∧
      ∀ line, (∃ again : String, SpellsLine (ofLine line) again.toList) ∧
        ∀ again : String, SpellsLine (ofLine line) again.toList → ofLine again = ofLine line := by
  refine ⟨fun words line h => h.ofLine_eq, fun line => ⟨?_, fun again h => h.ofLine_eq⟩⟩
  apply exists_spellsLine
  intro word hword
  exact ne_empty_of_mem_ofLine hword

/-- The other mark inside a quote, an escaped blank behind it, and a mark escaped inside its own
quote. -/
theorem spelled_line_is_read_marks :
    SpellsLine ["it's b", "'"] " \"it's\"\\ b  '\\''\t".toList ∧
      ofLine " \"it's\"\\ b  '\\''\t" = ["it's b", "'"] := by
  have hinside : SpellsInside '"' ['i', 't', '\'', 's'] ['i', 't', '\'', 's'] :=
    .plain (by decide) (by decide) <| .plain (by decide) (by decide) <|
      .plain (by decide) (by decide) <| .plain (by decide) (by decide) .nil
  have hfirst : Spells (['i', 't', '\'', 's'] ++ [' ', 'b'])
      ('"' :: (['i', 't', '\'', 's'] ++ '"' :: ['\\', ' ', 'b'])) :=
    .quoted (by decide) hinside (.escaped ' ' (.bare (by decide) .nil))
  have hsecond : Spells (['\''] ++ []) ('\'' :: (['\\', '\''] ++ '\'' :: [])) :=
    .quoted (by decide) (.escaped '\'' .nil) .nil
  have hends : ∀ cs : List Char, ∀ c ∈ (' ' :: cs).head?, Text.isBlank c := by
    rintro cs c ⟨⟩
    decide
  have htab : ∀ c ∈ ['\t'].head?, Text.isBlank c := by
    rintro c ⟨⟩
    decide
  have hlast : SpellsLine ["'"] (('\'' :: (['\\', '\''] ++ '\'' :: [])) ++ ['\t']) :=
    .word (by decide) hsecond htab (.blank (by decide) .nil)
  have hwords : SpellsLine ["it's b", "'"]
      (('"' :: (['i', 't', '\'', 's'] ++ '"' :: ['\\', ' ', 'b'])) ++
        ' ' :: ' ' :: (('\'' :: (['\\', '\''] ++ '\'' :: [])) ++ ['\t'])) :=
    .word (by decide) hfirst (hends _) (.blank (by decide) (.blank (by decide) hlast))
  have hblank : Text.isBlank ' ' := by decide
  have hline : SpellsLine ["it's b", "'"] " \"it's\"\\ b  '\\''\t".toList :=
    .blank hblank hwords
  exact ⟨hline, spelled_line_is_read.1 _ _ hline⟩

end SeedShell.Proofs
