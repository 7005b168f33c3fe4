import SeedShell.Proofs.Spelling

/-!
# Lines scanned in parts

What a line is read as after some of its text depends on the scanner's state there. Inside a quote
and behind a backslash a blank is one more character of the open word. Elsewhere it divides the
line, and both parts are read as if they stood alone. A name whose spaces are escaped is read as
one word exactly if no other character of it has a meaning for the scanner: each such character
costs one that was to be read, and escaping makes up for spaces alone.
-/

namespace SeedShell.Proofs

open Words

/-! ### Finished words -/

/-- The state with some words before those that it has finished. -/
def prepend (words : List (List Char)) (s : Scan) : Scan := { s with words := words ++ s.words }

section Prepending

variable (words : List (List Char)) (s : Scan)

lemma close_prepend : (prepend words s).close = prepend words s.close := by
  unfold prepend Scan.close
  split
  · rfl
  · simp

lemma step_prepend (c : Char) : (prepend words s).step c = prepend words (s.step c) := by
  rcases s with ⟨finished, word, mode, escaped⟩
  rcases step_cases mode escaped c with ⟨mode', escaped', -, hstep⟩ | hstep | hstep
  · rw [hstep, prepend, hstep]
    rfl
  · rw [hstep, prepend, hstep]
    rfl
  · rw [hstep, ← close_prepend, prepend, hstep]

lemma foldl_prepend (cs : List Char) :
    cs.foldl Scan.step (prepend words s) = prepend words (cs.foldl Scan.step s) := by
  induction cs generalizing s with
  | nil => rfl
  | cons c cs ih => rw [List.foldl_cons, step_prepend, ih, List.foldl_cons]

end Prepending

/-! ### Blanks -/

/-- The scanner's state after a text. -/
def scanned (text : String) : Scan := text.toList.foldl Scan.step {}

/-- The scanner is inside a quote or right behind a backslash that waits for its character. -/
def IsOpen (s : Scan) : Prop := s.escaped = true ∨ s.mode ≠ .bare

instance (s : Scan) : Decidable (IsOpen s) := inferInstanceAs (Decidable (_ ∨ _))

/-- Only a quotation mark opens a quote. -/
def QuotedByMark (s : Scan) : Prop := ∀ mark, s.mode = .quoted mark → isQuote mark

lemma QuotedByMark.step {s : Scan} (h : QuotedByMark s) (c : Char) : QuotedByMark (s.step c) := by
  rcases s with ⟨words, word, mode, escaped⟩
  intro mark
  rcases step_cases mode escaped c with ⟨mode', escaped', hmode, hstep⟩ | hstep | hstep
  · rw [hstep]
    intro hmark
    rcases hmode mark hmark with hbefore | hquote
    · exact h mark hbefore
    · exact hquote
  · rw [hstep]
    exact h mark
  · rw [hstep, Scan.close]
    split
    · exact h mark
    · exact h mark

lemma quotedByMark_scanned (text : String) : QuotedByMark (scanned text) := by
  have hfold : ∀ cs : List Char, ∀ s, QuotedByMark s → QuotedByMark (cs.foldl Scan.step s) := by
    intro cs
    induction cs with
    | nil => exact fun _ h => h
    | cons c cs ih => exact fun s h => ih _ (h.step c)
  apply hfold
  nofun

section Blanks

variable {s : Scan} {blank : Char} (hblank : Text.isBlank blank)
include hblank

lemma step_blank_of_isOpen (hmark : QuotedByMark s) (hopen : IsOpen s) :
    s.step blank = s.keep blank := by
  have hbackslash := ne_backslash_of_isBlank hblank
  rcases s with ⟨words, word, mode, escaped⟩
  cases escaped with
  | true => rfl
  | false =>
    cases mode with
    | bare => simp [IsOpen] at hopen
    | quoted mark =>
      have hne : blank ≠ mark := by
        rintro rfl
        have hquote := hmark blank rfl
        rw [isQuote_of_isBlank hblank] at hquote
        cases hquote
      simp [Scan.step, hbackslash, hne]

lemma step_blank_of_not_isOpen (hopen : ¬IsOpen s) :
    s.step blank = prepend s.close.words {} := by
  rcases s with ⟨words, word, mode, escaped⟩
  simp only [IsOpen, not_or, Bool.not_eq_true, not_not] at hopen
  obtain ⟨rfl, rfl⟩ := hopen
  rw [step_blank words word hblank]
  unfold prepend Scan.close
  split
  · next hempty => simp_all
  · simp

end Blanks

/-- A word that has a character is finished with all that it has. -/
lemma exists_words_of_ne_nil {s : Scan} (h : s.word ≠ []) (cs : List Char) :
    ∃ rest more, (cs.foldl Scan.step s).close.words = s.words ++ (s.word ++ rest) :: more := by
  induction cs generalizing s with
  | nil => exact ⟨[], [], by simp [Scan.close, h]⟩
  | cons c cs ih =>
    rcases s with ⟨words, word, mode, escaped⟩
    rw [List.foldl_cons]
    rcases step_cases mode escaped c with ⟨mode', escaped', -, hstep⟩ | hstep | hstep
    · rw [hstep]
      exact ih h
    · obtain ⟨rest, more, hwords⟩ :=
        ih (s := Scan.keep ⟨words, word, mode, escaped⟩ c) (by simp [Scan.keep])
      refine ⟨c :: rest, more, ?_⟩
      rw [hstep, hwords]
      simp [Scan.keep]
    · have hclose : Scan.close ⟨words, word, mode, escaped⟩ =
          prepend (words ++ [word]) ⟨[], [], mode, escaped⟩ := by
        simp only [Scan.close, if_neg h, prepend, List.append_nil]
      refine ⟨[], (cs.foldl Scan.step ⟨[], [], mode, escaped⟩).close.words, ?_⟩
      rw [hstep, hclose, foldl_prepend, close_prepend]
      simp [prepend]

/-- A word that begins with a literal character begins with it. -/
lemma exists_ofLine_of_literal {before : List Char} {words : List (List Char)}
    (hbefore : before.foldl Scan.step {} = { words }) {c : Char} (hc : isLiteral c)
    (cs : List Char) : ∃ word rest, ofLine (String.ofList (before ++ c :: cs)) =
      words.map String.ofList ++ String.ofList (c :: word) :: rest := by
  obtain ⟨word, rest, hwords⟩ :=
    exists_words_of_ne_nil (s := ⟨words, [c], .bare, false⟩) (List.cons_ne_nil c []) cs
  refine ⟨word, rest.map String.ofList, ?_⟩
  simp only [ofLine, scan, String.toList_ofList, List.foldl_append, List.foldl_cons, hbefore]
  rw [step_literal hc, List.nil_append, hwords]
  simp

/-- The words of a line up to the end of a text: those that are finished there, and the open one
if it has a character. -/
lemma ofLine_eq_scanned (line : String) :
    ofLine line = (scanned line).close.words.map String.ofList := rfl

lemma scanned_append (a b : String) :
    scanned (a ++ b) = b.toList.foldl Scan.step (scanned a) := by
  rw [scanned, String.toList_append, List.foldl_append]
  rfl

/-- No word is empty. A blank between words divides a line into two that are read apart, and a
blank inside an open word belongs to it. -/
theorem scanning_composes :
    (∀ line, ∀ word ∈ ofLine line, word ≠ "") ∧
    ∀ (a b : String) (blank : Char), Text.isBlank blank →
      (¬IsOpen (scanned a) → ofLine (a.push blank ++ b) = ofLine a ++ ofLine b) ∧
      (IsOpen (scanned a) → scanned (a.push blank) = (scanned a).keep blank ∧
        ∃ rest more, ofLine (a.push blank ++ b) =
          (scanned a).words.map String.ofList ++
            ((String.ofList (scanned a).word).push blank ++ rest) :: more) := by
  refine ⟨fun line word => ne_empty_of_mem_ofLine, fun a b blank hblank => ?_⟩
  have hstep : scanned (a.push blank) = (scanned a).step blank := by
    rw [scanned, String.toList_push, List.foldl_append]
    rfl
  constructor
  · intro hopen
    rw [ofLine_eq_scanned, scanned_append, hstep, step_blank_of_not_isOpen hblank hopen,
      foldl_prepend, close_prepend]
    exact List.map_append
  · intro hopen
    have hkeep := step_blank_of_isOpen hblank (quotedByMark_scanned a) hopen
    refine ⟨hstep.trans hkeep, ?_⟩
    obtain ⟨rest, more, hwords⟩ :=
      exists_words_of_ne_nil (s := (scanned a).keep blank) (by simp [Scan.keep]) b.toList
    refine ⟨String.ofList rest, more.map String.ofList, ?_⟩
    rw [ofLine_eq_scanned, scanned_append, hstep, hkeep, hwords]
    have hpush : String.ofList ((scanned a).word ++ [blank] ++ rest) =
        (String.ofList (scanned a).word).push blank ++ String.ofList rest := by
      rw [← String.toList_inj]
      simp
    simp only [Scan.keep, List.map_append, List.map_cons, hpush]

/-- A tab behind a shut quote divides the line; behind a backslash in a quote it is kept. -/
theorem scanning_composes_tab :
    Text.isBlank '\t' ∧ ¬IsOpen (scanned "ls 'a'") ∧
      ofLine "ls 'a'\tb c" = ofLine "ls 'a'" ++ ofLine "b c" ∧ IsOpen (scanned "ls 'a\\") ∧
      ∃ rest more, ofLine "ls 'a\\\tb c" = ["ls"] ++ ("a\t" ++ rest) :: more := by
  have hblank : Text.isBlank '\t' := by decide
  have hshut : ¬IsOpen (scanned "ls 'a'") := by decide
  have hopen : IsOpen (scanned "ls 'a\\") := by decide
  obtain ⟨hdivided, -⟩ := scanning_composes.2 "ls 'a'" "b c" '\t' hblank
  obtain ⟨-, hkept⟩ := scanning_composes.2 "ls 'a\\" "b c" '\t' hblank
  obtain ⟨-, rest, more, hwords⟩ := hkept hopen
  exact ⟨hblank, hshut, hdivided hshut, hopen, rest, more, hwords⟩

/-! ### Escaped names -/

/-- The number of characters that have been taken into words. -/
def taken (s : Scan) : Nat := s.words.flatten.length + s.word.length

/-- What has been taken, and the character that a waiting backslash is going to take. -/
def promised (s : Scan) : Nat := taken s + if s.escaped then 1 else 0

lemma taken_close (s : Scan) : taken s.close = taken s := by
  unfold taken Scan.close
  split
  · rfl
  · simp

lemma escaped_close (s : Scan) : s.close.escaped = s.escaped := by
  unfold Scan.close
  split <;> rfl

lemma taken_keep (s : Scan) (c : Char) : taken (s.keep c) = taken s + 1 := by
  simp only [taken, Scan.keep, List.length_append, List.length_singleton, Nat.add_assoc]

lemma taken_le_promised (s : Scan) : taken s ≤ promised s := Nat.le_add_right _ _

lemma promised_of_not_escaped {s : Scan} (h : s.escaped = false) : promised s = taken s := by
  rw [promised, h]
  rfl

lemma promised_step_of_escaped {s : Scan} (h : s.escaped = true) (c : Char) :
    promised (s.step c) = promised s := by
  have hstep : s.step c = s.keep c := by rw [Scan.step, if_pos h]
  rw [hstep, promised_of_not_escaped rfl, taken_keep, promised, if_pos h]

lemma promised_step_le (s : Scan) (c : Char) : promised (s.step c) ≤ promised s + 1 := by
  cases hescaped : s.escaped with
  | true =>
    rw [promised_step_of_escaped hescaped]
    exact Nat.le_succ _
  | false =>
    rw [promised_of_not_escaped hescaped]
    rcases s with ⟨words, word, mode, escaped⟩
    rcases step_cases mode escaped c with ⟨mode', escaped', -, hstep⟩ | hstep | hstep
    · rw [hstep, promised]
      apply Nat.add_le_add_left
      split <;> omega
    · rw [hstep, promised_of_not_escaped rfl, taken_keep]
    · rw [hstep, promised_of_not_escaped ((escaped_close _).trans hescaped), taken_close]
      exact Nat.le_succ _

/-- A character of a name is worth at most one, also where it is a space and written with two. -/
lemma promised_escapeChars_singleton_le (s : Scan) (c : Char) :
    promised ((escapeChars [c]).foldl Scan.step s) ≤ promised s + 1 := by
  by_cases hc : c = ' '
  · subst hc
    rw [escapeChars_cons_space]
    cases hescaped : s.escaped with
    | true =>
      -- the backslash that was inserted is taken by the one before it
      have hfirst := promised_step_of_escaped hescaped '\\'
      have hsecond := promised_step_le (s.step '\\') ' '
      exact hfirst ▸ hsecond
    | false =>
      rcases s with ⟨words, word, mode, escaped⟩
      obtain rfl : escaped = false := hescaped
      have hpair : (['\\', ' '] : List Char).foldl Scan.step ⟨words, word, mode, false⟩ =
          Scan.keep ⟨words, word, mode, false⟩ ' ' := step_escape words word mode ' '
      have hkeep : promised (Scan.keep ⟨words, word, mode, false⟩ ' ') =
          promised ⟨words, word, mode, false⟩ + 1 := by
        rw [promised_of_not_escaped rfl, promised_of_not_escaped rfl, taken_keep]
      exact Nat.le_of_eq ((congrArg promised hpair).trans hkeep)
  · rw [escapeChars_cons_of_ne hc]
    exact promised_step_le s c

/-- Behind a backslash of the name that is outside of quotes, a character only keeps the promise. -/
lemma promised_escapeChars_singleton_of_escaped (words : List (List Char)) (word : List Char)
    (c : Char) : promised ((escapeChars [c]).foldl Scan.step ⟨words, word, .bare, true⟩) =
      promised ⟨words, word, .bare, true⟩ := by
  have htake : ∀ d, Scan.step ⟨words, word, .bare, true⟩ d = ⟨words, word ++ [d], .bare, false⟩ :=
    fun _ => rfl
  by_cases hc : c = ' '
  · subst hc
    have hblank : Text.isBlank ' ' := by decide
    rw [escapeChars_cons_space, List.foldl_cons, List.foldl_cons, htake, step_blank _ _ hblank]
    exact (promised_of_not_escaped (escaped_close _)).trans
      ((taken_close _).trans (taken_keep ⟨words, word, .bare, true⟩ '\\'))
  · rw [escapeChars_cons_of_ne hc]
    exact promised_step_of_escaped (s := ⟨words, word, .bare, true⟩) rfl c

/-- A quotation mark or a blank outside of quotes is not taken into a word. -/
lemma promised_step_of_not_isLiteral (words : List (List Char)) (word : List Char) {c : Char}
    (hbackslash : c ≠ '\\') (hliteral : ¬isLiteral c) :
    promised (Scan.step ⟨words, word, .bare, false⟩ c) = taken ⟨words, word, .bare, false⟩ := by
  cases hquote : isQuote c with
  | true =>
    rw [step_open words word hquote, promised_of_not_escaped rfl]
    rfl
  | false =>
    have hblank : Text.isBlank c := by simpa [isLiteral, hbackslash, hquote] using hliteral
    rw [step_blank words word hblank, promised_of_not_escaped (escaped_close _), taken_close]

/-! ### Written texts -/

/-- A way to write the characters of a text in a line. Outside of quotes a plain character is taken
into the word. Any other one is written as it is and has a meaning for the scanner. -/
structure Writes (write : Char → List Char) (plain : Char → Prop) : Prop where
  promised_le : ∀ s c, promised ((write c).foldl Scan.step s) ≤ promised s + 1
  promised_of_waiting : ∀ words word c,
    promised ((write c).foldl Scan.step ⟨words, word, .bare, true⟩) =
      promised ⟨words, word, .bare, true⟩
  plain_eq : ∀ words word c, plain c →
    (write c).foldl Scan.step ⟨words, word, .bare, false⟩ = ⟨words, word ++ [c], .bare, false⟩
  other_eq : ∀ c, ¬plain c → write c = [c] ∧ ¬isLiteral c

namespace Writes

variable {write : Char → List Char} {plain : Char → Prop} (h : Writes write plain)
include h

lemma promised_flatMap_le (s : Scan) (cs : List Char) :
    promised ((cs.flatMap write).foldl Scan.step s) ≤ promised s + cs.length := by
  induction cs generalizing s with
  | nil => exact Nat.le_refl _
  | cons c cs ih =>
    have hhead := h.promised_le s c
    have htail := ih ((write c).foldl Scan.step s)
    rw [List.flatMap_cons, List.foldl_append, List.length_cons]
    omega

/-- A character with a meaning for the scanner costs one that is not made up for. -/
lemma taken_lt (words : List (List Char)) (word : List Char) {cs : List Char}
    (hcs : ∃ c ∈ cs, ¬plain c) :
    taken ((cs.flatMap write).foldl Scan.step ⟨words, word, .bare, false⟩) <
      taken ⟨words, word, .bare, false⟩ + cs.length := by
  induction cs generalizing word with
  | nil => simp at hcs
  | cons c cs ih =>
    rw [List.flatMap_cons, List.foldl_append, List.length_cons]
    by_cases hplain : plain c
    · have hrest := ih (word ++ [c]) (by simpa [hplain] using hcs)
      have hkeep : taken ⟨words, word ++ [c], .bare, false⟩ =
          taken ⟨words, word, .bare, false⟩ + 1 := taken_keep ⟨words, word, .bare, false⟩ c
      rw [h.plain_eq words word c hplain]
      omega
    obtain ⟨hself, hliteral⟩ := h.other_eq c hplain
    rw [hself, List.foldl_cons, List.foldl_nil]
    by_cases hbackslash : c = '\\'
    · subst hbackslash
      have hstep : Scan.step ⟨words, word, .bare, false⟩ '\\' = ⟨words, word, .bare, true⟩ := rfl
      have hwaiting : promised ⟨words, word, .bare, true⟩ =
        taken ⟨words, word, .bare, false⟩ + 1 := rfl
      rw [hstep]
      cases cs with
      | nil => exact Nat.lt_succ_self _
      | cons d ds =>
        have hhead := h.promised_of_waiting words word d
        have htail := h.promised_flatMap_le
          ((write d).foldl Scan.step ⟨words, word, .bare, true⟩) ds
        have hle := taken_le_promised ((ds.flatMap write).foldl Scan.step
          ((write d).foldl Scan.step ⟨words, word, .bare, true⟩))
        rw [List.flatMap_cons, List.foldl_append, List.length_cons]
        omega
    · have hhead := promised_step_of_not_isLiteral words word hbackslash hliteral
      have htail := h.promised_flatMap_le (Scan.step ⟨words, word, .bare, false⟩ c) cs
      have hle := taken_le_promised
        ((cs.flatMap write).foldl Scan.step (Scan.step ⟨words, word, .bare, false⟩ c))
      omega

end Writes

/-- Texts as they are. -/
lemma writes_self : Writes ([·]) (isLiteral ·) where
  promised_le := promised_step_le
  promised_of_waiting words word := promised_step_of_escaped (s := ⟨words, word, .bare, true⟩) rfl
  plain_eq words word _ hliteral := step_literal hliteral words word
  other_eq _ hliteral := ⟨rfl, hliteral⟩

/-- Texts with their spaces escaped. -/
lemma writes_escaped : Writes (fun c => escapeChars [c]) fun c => isLiteral c ∨ c = ' ' where
  promised_le := promised_escapeChars_singleton_le
  promised_of_waiting := promised_escapeChars_singleton_of_escaped
  plain_eq words word c hplain := by
    rcases hplain with hliteral | rfl
    · rw [escapeChars_cons_of_ne (ne_space_of_isLiteral hliteral)]
      exact step_literal hliteral words word
    · exact step_escape words word .bare ' '
  other_eq c hother := by
    rw [not_or] at hother
    exact ⟨escapeChars_cons_of_ne hother.2 [], hother.1⟩

lemma flatMap_escapeChars_singleton (cs : List Char) :
    cs.flatMap (fun c => escapeChars [c]) = escapeChars cs := by
  simp only [escapeChars, List.flatMap_singleton]

lemma promised_foldl_le (s : Scan) (cs : List Char) :
    promised (cs.foldl Scan.step s) ≤ promised s + cs.length := by
  have hle := writes_self.promised_flatMap_le s cs
  rwa [List.flatMap_singleton'] at hle

lemma taken_scanned_le (line : String) : taken (scanned line) ≤ line.length := by
  have hbound := promised_foldl_le {} line.toList
  have hle := taken_le_promised (scanned line)
  have hzero : promised {} = 0 := rfl
  rw [hzero, Nat.zero_add, String.length_toList] at hbound
  exact hle.trans hbound

lemma taken_foldl_lt (words : List (List Char)) (word : List Char) {cs : List Char}
    (h : ∃ c ∈ cs, ¬isLiteral c) : taken (cs.foldl Scan.step ⟨words, word, .bare, false⟩) <
      taken ⟨words, word, .bare, false⟩ + cs.length := by
  have hlt := writes_self.taken_lt words word h
  rwa [List.flatMap_singleton'] at hlt

lemma promised_escapeChars_le (s : Scan) (cs : List Char) :
    promised ((escapeChars cs).foldl Scan.step s) ≤ promised s + cs.length := by
  have hle := writes_escaped.promised_flatMap_le s cs
  rwa [flatMap_escapeChars_singleton] at hle

lemma taken_escapeChars_lt (words : List (List Char)) (word : List Char) {cs : List Char}
    (h : ∃ c ∈ cs, ¬isLiteral c ∧ c ≠ ' ') :
    taken ((escapeChars cs).foldl Scan.step ⟨words, word, .bare, false⟩) <
      taken ⟨words, word, .bare, false⟩ + cs.length := by
  simp only [← not_or] at h
  have hlt := writes_escaped.taken_lt words word h
  rwa [flatMap_escapeChars_singleton] at hlt

/-- A backslash at the end of a text takes the next character, so what the text has lost stays
lost. -/
lemma promised_step_lt {s : Scan} {n : Nat} (htaken : taken s < n) (hpromised : promised s ≤ n)
    (c : Char) : promised (s.step c) < n + 1 := by
  cases hescaped : s.escaped with
  | true =>
    rw [promised_step_of_escaped hescaped]
    exact Nat.lt_succ_of_le hpromised
  | false =>
    have hstep := promised_step_le s c
    rw [promised_of_not_escaped hescaped] at hstep
    omega

lemma length_flatten_words_close (s : Scan) : s.close.words.flatten.length = taken s := by
  unfold taken Scan.close
  split
  · next hempty => simp [hempty]
  · simp

lemma length_flatMap_ofLine (line : String) :
    ((ofLine line).flatMap String.toList).length = taken (scanned line) := by
  rw [ofLine_eq_scanned, ← length_flatten_words_close, List.flatMap_map]
  simp only [String.toList_ofList, List.flatMap_id']

lemma ofLine_of_isLiteral {path : String} (hempty : path ≠ "")
    (h : ∀ c ∈ path.toList, isLiteral c) : ofLine path = [path] := by
  have htoken := token_escapeChars fun c hc => .inl (h c hc)
  have hchars := unescape_escapeChars path.toList
  rw [escapeChars_of_isLiteral h] at htoken hchars
  have hbetween : EndsBetweenWords [] := ⟨[], rfl⟩
  have hread := ofLine_append_token hbetween htoken (by simpa [hchars] using hempty)
  rwa [hchars, List.nil_append, String.ofList_toList] at hread

/-- A name with its spaces escaped is read as this name alone exactly if it is not empty and nothing
in it but its spaces has a meaning for the scanner. -/
theorem ofLine_escape_eq_iff (name : String) :
    ofLine (escape name) = [name] ↔ name ≠ "" ∧ ∀ c ∈ name.toList,
      c ≠ '\\' ∧ c ≠ '"' ∧ c ≠ '\'' ∧ (Text.isBlank c → c = ' ') := by
  have hplain : ∀ c, (isLiteral c ∨ c = ' ') ↔
      c ≠ '\\' ∧ c ≠ '"' ∧ c ≠ '\'' ∧ (Text.isBlank c → c = ' ') := by
    intro c
    by_cases hspace : c = ' '
    · simp [hspace]
    · simp [isLiteral, isQuote, hspace, and_assoc]
  simp only [← hplain]
  constructor
  · intro h
    have hempty : name ≠ "" := ne_empty_of_mem_ofLine (h ▸ List.mem_singleton_self name)
    refine ⟨hempty, ?_⟩
    have hscan : ((escapeChars name.toList).foldl Scan.step {}).close.words = [name.toList] := by
      have hwords := congrArg (List.map String.toList) h
      simpa [ofLine, scan, escape, Function.comp_def] using hwords
    have htaken : taken ((escapeChars name.toList).foldl Scan.step {}) = name.toList.length := by
      rw [← length_flatten_words_close, hscan]
      simp
    by_contra hmeaning
    have hlt : taken ((escapeChars name.toList).foldl Scan.step {}) <
        taken {} + name.toList.length := by
      apply taken_escapeChars_lt
      push Not at hmeaning
      exact hmeaning
    rw [htaken] at hlt
    have hzero : taken {} = 0 := rfl
    omega
  · rintro ⟨hempty, hchars⟩
    have htoken : Token (escapeChars name.toList) := token_escapeChars hchars
    have hne : Completion.unescape (escapeChars name.toList) ≠ [] := by
      rw [unescape_escapeChars]
      simpa using hempty
    have hbetween : EndsBetweenWords [] := ⟨[], rfl⟩
    have hword := ofLine_append_token hbetween htoken hne
    rwa [unescape_escapeChars, String.ofList_toList, List.nil_append] at hword

end SeedShell.Proofs
