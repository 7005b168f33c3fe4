import SeedShell.Proofs.Histories
import SeedShell.Proofs.Scanning

/-!
# Recalled arguments

Recall cuts an entry at blanks, while the scanner reads it with its marks and escapes. What recall
gives for an entry is read as the last argument of the entry if and only if the last field stands
apart: the scanner reads the line before it by itself, and then the field as one word.
-/

namespace SeedShell.Proofs

open History Words

/-! ### The last of several parts -/

/-- The last of at least two parts, unless it is a flag. -/
def lastOperand? (parts : List String) : Option String :=
  match parts with
  | [] | [_] => none
  | parts => parts.getLast?.filter (!Text.hasPrefix "-" ·)

/-- The argument of a line that recall is to give: the last of at least two words, unless it is a
flag. -/
def argument? (line : String) : Option String := lastOperand? (ofLine line)

/-- What is recalled for an entry is read as its last argument, and nothing is recalled for an entry
without one. -/
def ReadsBack (entry : String) (recalled : Option String) : Prop :=
  recalled.map ofLine = (argument? entry).map ([·])

lemma operand?_eq (line : String) : operand? line = lastOperand? (Text.fields line) := rfl

lemma lastOperand?_concat {front : List String} (hne : front ≠ []) (last : String) :
    lastOperand? (front ++ [last]) = if Text.hasPrefix "-" last then none else some last := by
  have hlast : (front ++ [last]).getLast? = some last := List.getLast?_concat
  unfold lastOperand?
  split
  · next hnil => simp at hnil
  · next hone => simp [List.append_eq_singleton_iff, hne] at hone
  · rw [hlast, Option.filter_some]
    cases Text.hasPrefix "-" last <;> rfl

lemma exists_front_of_lastOperand? {parts : List String} {last : String}
    (h : lastOperand? parts = some last) :
    ∃ front, front ≠ [] ∧ parts = front ++ [last] ∧ Text.hasPrefix "-" last = false := by
  rcases List.eq_nil_or_concat parts with rfl | ⟨front, final, rfl⟩
  · cases h
  rw [List.concat_eq_append] at h ⊢
  have hne : front ≠ [] := by
    rintro rfl
    cases h
  rw [lastOperand?_concat hne] at h
  split at h
  · cases h
  · next hflag =>
    obtain rfl := Option.some.inj h
    exact ⟨front, hne, rfl, by simpa using hflag⟩

/-! ### Fields -/

/-- A line taken apart at the last of its fields. -/
structure LastField (line before field behind : List Char) : Prop where
  line_eq : line = before ++ field ++ behind
  before_ends : ∀ c ∈ before.getLast?, Text.isBlank c
  field_ne : field ≠ []
  not_blank : ∀ c ∈ field, Text.isBlank c = false
  behind_blank : ∀ c ∈ behind, Text.isBlank c

section Fields

lemma LastField.fields_eq {line before field behind : List Char}
    (h : LastField line before field behind) : Text.fields (String.ofList line) =
      Text.fields (String.ofList before) ++ [String.ofList field] := by
  have hfield := fields_of_not_blank h.field_ne h.not_blank
  rw [h.line_eq, fields_append_of_blank h.behind_blank]
  rcases List.eq_nil_or_concat before with rfl | ⟨front, c, rfl⟩
  · rw [List.nil_append, hfield]
    rfl
  · rw [List.concat_eq_append] at h ⊢
    have hblank : Text.isBlank c := h.before_ends c (by simp)
    rw [List.append_assoc, List.singleton_append, fields_append_blank hblank, hfield,
      fields_append_of_blank (by simpa using hblank)]

/-- A line of blanks has no field. Any other one has a last field. -/
lemma blank_or_exists_lastField (line : List Char) : (∀ c ∈ line, Text.isBlank c) ∨
    ∃ before field behind, LastField line before field behind := by
  induction line using List.reverseRecOn with
  | nil => exact .inl (by simp)
  | append_singleton line c ih =>
    cases hblank : Text.isBlank c with
    | true =>
      rcases ih with hall | ⟨before, field, behind, h⟩
      · refine .inl fun d hd => ?_
        rcases List.mem_append.mp hd with hd | hd
        · exact hall d hd
        · exact List.mem_singleton.mp hd ▸ hblank
      · refine .inr ⟨before, field, behind ++ [c], ?_, h.before_ends, h.field_ne, h.not_blank, ?_⟩
        · rw [h.line_eq, List.append_assoc]
        · simpa [or_imp, forall_and, hblank] using h.behind_blank
    | false =>
      rcases ih with hall | ⟨before, field, behind, h⟩
      · refine .inr ⟨line, [c], [], by simp, ?_, by simp, by simpa using hblank, by simp⟩
        exact fun d hd => hall d (List.mem_of_mem_getLast? hd)
      cases hbehind : behind with
      | nil =>
        subst hbehind
        refine .inr ⟨before, field ++ [c], [], ?_, h.before_ends, by simp, ?_, by simp⟩
        · simp [h.line_eq]
        · simpa [or_imp, forall_and, hblank] using h.not_blank
      | cons d rest =>
        -- the blanks behind the field before stand between it and the new one
        subst hbehind
        refine .inr ⟨line, [c], [], by simp, ?_, by simp, by simpa using hblank, by simp⟩
        intro e he
        refine h.behind_blank e (List.mem_of_mem_getLast? ?_)
        rwa [h.line_eq, List.getLast?_append_of_ne_nil _ (List.cons_ne_nil d rest)] at he

lemma exists_lastField_of_operand? {line text : String} (h : operand? line = some text) :
    ∃ before field behind, LastField line.toList before field behind ∧
      text = String.ofList field := by
  obtain ⟨others, -, hfields, -⟩ := exists_front_of_lastOperand? h
  rcases blank_or_exists_lastField line.toList with hblank | ⟨before, field, behind, hlast⟩
  · have hnone := fields_of_blank hblank
    rw [String.ofList_toList, hfields] at hnone
    simp at hnone
  · have hboth := hlast.fields_eq
    rw [String.ofList_toList, hfields] at hboth
    exact ⟨before, field, behind, hlast, List.singleton_inj.mp (List.append_inj' hboth rfl).2⟩

end Fields

/-! ### Scanning the last field -/

section Scanning

/-- A character that is no blank ends no word. -/
lemma step_of_not_isBlank {c : Char} (h : Text.isBlank c = false) (mode : Mode) (escaped : Bool) :
    ∃ taken mode' escaped', (∀ d ∈ taken, d = c) ∧ ∀ words word,
      Scan.step ⟨words, word, mode, escaped⟩ c = ⟨words, word ++ taken, mode', escaped'⟩ := by
  cases escaped with
  | true => exact ⟨[c], mode, false, by simp, fun _ _ => rfl⟩
  | false =>
    by_cases hbackslash : c = '\\'
    · exact ⟨[], mode, true, by simp, by simp [Scan.step, hbackslash]⟩
    cases mode with
    | quoted mark =>
      by_cases hmark : c = mark
      · exact ⟨[], .bare, false, by simp, by simp [Scan.step, hmark, hmark ▸ hbackslash]⟩
      · exact ⟨[c], .quoted mark, false, by simp, by simp [Scan.step, hbackslash, hmark, Scan.keep]⟩
    | bare =>
      cases hquote : isQuote c with
      | true => exact ⟨[], .quoted c, false, by simp, by simp [Scan.step, hbackslash, hquote]⟩
      | false =>
        exact ⟨[c], .bare, false, by simp, by simp [Scan.step, hbackslash, hquote, h, Scan.keep]⟩

/-- What is taken from a text without blanks does not depend on the words read before. -/
lemma foldl_of_not_isBlank {cs : List Char} (h : ∀ c ∈ cs, Text.isBlank c = false) (mode : Mode)
    (escaped : Bool) : ∃ taken mode' escaped', (∀ c ∈ taken, c ∈ cs) ∧ ∀ words word,
      cs.foldl Scan.step ⟨words, word, mode, escaped⟩ =
        ⟨words, word ++ taken, mode', escaped'⟩ := by
  induction cs generalizing mode escaped with
  | nil => exact ⟨[], mode, escaped, by simp, by simp⟩
  | cons c cs ih =>
    obtain ⟨first, mode', escaped', hfirst, hstep⟩ :=
      step_of_not_isBlank (h c List.mem_cons_self) mode escaped
    obtain ⟨rest, mode'', escaped'', hrest, hfold⟩ :=
      ih (fun d hd => h d (List.mem_cons_of_mem c hd)) mode' escaped'
    refine ⟨first ++ rest, mode'', escaped'', ?_, fun words word => ?_⟩
    · intro d hd
      rcases List.mem_append.mp hd with hd | hd
      · exact hfirst d hd ▸ List.mem_cons_self
      · exact List.mem_cons_of_mem c (hrest d hd)
    · rw [List.foldl_cons, hstep, hfold, List.append_assoc]

lemma foldl_of_isBlank {cs : List Char} (h : ∀ c ∈ cs, Text.isBlank c) :
    cs.foldl Scan.step {} = {} := by
  induction cs with
  | nil => rfl
  | cons c cs ih =>
    have hstep : Scan.step {} c = {} := step_blank [] [] (h c List.mem_cons_self)
    rw [List.foldl_cons, hstep, ih fun d hd => h d (List.mem_cons_of_mem c hd)]

/-- Blanks at the end of a line may be taken into its last word, and begin no word. -/
lemma exists_last_of_blank {behind : List Char} (h : ∀ c ∈ behind, Text.isBlank c) {s : Scan}
    (hmark : QuotedByMark s) (hword : s.word ≠ []) :
    ∃ rest, (behind.foldl Scan.step s).close.words = s.words ++ [s.word ++ rest] := by
  induction behind generalizing s with
  | nil => exact ⟨[], by simp [Scan.close, hword]⟩
  | cons c behind ih =>
    have hblank := h c List.mem_cons_self
    have hbehind : ∀ d ∈ behind, Text.isBlank d := fun d hd => h d (List.mem_cons_of_mem c hd)
    rw [List.foldl_cons]
    by_cases hopen : IsOpen s
    · have hkeep := step_blank_of_isOpen hblank hmark hopen
      obtain ⟨rest, hrest⟩ := ih hbehind (hmark.step c) (by simp [hkeep, Scan.keep])
      refine ⟨c :: rest, ?_⟩
      rw [hrest, hkeep]
      simp [Scan.keep]
    · refine ⟨[], ?_⟩
      rw [step_blank_of_not_isOpen hblank hopen, foldl_prepend, foldl_of_isBlank hbehind]
      simp [prepend, Scan.close, hword]

/-- After a text that ends in a blank the scanner is between words, or it has taken the blank. -/
lemma endsBetweenWords_or_exists_blank {before : List Char}
    (h : ∀ c ∈ before.getLast?, Text.isBlank c) : EndsBetweenWords before ∨
      ∃ c ∈ (before.foldl Scan.step {}).word, Text.isBlank c := by
  rcases List.eq_nil_or_concat before with rfl | ⟨front, c, rfl⟩
  · exact .inl ⟨[], rfl⟩
  rw [List.concat_eq_append] at h ⊢
  have hblank : Text.isBlank c := h c (by simp)
  have hmark := quotedByMark_scanned (String.ofList front)
  rw [scanned, String.toList_ofList] at hmark
  rw [List.foldl_append, List.foldl_cons, List.foldl_nil]
  by_cases hopen : IsOpen (front.foldl Scan.step {})
  · right
    rw [step_blank_of_isOpen hblank hmark hopen]
    exact ⟨c, by simp [Scan.keep], hblank⟩
  · left
    refine ⟨(front.foldl Scan.step {}).close.words, ?_⟩
    rw [List.foldl_append, List.foldl_cons, List.foldl_nil, step_blank_of_not_isOpen hblank hopen]
    simp [prepend]

lemma ofLine_append_of_between {typed : String} (h : EndsBetweenWords typed.toList)
    (text : String) : ofLine (typed ++ text) = ofLine typed ++ ofLine text := by
  obtain ⟨words, hwords⟩ := h
  have hstate : typed.toList.foldl Scan.step {} = prepend words {} := by
    rw [hwords, prepend, List.append_nil]
  simp only [ofLine, scan, String.toList_append, List.foldl_append, hstate, foldl_prepend,
    close_prepend]
  simp [prepend, Scan.close]

end Scanning

/-! ### Arguments that stand apart -/

section Arguments

variable {line before field behind : List Char}

/-- The word that is open behind the last field is the last one of the line. -/
lemma LastField.exists_ofLine (h : LastField line before field behind) {s : Scan}
    (hs : (before ++ field).foldl Scan.step {} = s) (hword : s.word ≠ []) :
    ∃ rest, ofLine (String.ofList line) =
      s.words.map String.ofList ++ [String.ofList (s.word ++ rest)] := by
  have hmark := quotedByMark_scanned (String.ofList (before ++ field))
  rw [scanned, String.toList_ofList, hs] at hmark
  obtain ⟨rest, hrest⟩ := exists_last_of_blank h.behind_blank hmark hword
  refine ⟨rest, ?_⟩
  rw [ofLine, scan, String.toList_ofList, h.line_eq, List.foldl_append, hs, hrest,
    List.map_append, List.map_singleton]

/-- A field that is one word by itself ends a line in this word, as far as it is read, or in a word
with a blank in it. -/
lemma LastField.ofLine_eq_or (h : LastField line before field behind) {word : String}
    (hfield : ofLine (String.ofList field) = [word]) :
    (∀ c ∈ word.toList, Text.isBlank c = false) ∧
    ((∃ rest, ofLine (String.ofList line) = ofLine (String.ofList before) ++ [word ++ rest]) ∨
      ∃ front last, ofLine (String.ofList line) = front ++ [last] ∧
        ∃ c ∈ last.toList, Text.isBlank c) := by
  obtain ⟨taken, mode, escaped, htaken, hfold⟩ := foldl_of_not_isBlank h.not_blank .bare false
  have hne : taken ≠ [] := by
    rintro rfl
    rw [ofLine, scan, String.toList_ofList, hfold] at hfield
    cases hfield
  have hword : word = String.ofList taken := by
    rw [ofLine, scan, String.toList_ofList, hfold] at hfield
    simpa [Scan.close, hne, eq_comm] using hfield
  refine ⟨?_, ?_⟩
  · rw [hword, String.toList_ofList]
    exact fun c hc => h.not_blank c (htaken c hc)
  rcases endsBetweenWords_or_exists_blank h.before_ends with ⟨words, hwords⟩ | ⟨c, hc, hblank⟩
  · left
    have hstate : (before ++ field).foldl Scan.step {} = ⟨words, taken, mode, escaped⟩ := by
      rw [List.foldl_append, hwords, hfold, List.nil_append]
    obtain ⟨rest, hrest⟩ := h.exists_ofLine hstate hne
    refine ⟨String.ofList rest, ?_⟩
    have hbefore : ofLine (String.ofList before) = words.map String.ofList := by
      rw [ofLine, scan, String.toList_ofList, hwords]
      rfl
    rw [hrest, hbefore, hword, String.ofList_append]
  · right
    generalize hs : before.foldl Scan.step {} = s at hc
    rcases s with ⟨words, begun, mode', escaped'⟩
    obtain ⟨more, mode'', escaped'', -, hmore⟩ := foldl_of_not_isBlank h.not_blank mode' escaped'
    have hstate : (before ++ field).foldl Scan.step {} =
        ⟨words, begun ++ more, mode'', escaped''⟩ := by
      rw [List.foldl_append, hs, hmore]
    have hopen : begun ++ more ≠ [] :=
      List.append_ne_nil_of_left_ne_nil (List.ne_nil_of_mem hc) more
    obtain ⟨rest, hrest⟩ := h.exists_ofLine hstate hopen
    refine ⟨_, _, hrest, c, ?_, hblank⟩
    simp [hc]

/-- The last field of the line is the word, and the line before it is read by itself. -/
def EndsApart (line word : String) : Prop :=
  ∃ before field behind, LastField line.toList before field behind ∧
    ofLine (String.ofList field) = [word] ∧
    ofLine line = ofLine (String.ofList before) ++ [word]

/-- A field that begins as a flag is read as a flag. -/
lemma hasPrefix_of_ofLine_eq (hblank : ∀ c ∈ field, Text.isBlank c = false) {word : String}
    (hfield : ofLine (String.ofList field) = [word])
    (hflag : Text.hasPrefix "-" (String.ofList field)) : Text.hasPrefix "-" word := by
  rw [Text.hasPrefix, List.isPrefixOf_iff_prefix] at hflag
  obtain ⟨rest, hrest⟩ := hflag
  obtain rfl : field = '-' :: rest := by simpa using hrest.symm
  have hunblank : ∀ c ∈ rest, Text.isBlank c = false := fun c hc =>
    hblank c (List.mem_cons_of_mem _ hc)
  obtain ⟨taken, mode, escaped, -, hfold⟩ := foldl_of_not_isBlank hunblank .bare false
  have hstep : ('-' :: rest).foldl Scan.step {} = ⟨[], '-' :: taken, mode, escaped⟩ :=
    hfold [] ['-']
  rw [ofLine, scan, String.toList_ofList, hstep] at hfield
  have hword : word = String.ofList ('-' :: taken) := by
    simpa [Scan.close, eq_comm] using hfield
  rw [hword, Text.hasPrefix, List.isPrefixOf_iff_prefix]
  exact ⟨taken, (String.toList_ofList (l := '-' :: taken)).symm⟩

lemma fields_ne_nil (h : ofLine (String.ofList line) ≠ []) :
    Text.fields (String.ofList line) ≠ [] := by
  rcases blank_or_exists_lastField line with hblank | ⟨before, field, behind, hlast⟩
  · rw [ofLine, scan, String.toList_ofList, foldl_of_isBlank hblank] at h
    exact absurd rfl h
  · rw [hlast.fields_eq]
    exact List.append_ne_nil_of_right_ne_nil _ (List.cons_ne_nil _ _)

lemma EndsApart.map_operand? {entry word : String} (h : EndsApart entry word)
    (hargument : argument? entry = some word) : (operand? entry).map ofLine = some [word] := by
  obtain ⟨before, field, behind, hlast, hfield, hentry⟩ := h
  obtain ⟨front, hfront, hwords, hflag⟩ := exists_front_of_lastOperand? hargument
  have hbefore : ofLine (String.ofList before) = front :=
    (List.append_inj' (hentry.symm.trans hwords) rfl).1
  have hne : Text.fields (String.ofList before) ≠ [] := fields_ne_nil (hbefore ▸ hfront)
  have hplain : ¬Text.hasPrefix "-" (String.ofList field) := by
    intro hprefix
    rw [hasPrefix_of_ofLine_eq hlast.not_blank hfield hprefix] at hflag
    cases hflag
  have hfields := hlast.fields_eq
  rw [String.ofList_toList] at hfields
  rw [operand?_eq, hfields, lastOperand?_concat hne, if_neg hplain, Option.map_some, hfield]

lemma endsApart_of_map_operand? {entry word : String} (hargument : argument? entry = some word)
    (h : (operand? entry).map ofLine = some [word]) : EndsApart entry word := by
  obtain ⟨text, htext, hword⟩ := Option.map_eq_some_iff.mp h
  obtain ⟨before, field, behind, hlast, rfl⟩ := exists_lastField_of_operand? htext
  obtain ⟨front, -, hwords, -⟩ := exists_front_of_lastOperand? hargument
  refine ⟨before, field, behind, hlast, hword, ?_⟩
  obtain ⟨hunblank, ⟨rest, hline⟩ | ⟨before', last, hline, c, hc, hblank⟩⟩ :=
    hlast.ofLine_eq_or hword
  · rw [String.ofList_toList, hwords] at hline
    obtain ⟨hfront, hrest⟩ := List.append_inj' hline rfl
    rw [hwords, hfront]
  · rw [String.ofList_toList, hwords] at hline
    obtain rfl := List.singleton_inj.mp (List.append_inj' hline rfl).2
    rw [hunblank c hc] at hblank
    cases hblank

/-- What recall gives for an entry is right exactly if it gives nothing where the entry has no
argument, and the argument of the entry stands apart where there is one. -/
lemma readsBack_operand?_iff (entry : String) : ReadsBack entry (operand? entry) ↔
    (argument? entry = none → operand? entry = none) ∧
    ∀ word, argument? entry = some word → EndsApart entry word := by
  unfold ReadsBack
  cases hargument : argument? entry with
  | none => simp
  | some word =>
    rw [Option.map_some]
    constructor
    · refine fun h => ⟨nofun, ?_⟩
      rintro _ ⟨⟩
      exact endsApart_of_map_operand? hargument h
    · exact fun h => (h.2 word rfl).map_operand? hargument

end Arguments

/-! ### Plain lines -/

section Plain

lemma modifyHead_nil_append (parts : List (List Char)) :
    parts.modifyHead ([] ++ ·) = parts := by
  cases parts <;> rfl

lemma close_foldl_of_plain {cs : List Char} (h : ∀ c ∈ cs, isQuote c = false ∧ c ≠ '\\')
    (words : List (List Char)) (word : List Char) :
    (cs.foldl Scan.step ⟨words, word, .bare, false⟩).close.words =
      words ++ ((Text.splitChars Text.isBlank cs).modifyHead (word ++ ·)).filter (· ≠ []) := by
  induction cs generalizing words word with
  | nil =>
    by_cases hword : word = []
    · simp [Text.splitChars, Scan.close, hword]
    · simp [Text.splitChars, Scan.close, hword]
  | cons c cs ih =>
    have hrest := ih fun d hd => h d (List.mem_cons_of_mem c hd)
    obtain ⟨hquote, hbackslash⟩ := h c List.mem_cons_self
    rw [List.foldl_cons, Text.splitChars]
    cases hblank : Text.isBlank c with
    | true =>
      have hclose : Scan.close ⟨words, word, .bare, false⟩ =
          { words := words ++ [word].filter (· ≠ []) } := by
        by_cases hword : word = [] <;> simp [Scan.close, hword]
      rw [step_blank _ _ hblank, hclose, hrest, modifyHead_nil_append, if_pos rfl, List.modifyHead_cons,
        List.append_nil, List.append_assoc, ← List.filter_append, List.singleton_append]
    | false =>
      have hliteral : isLiteral c := by simp [isLiteral, hquote, hbackslash, hblank]
      rw [step_literal hliteral, hrest]
      cases Text.splitChars Text.isBlank cs <;> simp

/-- Where nothing is quoted or escaped the scanner's words are the fields. -/
lemma ofLine_eq_fields {line : String}
    (h : ∀ c ∈ line.toList, isQuote c = false ∧ c ≠ '\\') : ofLine line = Text.fields line := by
  have hscan := close_foldl_of_plain h [] []
  rw [modifyHead_nil_append, List.nil_append] at hscan
  rw [ofLine, scan, hscan, Text.fields, Text.split, List.filter_map]
  congr 2
  funext cs
  simp

lemma readsBack_of_plain {entry : String}
    (h : ∀ c ∈ entry.toList, isQuote c = false ∧ c ≠ '\\') :
    ReadsBack entry (operand? entry) := by
  rw [ReadsBack, argument?, ofLine_eq_fields h, ← operand?_eq]
  cases hoperand : operand? entry with
  | none => rfl
  | some field =>
    obtain ⟨before, last, behind, hlast, rfl⟩ := exists_lastField_of_operand? hoperand
    have hplain : ∀ c ∈ (String.ofList last).toList, isQuote c = false ∧ c ≠ '\\' := by
      rw [String.toList_ofList]
      exact fun c hc => h c (by simp [hlast.line_eq, hc])
    rw [Option.map_some, Option.map_some, ofLine_eq_fields hplain,
      fields_of_not_blank hlast.field_ne hlast.not_blank]

end Plain

/-- The step of recall to the argument of an entry is right exactly if nothing is to be recalled and
nothing is, or the argument stands apart. So it is for every entry without marks and backslashes.
Whatever is recalled is read alone and behind other words as the same words. -/
theorem recalled_argument_reads_back_iff {capacity : Nat} {h : History} (hused : Used capacity h)
    (hpos : 0 < h.position) :
    ∃ entry, h.entries[h.position - 1]? = some entry ∧
      h.lastArgument.2 = { h with position := h.position - 1 } ∧
      (ReadsBack entry h.lastArgument.1 ↔
        (argument? entry = none → operand? entry = none) ∧
        ∀ word, argument? entry = some word → EndsApart entry word) ∧
      ((∀ c ∈ entry.toList, isQuote c = false ∧ c ≠ '\\') → ReadsBack entry h.lastArgument.1) ∧
      ∀ recalled ∈ h.lastArgument.1, ∀ typed : String, EndsBetweenWords typed.toList →
        ofLine (typed ++ recalled) = ofLine typed ++ ofLine recalled := by
  obtain ⟨hlt, hback⟩ := back_of_pos hpos hused.inCapacity.position_le
  have hrun : h.lastArgument =
      (operand? h.entries[h.position - 1], { h with position := h.position - 1 }) := by
    rw [lastArgument, hback]
    rfl
  rw [hrun]
  exact ⟨h.entries[h.position - 1], List.getElem?_eq_getElem hlt, rfl, readsBack_operand?_iff _,
    readsBack_of_plain, fun recalled _ typed hbetween => ofLine_append_of_between hbetween recalled⟩

/-- A quoted argument without a blank stands apart, behind a quoted word with one. -/
theorem recalled_argument_reads_back_iff_quoted :
    Used 5 ⟨["pwd", "grep \"a b\" 'notes' "], 5, 2⟩ ∧ 0 < 2 ∧
    argument? "grep \"a b\" 'notes' " = some "notes" ∧
    ReadsBack "grep \"a b\" 'notes' "
      (lastArgument ⟨["pwd", "grep \"a b\" 'notes' "], 5, 2⟩).1 := by
  have hused : Used 5 ⟨["pwd", "grep \"a b\" 'notes' "], 5, 2⟩ :=
    Used.restored ["pwd", "grep \"a b\" 'notes' "]
  have hargument : argument? "grep \"a b\" 'notes' " = some "notes" := by decide
  have hapart : EndsApart "grep \"a b\" 'notes' " "notes" := by
    refine ⟨"grep \"a b\" ".toList, "'notes'".toList, " ".toList, ?_, by decide, by decide⟩
    exact ⟨by decide, by simp [Text.isBlank], by decide, by simp [Text.isBlank],
      by simp [Text.isBlank]⟩
  obtain ⟨entry, hentry, -, hiff, -⟩ := recalled_argument_reads_back_iff hused (by decide)
  obtain rfl : "grep \"a b\" 'notes' " = entry := Option.some.inj hentry
  refine ⟨hused, by decide, hargument, hiff.mpr ⟨?_, ?_⟩⟩
  · intro hnone
    cases hargument.symm.trans hnone
  · rintro word hword
    obtain rfl : "notes" = word := Option.some.inj (hargument.symm.trans hword)
    exact hapart

/-- Half of a quoted argument is recalled, and half of a line that has none. -/
theorem recalled_argument_is_torn :
    Used 5 ⟨["'my file'", "cat 'my file'"], 5, 2⟩ ∧
    argument? "cat 'my file'" = some "my file" ∧
    (lastArgument ⟨["'my file'", "cat 'my file'"], 5, 2⟩).1 = some "file'" ∧
    ¬ReadsBack "cat 'my file'" (some "file'") ∧
    Used 5 ⟨["'my file'", "cat 'my file'"], 5, 1⟩ ∧
    argument? "'my file'" = none ∧
    (lastArgument ⟨["'my file'", "cat 'my file'"], 5, 1⟩).1 = some "file'" ∧
    ¬ReadsBack "'my file'" (some "file'") := by
  have hused : Used 5 ⟨["'my file'", "cat 'my file'"], 5, 2⟩ :=
    Used.restored ["'my file'", "cat 'my file'"]
  refine ⟨hused, by decide, by decide, ?_, hused.use (.step .lastArgument), by decide, by decide, ?_⟩
  · unfold ReadsBack
    decide
  · unfold ReadsBack
    decide

end SeedShell.Proofs
