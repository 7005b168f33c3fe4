import SeedShell.Completion
import SeedShell.Proofs.Texts

/-!
# Typed text and its words

Completion cuts a line after its last free space and the scanner cuts it into words, each with its
own view of backslashes. On text that is typed without quotes, with no blanks but spaces and with
backslashes before spaces only, both agree: what completion leaves of a line is read as whole
words, and the token is read as one word, the one that completion takes it for.
-/

namespace SeedShell.Proofs

open Completion Words

/-! ### Typed text -/

/-- Text without quotes whose blanks are spaces and whose backslashes stand directly before
spaces. -/
structure IsTyped (cs : List Char) : Prop where
  quotes : ∀ c ∈ cs, isQuote c = false
  blanks : ∀ c ∈ cs, Text.isBlank c = true → c = ' '
  backslashes : ∀ i < cs.length, cs[i]? = some '\\' → cs[i + 1]? = some ' '

instance (cs : List Char) : Decidable (IsTyped cs) :=
  have := List.decidableBAll (isQuote · = false) cs
  have := List.decidableBAll (fun c => Text.isBlank c = true → c = ' ') cs
  decidable_of_iff ((∀ c ∈ cs, isQuote c = false) ∧ (∀ c ∈ cs, Text.isBlank c = true → c = ' ') ∧
    ∀ i < cs.length, cs[i]? = some '\\' → cs[i + 1]? = some ' ')
    ⟨fun ⟨h₁, h₂, h₃⟩ => ⟨h₁, h₂, h₃⟩, fun ⟨h₁, h₂, h₃⟩ => ⟨h₁, h₂, h₃⟩⟩

/-- A character that stands for itself in a word. -/
def isLiteral (c : Char) : Bool := c != '\\' && !isQuote c && !Text.isBlank c

/-- Literal characters, spaces and escaped spaces. -/
inductive Typed : List Char → Prop
  | nil : Typed []
  | space {cs : List Char} : Typed cs → Typed (' ' :: cs)
  | escaped {cs : List Char} : Typed cs → Typed ('\\' :: ' ' :: cs)
  | literal {c : Char} {cs : List Char} : isLiteral c → Typed cs → Typed (c :: cs)

/-- Literal characters and escaped spaces. -/
inductive Token : List Char → Prop
  | nil : Token []
  | escaped {cs : List Char} : Token cs → Token ('\\' :: ' ' :: cs)
  | literal {c : Char} {cs : List Char} : isLiteral c → Token cs → Token (c :: cs)

section Characters

variable {c : Char}

lemma ne_backslash_of_isLiteral (h : isLiteral c) : c ≠ '\\' := by
  rintro rfl
  cases h

lemma isQuote_of_isLiteral (h : isLiteral c) : isQuote c = false := by
  simp only [isLiteral, Bool.and_eq_true, Bool.not_eq_true'] at h
  exact h.1.2

lemma isBlank_of_isLiteral (h : isLiteral c) : Text.isBlank c = false := by
  simp only [isLiteral, Bool.and_eq_true, Bool.not_eq_true'] at h
  exact h.2

lemma eq_of_isQuote (h : isQuote c) : c = '"' ∨ c = '\'' := by
  simpa [isQuote] using h

lemma ne_space_of_isLiteral (h : isLiteral c) : c ≠ ' ' := by
  rintro rfl
  cases h

lemma ne_backslash_of_isBlank (h : Text.isBlank c) : c ≠ '\\' := by
  rintro rfl
  cases h

lemma isQuote_of_isBlank (h : Text.isBlank c) : isQuote c = false := by
  refine Bool.eq_false_iff.mpr fun hquote => ?_
  rcases eq_of_isQuote hquote with rfl | rfl <;> cases h

lemma isLiteral_of_isTyped {cs : List Char} (h : IsTyped cs) (hmem : c ∈ cs)
    (hbackslash : c ≠ '\\') (hspace : c ≠ ' ') : isLiteral c := by
  have hblank : Text.isBlank c = false := by
    by_contra hblank
    exact hspace (h.blanks c hmem (by simpa using hblank))
  simp [isLiteral, hbackslash, h.quotes c hmem, hblank]

end Characters

lemma IsTyped.tail {c : Char} {cs : List Char} (h : IsTyped (c :: cs)) : IsTyped cs where
  quotes d hd := h.quotes d (List.mem_cons_of_mem c hd)
  blanks d hd := h.blanks d (List.mem_cons_of_mem c hd)
  backslashes i hi := by
    have hnext := h.backslashes (i + 1) (Nat.succ_lt_succ hi)
    simpa only [List.getElem?_cons_succ] using hnext

lemma IsTyped.typed {cs : List Char} (h : IsTyped cs) : Typed cs := by
  match cs with
  | [] => exact .nil
  | c :: cs =>
    by_cases hbackslash : c = '\\'
    · subst hbackslash
      have hspace := h.backslashes 0 (Nat.succ_pos _) rfl
      rw [List.getElem?_cons_succ] at hspace
      match cs with
      | [] => cases hspace
      | d :: cs =>
        obtain rfl : d = ' ' := Option.some.inj hspace
        exact .escaped h.tail.tail.typed
    · by_cases hspace : c = ' '
      · exact hspace ▸ .space h.tail.typed
      · exact .literal (isLiteral_of_isTyped h List.mem_cons_self hbackslash hspace) h.tail.typed

lemma Typed.append {as bs : List Char} (ha : Typed as) (hb : Typed bs) : Typed (as ++ bs) := by
  induction ha with
  | nil => exact hb
  | space _ ih => exact .space ih
  | escaped _ ih => exact .escaped ih
  | literal hc _ ih => exact .literal hc ih

lemma Token.typed {cs : List Char} (h : Token cs) : Typed cs := by
  induction h with
  | nil => exact .nil
  | escaped _ ih => exact .escaped ih
  | literal hc _ ih => exact .literal hc ih

/-! ### Escaped spaces -/

lemma unescape_cons {c : Char} {cs : List Char} (h : c = '\\' → cs.head? ≠ some ' ') :
    unescape (c :: cs) = c :: unescape cs := by
  rw [unescape]
  rintro rest rfl rfl
  exact h rfl rfl

lemma escapeChars_cons_space (cs : List Char) :
    escapeChars (' ' :: cs) = '\\' :: ' ' :: escapeChars cs := by
  simp [escapeChars]

lemma escapeChars_cons_of_ne {c : Char} (h : c ≠ ' ') (cs : List Char) :
    escapeChars (c :: cs) = c :: escapeChars cs := by
  simp [escapeChars, h]

lemma escapeChars_append (as bs : List Char) :
    escapeChars (as ++ bs) = escapeChars as ++ escapeChars bs :=
  List.flatMap_append

lemma head?_escapeChars_ne (cs : List Char) : (escapeChars cs).head? ≠ some ' ' := by
  cases cs with
  | nil => simp [escapeChars]
  | cons c cs =>
    by_cases hc : c = ' '
    · simp [hc, escapeChars_cons_space]
    · simp [hc, escapeChars_cons_of_ne]

/-- Escaped spaces come back, also behind a backslash that stands for itself. -/
lemma unescape_escapeChars (cs : List Char) : unescape (escapeChars cs) = cs := by
  induction cs with
  | nil => rfl
  | cons c cs ih =>
    by_cases hc : c = ' '
    · rw [hc, escapeChars_cons_space, unescape, ih]
    · rw [escapeChars_cons_of_ne hc, unescape_cons fun _ => head?_escapeChars_ne cs, ih]

lemma escapeChars_injective {as bs : List Char} (h : escapeChars as = escapeChars bs) :
    as = bs := by
  rw [← unescape_escapeChars as, h, unescape_escapeChars]

lemma unescape_concat_slash (cs : List Char) : unescape (cs ++ ['/']) = unescape cs ++ ['/'] := by
  fun_induction unescape cs with
  | case1 => rfl
  | case2 rest ih => rw [List.cons_append, List.cons_append, unescape, ih, List.cons_append]
  | case3 c rest hpair ih =>
    have hfree : c = '\\' → (rest ++ ['/']).head? ≠ some ' ' := by
      intro hc hspace
      cases rest with
      | nil => simp at hspace
      | cons d rest =>
        obtain rfl : d = ' ' := Option.some.inj hspace
        exact hpair rest hc rfl
    rw [List.cons_append, unescape_cons hfree, ih, List.cons_append]

lemma unescape_ne_nil {cs : List Char} (h : cs ≠ []) : unescape cs ≠ [] := by
  fun_cases unescape cs with
  | case1 => exact absurd rfl h
  | case2 rest => exact List.cons_ne_nil _ _
  | case3 c rest => exact List.cons_ne_nil _ _

namespace Token

variable {as bs : List Char}

lemma append (ha : Token as) (hb : Token bs) : Token (as ++ bs) := by
  induction ha with
  | nil => exact hb
  | escaped _ ih => exact .escaped ih
  | literal hc _ ih => exact .literal hc ih

lemma unescape_append (ha : Token as) (bs : List Char) :
    unescape (as ++ bs) = unescape as ++ unescape bs := by
  induction ha with
  | nil => rfl
  | escaped _ ih => simp only [List.cons_append, unescape, ih]
  | literal hc _ ih =>
    have hne := ne_backslash_of_isLiteral hc
    rw [List.cons_append, unescape_cons (absurd · hne), unescape_cons (absurd · hne), ih,
      List.cons_append]

lemma of_append_cons {c : Char} (hc : c ≠ ' ') (h : Token (as ++ c :: bs)) : Token as := by
  generalize hcs : as ++ c :: bs = cs at h
  induction h generalizing as with
  | nil => simp at hcs
  | @escaped cs _ ih =>
    -- the space of an escape is no place to divide at, so `c` does not stand there
    match as with
    | [] => exact .nil
    | [a] =>
      simp only [List.cons_append, List.nil_append, List.cons.injEq] at hcs
      exact absurd hcs.2.1 hc
    | a :: b :: as =>
      simp only [List.cons_append, List.cons.injEq] at hcs
      obtain ⟨rfl, rfl, rfl⟩ := hcs
      exact .escaped (ih rfl)
  | @literal d cs hd _ ih =>
    match as with
    | [] => exact .nil
    | a :: as =>
      simp only [List.cons_append, List.cons.injEq] at hcs
      obtain ⟨rfl, rfl⟩ := hcs
      exact .literal hd (ih rfl)

end Token

lemma token_escapeChars {cs : List Char} (h : ∀ c ∈ cs, isLiteral c ∨ c = ' ') :
    Token (escapeChars cs) := by
  induction cs with
  | nil => exact .nil
  | cons c cs ih =>
    have htail := ih fun d hd => h d (List.mem_cons_of_mem c hd)
    rcases h c List.mem_cons_self with hc | rfl
    · rw [escapeChars_cons_of_ne (ne_space_of_isLiteral hc)]
      exact .literal hc htail
    · rw [escapeChars_cons_space]
      exact .escaped htail

lemma escapeChars_of_isLiteral {cs : List Char} (h : ∀ c ∈ cs, isLiteral c) :
    escapeChars cs = cs := by
  induction cs with
  | nil => rfl
  | cons c cs ih =>
    have hc := ne_space_of_isLiteral (h c List.mem_cons_self)
    rw [escapeChars_cons_of_ne hc, ih fun d hd => h d (List.mem_cons_of_mem c hd)]

/-! ### Scanning -/

/-- Whatever has been read, a step only changes the mode, takes the character into the open word, or
ends that word. Only a quotation mark opens a quote. -/
lemma step_cases (mode : Mode) (escaped : Bool) (c : Char) :
    (∃ mode' escaped', (∀ mark, mode' = .quoted mark → mode = .quoted mark ∨ isQuote mark) ∧
      ∀ words word, Scan.step ⟨words, word, mode, escaped⟩ c = ⟨words, word, mode', escaped'⟩) ∨
    (∀ words word, Scan.step ⟨words, word, mode, escaped⟩ c =
      Scan.keep ⟨words, word, mode, escaped⟩ c) ∨
    ∀ words word, Scan.step ⟨words, word, mode, escaped⟩ c =
      Scan.close ⟨words, word, mode, escaped⟩ := by
  cases escaped with
  | true => exact .inr (.inl fun _ _ => rfl)
  | false =>
    by_cases hbackslash : c = '\\'
    · refine .inl ⟨mode, true, fun _ hmark => .inl hmark, fun _ _ => ?_⟩
      simp [Scan.step, hbackslash]
    cases mode with
    | quoted mark =>
      by_cases hmark : c = mark
      · subst hmark
        refine .inl ⟨.bare, false, nofun, fun _ _ => ?_⟩
        simp [Scan.step, hbackslash]
      · refine .inr (.inl fun _ _ => ?_)
        simp [Scan.step, hbackslash, hmark]
    | bare =>
      cases hquote : isQuote c with
      | true =>
        refine .inl ⟨.quoted c, false, ?_, fun _ _ => ?_⟩
        · rintro _ ⟨⟩
          exact .inr hquote
        · simp [Scan.step, hbackslash, hquote]
      | false =>
        cases hblank : Text.isBlank c with
        | true =>
          refine .inr (.inr fun _ _ => ?_)
          simp [Scan.step, hbackslash, hquote, hblank]
        | false =>
          refine .inr (.inl fun _ _ => ?_)
          simp [Scan.step, hbackslash, hquote, hblank]

/-- The line is read into whole words. -/
def EndsBetweenWords (cs : List Char) : Prop := ∃ words, cs.foldl Scan.step {} = { words }

lemma step_literal {c : Char} (h : isLiteral c) (words : List (List Char)) (word : List Char) :
    Scan.step ⟨words, word, .bare, false⟩ c = ⟨words, word ++ [c], .bare, false⟩ := by
  simp [Scan.step, ne_backslash_of_isLiteral h, isQuote_of_isLiteral h, isBlank_of_isLiteral h,
    Scan.keep]

lemma step_escape (words : List (List Char)) (word : List Char) (mode : Mode) (c : Char) :
    Scan.step (Scan.step ⟨words, word, mode, false⟩ '\\') c =
      ⟨words, word ++ [c], mode, false⟩ := by
  simp [Scan.step, Scan.keep]

lemma step_blank (words : List (List Char)) (word : List Char) {c : Char} (h : Text.isBlank c) :
    Scan.step ⟨words, word, .bare, false⟩ c = Scan.close ⟨words, word, .bare, false⟩ := by
  simp [Scan.step, ne_backslash_of_isBlank h, isQuote_of_isBlank h, h]

lemma step_space (words : List (List Char)) (word : List Char) :
    ∃ words', Scan.step ⟨words, word, .bare, false⟩ ' ' = { words := words' } := by
  have hblank : Text.isBlank ' ' = true := by decide
  rw [step_blank words word hblank]
  by_cases hword : word = [] <;> simp [Scan.close, hword]

lemma Token.foldl_step {cs : List Char} (h : Token cs) (words : List (List Char))
    (word : List Char) : cs.foldl Scan.step ⟨words, word, .bare, false⟩ =
      ⟨words, word ++ unescape cs, .bare, false⟩ := by
  induction h generalizing word with
  | nil => simp [unescape]
  | escaped _ ih =>
    rw [List.foldl_cons, List.foldl_cons, step_escape, ih, unescape, List.append_assoc,
      List.singleton_append]
  | literal hc _ ih =>
    rw [List.foldl_cons, step_literal hc, ih,
      unescape_cons (absurd · (ne_backslash_of_isLiteral hc)), List.append_assoc,
      List.singleton_append]

lemma ofLine_append_token {before cs : List Char} (hbefore : EndsBetweenWords before)
    (h : Token cs) (hempty : unescape cs ≠ []) :
    ofLine (String.ofList (before ++ cs)) =
      ofLine (String.ofList before) ++ [String.ofList (unescape cs)] := by
  obtain ⟨words, hwords⟩ := hbefore
  simp only [ofLine, scan, String.toList_ofList, List.foldl_append, hwords]
  rw [h.foldl_step, List.nil_append]
  simp [Scan.close, hempty]

/-! ### Cutting -/

lemma Typed.foldl_cut {cs : List Char} (h : Typed cs) {head token : List Char}
    (hhead : Typed head ∧ EndsBetweenWords head) (htoken : Token token) :
    ∃ head' token', cs.foldl Cut.step ⟨head, token, false⟩ = ⟨head', token', false⟩ ∧
      (Typed head' ∧ EndsBetweenWords head') ∧ Token token' := by
  induction h generalizing head token with
  | nil => exact ⟨head, token, rfl, hhead, htoken⟩
  | space _ ih =>
    have hends : EndsBetweenWords (head ++ token ++ [' ']) := by
      obtain ⟨-, words, hwords⟩ := hhead
      obtain ⟨words', hwords'⟩ := step_space words (unescape token)
      refine ⟨words', ?_⟩
      rw [List.foldl_append, List.foldl_append, hwords, htoken.foldl_step, List.nil_append]
      exact hwords'
    have htyped : Typed (head ++ token ++ [' ']) :=
      (hhead.1.append htoken.typed).append (.space .nil)
    have hstep : Cut.step ⟨head, token, false⟩ ' ' = ⟨head ++ token ++ [' '], [], false⟩ := by
      simp [Cut.step]
    rw [List.foldl_cons, hstep]
    exact ih ⟨htyped, hends⟩ .nil
  | escaped _ ih =>
    have hstep : Cut.step (Cut.step ⟨head, token, false⟩ '\\') ' ' =
        ⟨head, token ++ ['\\', ' '], false⟩ := by simp [Cut.step]
    rw [List.foldl_cons, List.foldl_cons, hstep]
    exact ih hhead (htoken.append (.escaped .nil))
  | @literal c cs hc _ ih =>
    have hstep : Cut.step ⟨head, token, false⟩ c = ⟨head, token ++ [c], false⟩ := by
      simp [Cut.step, ne_backslash_of_isLiteral hc, ne_space_of_isLiteral hc]
    rw [List.foldl_cons, hstep]
    exact ih hhead (htoken.append (.literal hc .nil))

/-- Completion leaves whole words and one token. -/
lemma Typed.cut {before : List Char} (h : Typed before) :
    (Typed (cut before).head ∧ EndsBetweenWords (cut before).head) ∧
      Token (cut before).token := by
  obtain ⟨head, token, hcut, hhead, htoken⟩ :
      ∃ head token, before.foldl Cut.step {} = ⟨head, token, false⟩ ∧
        (Typed head ∧ EndsBetweenWords head) ∧ Token token :=
    h.foldl_cut ⟨.nil, [], rfl⟩ .nil
  rw [Completion.cut, hcut]
  exact ⟨hhead, htoken⟩

/-! ### The first word -/

/-- Typed text begins with a token that ends at a space or at the end of the text. -/
lemma Typed.first_token {cs : List Char} (h : Typed cs) :
    ∃ token rest, cs = token ++ rest ∧ Token token ∧ (rest = [] ∨ ∃ more, rest = ' ' :: more) := by
  induction h with
  | nil => exact ⟨[], [], rfl, .nil, .inl rfl⟩
  | @space cs _ _ => exact ⟨[], ' ' :: cs, rfl, .nil, .inr ⟨cs, rfl⟩⟩
  | escaped _ ih =>
    obtain ⟨token, rest, rfl, htoken, hrest⟩ := ih
    exact ⟨_, rest, rfl, .escaped htoken, hrest⟩
  | literal hc _ ih =>
    obtain ⟨token, rest, rfl, htoken, hrest⟩ := ih
    exact ⟨_, rest, rfl, .literal hc htoken, hrest⟩

lemma words_isPrefix_close (s : Scan) : s.words <+: s.close.words := by
  unfold Scan.close
  split
  · exact List.prefix_rfl
  · exact List.prefix_append ..

lemma words_isPrefix_step (s : Scan) (c : Char) : s.words <+: (s.step c).words := by
  rcases s with ⟨words, word, mode, escaped⟩
  rcases step_cases mode escaped c with ⟨mode', escaped', -, hstep⟩ | hstep | hstep
  · exact hstep words word ▸ List.prefix_rfl
  · exact hstep words word ▸ List.prefix_rfl
  · exact hstep words word ▸ words_isPrefix_close _

lemma words_isPrefix_foldl (s : Scan) (cs : List Char) :
    s.words <+: (cs.foldl Scan.step s).words := by
  induction cs generalizing s with
  | nil => exact List.prefix_rfl
  | cons c cs ih => exact (words_isPrefix_step s c).trans (ih _)

lemma ofLine_space (cs : List Char) :
    ofLine (String.ofList (' ' :: cs)) = ofLine (String.ofList cs) := by
  have hstep : Scan.step {} ' ' = {} := by decide
  simp only [ofLine, scan, String.toList_ofList, List.foldl_cons, hstep]

lemma fields_space (cs : List Char) :
    Text.fields (String.ofList (' ' :: cs)) = Text.fields (String.ofList cs) := by
  have hblank : Text.isBlank ' ' := by decide
  exact fields_append_blank hblank [] cs

section FirstWord

variable {token rest : List Char} (hrest : rest = [] ∨ ∃ more, rest = ' ' :: more)
include hrest

lemma head?_ofLine_token (htoken : Token token) (hempty : unescape token ≠ []) :
    (ofLine (String.ofList (token ++ rest))).head? = some (String.ofList (unescape token)) := by
  have hwords : [unescape token] <+: scan (token ++ rest) := by
    rw [scan, List.foldl_append]
    have hscan : token.foldl Scan.step {} = ⟨[], unescape token, .bare, false⟩ :=
      htoken.foldl_step [] []
    rw [hscan]
    rcases hrest with rfl | ⟨more, rfl⟩
    · simp [Scan.close, hempty]
    · have hstep : Scan.step ⟨[], unescape token, .bare, false⟩ ' ' =
          { words := [unescape token] } := by
        simp [Scan.step, Text.isBlank, isQuote, Scan.close, hempty]
      have hmore := words_isPrefix_foldl { words := [unescape token] } more
      rw [List.foldl_cons, hstep]
      exact hmore.trans (words_isPrefix_close _)
  obtain ⟨words, hwords⟩ := hwords
  rw [ofLine, String.toList_ofList, ← hwords]
  rfl

lemma head?_fields_append {word : List Char} (hblank : ∀ c ∈ word, ¬Text.isBlank c)
    (hempty : word ≠ []) :
    (Text.fields (String.ofList (word ++ rest))).head? = some (String.ofList word) := by
  have hword : Text.fields (String.ofList word) = [String.ofList word] :=
    fields_of_not_blank hempty fun c hc => by simpa using hblank c hc
  rcases hrest with rfl | ⟨more, rfl⟩
  · rw [List.append_nil, hword, List.head?_cons]
  · rw [fields_append_blank (by decide), hword, List.singleton_append, List.head?_cons]

end FirstWord

/-- A token with an escape in it has a first one. -/
lemma Token.first_escape {cs : List Char} (h : Token cs) :
    (unescape cs = cs ∧ ∀ c ∈ cs, isLiteral c) ∨
      (' ' ∈ unescape cs ∧ ∃ literals more, cs = literals ++ '\\' :: ' ' :: more ∧
        ∀ c ∈ literals, isLiteral c) := by
  induction h with
  | nil => exact .inl ⟨rfl, by simp⟩
  | @escaped cs _ _ => exact .inr ⟨by simp [unescape], [], cs, rfl, by simp⟩
  | @literal c cs hc _ ih =>
    rw [unescape_cons (absurd · (ne_backslash_of_isLiteral hc))]
    rcases ih with ⟨heq, hliteral⟩ | ⟨hspace, literals, more, rfl, hliteral⟩
    · exact .inl ⟨by rw [heq], List.forall_mem_cons.mpr ⟨hc, hliteral⟩⟩
    · exact .inr ⟨List.mem_cons_of_mem c hspace, c :: literals, more, rfl,
        List.forall_mem_cons.mpr ⟨hc, hliteral⟩⟩

lemma Typed.first_field_of_ne {cs : List Char} (h : Typed cs) (hfirst : cs.head? ≠ some ' ')
    {word : String} (hword : (ofLine (String.ofList cs)).head? = some word) :
    ∃ field, (Text.fields (String.ofList cs)).head? = some field ∧
      (field = word ∨ '\\' ∈ field.toList ∧ ' ' ∈ word.toList) := by
  obtain ⟨token, rest, rfl, htoken, hrest⟩ := h.first_token
  have hempty : token ≠ [] := by
    rintro rfl
    rcases hrest with rfl | ⟨more, rfl⟩
    · cases hword
    · exact hfirst rfl
  rw [head?_ofLine_token hrest htoken (unescape_ne_nil hempty)] at hword
  obtain rfl := Option.some.inj hword
  rcases htoken.first_escape with ⟨heq, hliteral⟩ | ⟨hspace, literals, more, rfl, hliteral⟩
  · refine ⟨_, head?_fields_append hrest (fun c hc => ?_) hempty, .inl (by rw [heq])⟩
    simp [isBlank_of_isLiteral (hliteral c hc)]
  · -- the first escape ends the field, and its backslash is the last character of it
    have hblank : ∀ c ∈ literals ++ ['\\'], ¬Text.isBlank c := by
      intro c hc
      rcases List.mem_append.mp hc with hc | hc
      · simp [isBlank_of_isLiteral (hliteral c hc)]
      · rw [List.mem_singleton.mp hc]
        decide
    have hfield :
        (Text.fields (String.ofList (literals ++ ['\\'] ++ ' ' :: (more ++ rest)))).head? =
          some (String.ofList (literals ++ ['\\'])) :=
      head?_fields_append (.inr ⟨_, rfl⟩) hblank (by simp)
    rw [List.append_assoc] at hfield ⊢
    exact ⟨_, hfield, .inr ⟨by simp, by simpa using hspace⟩⟩

/-- The first field of typed text is its first word, or shows by a backslash that it is not. -/
lemma Typed.first_field {cs : List Char} (h : Typed cs) {word : String}
    (hword : (ofLine (String.ofList cs)).head? = some word) :
    ∃ field, (Text.fields (String.ofList cs)).head? = some field ∧
      (field = word ∨ '\\' ∈ field.toList ∧ ' ' ∈ word.toList) := by
  induction h with
  | nil => cases hword
  | space _ ih =>
    rw [ofLine_space] at hword
    rw [fields_space]
    exact ih hword
  | escaped h _ => exact (Typed.escaped h).first_field_of_ne (by simp) hword
  | literal hc h _ =>
    have hne := ne_space_of_isLiteral hc
    exact (Typed.literal hc h).first_field_of_ne (by simpa using hne) hword

end SeedShell.Proofs
