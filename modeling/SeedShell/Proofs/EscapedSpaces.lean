import Mathlib.Algebra.Ring.Parity
import SeedShell.Proofs.TypedWords

/-!
# Escaped spaces

Escaping puts a backslash in front of each space and knows nothing of backslashes that stand for
themselves. So the escaped texts are those in which each space stands directly behind a backslash,
and only these are escaped anew to what they were. The scan that finds the token does count
backslashes: it divides a text behind its last space that an even run of them stands before. In the
token each space has an odd run before it, hence at least one.
-/

namespace SeedShell.Proofs

open Completion Words

/-! ### Escaping anew -/

/-- Each space stands directly behind a backslash. -/
def SpacesEscaped (cs : List Char) : Prop :=
  ∀ as bs, cs = as ++ ' ' :: bs → as.getLast? = some '\\'

/-- What stands before the spaces of a text, with one more character at its end. -/
lemma forall_space_concat {P : List Char → Prop} {cs : List Char} {c : Char}
    (h : ∀ as bs, cs = as ++ ' ' :: bs → P as) (hc : c = ' ' → P cs) :
    ∀ as bs, cs ++ [c] = as ++ ' ' :: bs → P as := by
  intro as bs heq
  rcases List.eq_nil_or_concat bs with rfl | ⟨front, last, rfl⟩
  · obtain ⟨rfl, hspace⟩ := List.append_inj' heq rfl
    exact hc (List.singleton_inj.mp hspace)
  · have hfront : cs ++ [c] = (as ++ ' ' :: front) ++ [last] := by simpa using heq
    exact h as front (List.append_inj' hfront rfl).1

lemma spacesEscaped_nil : SpacesEscaped [] := by
  intro as bs h
  simp at h

lemma SpacesEscaped.concat {cs : List Char} (h : SpacesEscaped cs) {c : Char}
    (hc : c = ' ' → cs.getLast? = some '\\') : SpacesEscaped (cs ++ [c]) :=
  forall_space_concat h hc

/-- A text may be divided anywhere but between a backslash and its space. -/
lemma SpacesEscaped.of_append {as bs : List Char} (h : SpacesEscaped (as ++ bs))
    (hdivide : as.getLast? = some '\\' → bs.head? ≠ some ' ') : SpacesEscaped bs := by
  intro front rest heq
  have hlast : (as ++ front).getLast? = some '\\' := h (as ++ front) rest (by simp [heq])
  rcases front with _ | ⟨c, front⟩
  · rw [List.append_nil] at hlast
    exact absurd (by simp [heq]) (hdivide hlast)
  · rwa [List.getLast?_append_of_ne_nil _ (List.cons_ne_nil c front)] at hlast

lemma SpacesEscaped.head?_ne {cs : List Char} (h : SpacesEscaped cs) : cs.head? ≠ some ' ' := by
  intro hhead
  obtain ⟨rest, rfl⟩ := List.head?_eq_some_iff.mp hhead
  have hlast := h [] rest rfl
  cases hlast

lemma SpacesEscaped.suffix_iff {cs part : List Char} (h : SpacesEscaped cs) (hpart : part <:+ cs) :
    SpacesEscaped part ↔ part.head? ≠ some ' ' := by
  constructor
  · exact SpacesEscaped.head?_ne
  · intro hhead
    obtain ⟨front, rfl⟩ := hpart
    exact h.of_append fun _ => hhead

lemma SpacesEscaped.afterLast {cs : List Char} (h : SpacesEscaped cs) :
    SpacesEscaped (Text.cutAfterLast '/' cs).2 := by
  obtain ⟨-, ⟨-, hcs⟩ | ⟨front, -, hcs⟩⟩ :=
    of_cutAfterLast (Prod.eta (Text.cutAfterLast '/' cs)).symm
  · rwa [← hcs]
  · rw [hcs, List.append_cons] at h
    exact h.of_append fun hlast => by simp at hlast

lemma spacesEscaped_escapeChars (cs : List Char) : SpacesEscaped (escapeChars cs) := by
  induction cs using List.reverseRecOn with
  | nil => exact spacesEscaped_nil
  | append_singleton cs c ih =>
    rw [escapeChars_append]
    by_cases hc : c = ' '
    · have hpair : escapeChars [c] = ['\\'] ++ [' '] := by rw [hc]; rfl
      have hbackslash : SpacesEscaped (escapeChars cs ++ ['\\']) :=
        ih.concat fun hspace => absurd hspace (by decide)
      rw [hpair, ← List.append_assoc]
      exact hbackslash.concat fun _ => List.getLast?_concat
    · rw [escapeChars_cons_of_ne hc]
      exact ih.concat fun hspace => absurd hspace hc

/-- Where each space has its backslash, unescaping drops nothing that escaping does not bring
back. -/
lemma escapeChars_unescape {cs : List Char} (h : SpacesEscaped cs) :
    escapeChars (unescape cs) = cs := by
  fun_induction unescape cs with
  | case1 => rfl
  | case2 rest ih =>
    have hdivided : SpacesEscaped (['\\', ' '] ++ rest) := h
    rw [escapeChars_cons_space, ih (hdivided.of_append (by simp))]
  | case3 c rest hpair ih =>
    have hc : c ≠ ' ' := by
      rintro rfl
      exact h.head?_ne rfl
    have hdivided : SpacesEscaped ([c] ++ rest) := h
    have hrest : SpacesEscaped rest := by
      refine hdivided.of_append fun hlast hhead => ?_
      obtain ⟨tail, rfl⟩ := List.head?_eq_some_iff.mp hhead
      exact hpair tail (by simpa using hlast) rfl
    rw [escapeChars_cons_of_ne hc, ih hrest]

lemma escapeChars_isPrefix {as bs : List Char} (h : as <+: bs) :
    escapeChars as <+: escapeChars bs := by
  obtain ⟨rest, rfl⟩ := h
  rw [escapeChars_append]
  exact List.prefix_append _ _

/-- The name that a text stands for is escaped to the same text. -/
def ComesBack (text : List Char) : Prop :=
  escape (String.ofList (unescape text)) = String.ofList text

lemma comesBack_iff {text : List Char} : ComesBack text ↔ SpacesEscaped text := by
  rw [ComesBack, escape, String.toList_ofList, String.ofList_inj]
  constructor
  · intro h
    rw [← h]
    exact spacesEscaped_escapeChars _
  · exact escapeChars_unescape

/-! ### Runs of backslashes -/

/-- The run of backslashes at the end of a text is odd, so the last one escapes what follows. -/
def EndsInEscape (cs : List Char) : Prop := Odd (cs.rtakeWhile (· = '\\')).length

lemma not_endsInEscape_nil : ¬EndsInEscape [] := by
  simp [EndsInEscape]

lemma endsInEscape_concat {cs : List Char} {c : Char} :
    EndsInEscape (cs ++ [c]) ↔ c = '\\' ∧ ¬EndsInEscape cs := by
  unfold EndsInEscape
  rw [List.rtakeWhile_concat]
  by_cases hc : c = '\\'
  · rw [if_pos (decide_eq_true hc), List.length_append, List.length_singleton, Nat.odd_add_one,
      and_iff_right hc]
  · simp [hc]

lemma EndsInEscape.getLast?_eq {cs : List Char} (h : EndsInEscape cs) :
    cs.getLast? = some '\\' := by
  rcases List.eq_nil_or_concat' cs with rfl | ⟨front, c, rfl⟩
  · exact absurd h not_endsInEscape_nil
  · rw [List.getLast?_concat, (endsInEscape_concat.mp h).1]

/-! ### The token before the cursor -/

/-- A text is divided behind its last free space, or has none and is not divided. -/
structure DividesAtFreeSpace (before head token : List Char) : Prop where
  append_eq : head ++ token = before
  head_ends : head = [] ∨ ∃ front, head = front ++ [' '] ∧ ¬EndsInEscape front
  spaces_escaped : ∀ as bs, token = as ++ ' ' :: bs → EndsInEscape as

namespace DividesAtFreeSpace

variable {before head token head' token' : List Char}

/-- A run of backslashes does not go on across the space. -/
lemma endsInEscape_append (h : DividesAtFreeSpace before head token) (cs : List Char) :
    EndsInEscape (head ++ cs) ↔ EndsInEscape cs := by
  induction cs using List.reverseRecOn with
  | nil =>
    have hhead : ¬EndsInEscape head := by
      rcases h.head_ends with rfl | ⟨front, rfl, -⟩
      · exact not_endsInEscape_nil
      · intro hends
        exact absurd (endsInEscape_concat.mp hends).1 (by decide)
    rw [List.append_nil, iff_false_intro hhead, iff_false_intro not_endsInEscape_nil]
  | append_singleton cs c ih =>
    rw [← List.append_assoc, endsInEscape_concat, endsInEscape_concat, ih]

/-- A text that ends within the token is divided at the same place. -/
lemma of_append {rest : List Char} (h : DividesAtFreeSpace before head (token ++ rest)) :
    DividesAtFreeSpace (head ++ token) head token where
  append_eq := rfl
  head_ends := h.head_ends
  spaces_escaped as bs htoken :=
    h.spaces_escaped as (bs ++ rest) (by rw [htoken, List.append_assoc, List.cons_append])

lemma eq_nil_of_append {between : List Char} (h : DividesAtFreeSpace before head token)
    (h' : DividesAtFreeSpace before head' token') (hhead : head' = head ++ between)
    (htoken : token = between ++ token') : between = [] := by
  rcases List.eq_nil_or_concat' between with rfl | ⟨front, c, rfl⟩
  · rfl
  -- the later division is behind a free space of the earlier token
  · rw [← List.append_assoc] at hhead
    rcases h'.head_ends with hnone | ⟨free, hfree, hends⟩
    · simp [hnone] at hhead
    · obtain ⟨rfl, hspace⟩ := List.append_inj' (hfree.symm.trans hhead) rfl
      rw [List.append_assoc, ← hspace, List.singleton_append] at htoken
      rw [h.endsInEscape_append] at hends
      exact absurd (h.spaces_escaped front token' htoken) hends

lemma unique (h : DividesAtFreeSpace before head token)
    (h' : DividesAtFreeSpace before head' token') : head' = head ∧ token' = token := by
  rcases List.append_eq_append_iff.mp (h.append_eq.trans h'.append_eq.symm) with
    ⟨between, hhead, htoken⟩ | ⟨between, hhead, htoken⟩
  · obtain rfl := h.eq_nil_of_append h' hhead htoken
    exact ⟨by rw [hhead, List.append_nil], by rw [htoken, List.nil_append]⟩
  · obtain rfl := h'.eq_nil_of_append h hhead htoken
    exact ⟨by rw [hhead, List.append_nil], by rw [htoken, List.nil_append]⟩

end DividesAtFreeSpace

/-- What the scan holds of the text that it has read. -/
structure Scanned (before : List Char) (c : Cut) : Prop where
  divides : DividesAtFreeSpace before c.head c.token
  escaped : c.escaped = true ↔ EndsInEscape c.token

lemma Scanned.step {before : List Char} {c : Cut} (h : Scanned before c) (x : Char) :
    Scanned (before ++ [x]) (c.step x) := by
  have happend : c.head ++ (c.token ++ [x]) = before ++ [x] := by
    rw [← List.append_assoc, h.divides.append_eq]
  have hlonger : (x = ' ' → EndsInEscape c.token) →
      DividesAtFreeSpace (before ++ [x]) c.head (c.token ++ [x]) :=
    fun hspace => ⟨happend, h.divides.head_ends, forall_space_concat h.divides.spaces_escaped hspace⟩
  unfold Cut.step
  split
  · next hescaped =>
    have hends := h.escaped.mp hescaped
    refine ⟨hlonger fun _ => hends, ?_⟩
    simp [endsInEscape_concat, hends]
  next hescaped =>
  rw [h.escaped] at hescaped
  split
  · next hbackslash =>
    refine ⟨hlonger fun hspace => ?_, ?_⟩
    · exact absurd (hspace.symm.trans hbackslash) (by decide)
    · simp [endsInEscape_concat, hbackslash, hescaped]
  next hbackslash =>
  split
  · next hspace =>
    have hfree : ¬EndsInEscape (c.head ++ c.token) := by
      rwa [h.divides.endsInEscape_append]
    refine ⟨⟨?_, .inr ⟨c.head ++ c.token, by rw [hspace], hfree⟩, ?_⟩, ?_⟩
    · rw [List.append_nil, List.append_assoc, happend]
    · intro as bs heq
      simp at heq
    · exact h.escaped.trans (iff_of_false hescaped not_endsInEscape_nil)
  · next hspace =>
    have hends : ¬EndsInEscape (c.token ++ [x]) :=
      fun hends => hbackslash (endsInEscape_concat.mp hends).1
    exact ⟨hlonger fun heq => absurd heq hspace, h.escaped.trans (iff_of_false hescaped hends)⟩

lemma scanned_cut (before : List Char) : Scanned before (cut before) := by
  induction before using List.reverseRecOn with
  | nil =>
    refine ⟨⟨rfl, .inl rfl, ?_⟩, ?_⟩
    · intro as bs heq
      simp [cut] at heq
    · simp [cut, not_endsInEscape_nil]
  | append_singleton before x ih =>
    rw [cut, List.foldl_concat]
    exact ih.step x

lemma cut_append (before : List Char) : (cut before).head ++ (cut before).token = before :=
  (scanned_cut before).divides.append_eq

lemma spacesEscaped_token (before : List Char) : SpacesEscaped (cut before).token :=
  fun as bs h => ((scanned_cut before).divides.spaces_escaped as bs h).getLast?_eq

lemma dividesAtFreeSpace_iff {before head token : List Char} :
    DividesAtFreeSpace before head token ↔
      head = (cut before).head ∧ token = (cut before).token := by
  have hcut := (scanned_cut before).divides
  constructor
  · exact hcut.unique
  · rintro ⟨rfl, rfl⟩
    exact hcut

/-! ### Names and typed text -/

lemma ofList_unescape_escape (name : String) :
    String.ofList (unescape (escape name).toList) = name := by
  rw [escape, String.toList_ofList, unescape_escapeChars, String.ofList_toList]

/-- Each name comes back from its escaped form. A text comes back from the name that it stands for
exactly if each space in it stands directly behind a backslash. The token before the cursor is such
a text, since it begins behind the last free space, and so is what follows its last slash. Of all
texts that the token ends in, only those that begin with a space are not. -/
theorem escaped_spaces_come_back :
    (∀ name : String, String.ofList (unescape (escape name).toList) = name) ∧
    Function.Injective escape ∧
    (∀ text : List Char, ComesBack text ↔ SpacesEscaped text) ∧
    ∀ before : List Char,
      (∀ head token, DividesAtFreeSpace before head token ↔
        head = (cut before).head ∧ token = (cut before).token) ∧
      SpacesEscaped (cut before).token ∧
      ComesBack (cut before).token ∧
      ComesBack (Text.cutAfterLast '/' (cut before).token).2 ∧
      ∀ part, part <:+ (cut before).token → (ComesBack part ↔ part.head? ≠ some ' ') := by
  refine ⟨ofList_unescape_escape, ?_, fun _ => comesBack_iff, fun before => ?_⟩
  · intro name other h
    rw [← ofList_unescape_escape name, h, ofList_unescape_escape]
  · have htoken := spacesEscaped_token before
    refine ⟨fun _ _ => dividesAtFreeSpace_iff, htoken, comesBack_iff.mpr htoken,
      comesBack_iff.mpr htoken.afterLast, fun part hpart => ?_⟩
    rw [comesBack_iff, htoken.suffix_iff hpart]

/-- Two backslashes leave the space behind them free, and three escape it. -/
theorem escaped_spaces_come_back_runs :
    (cut "grep a\\\\ my\\ docs/b\\\\\\ c".toList).token = "my\\ docs/b\\\\\\ c".toList ∧
    "b\\\\\\ c".toList <:+ "my\\ docs/b\\\\\\ c".toList ∧
    ComesBack "b\\\\\\ c".toList ∧
    " c".toList <:+ "my\\ docs/b\\\\\\ c".toList ∧
    ¬ComesBack " c".toList := by
  obtain ⟨-, -, -, -, hparts⟩ :=
    escaped_spaces_come_back.2.2.2 "grep a\\\\ my\\ docs/b\\\\\\ c".toList
  have htoken : (cut "grep a\\\\ my\\ docs/b\\\\\\ c".toList).token =
      "my\\ docs/b\\\\\\ c".toList := by decide
  have hname : "b\\\\\\ c".toList <:+ "my\\ docs/b\\\\\\ c".toList := by decide
  have hspace : " c".toList <:+ "my\\ docs/b\\\\\\ c".toList := by decide
  rw [htoken] at hparts
  exact ⟨htoken, hname, (hparts _ hname).mpr (by decide), hspace,
    fun hback => (hparts _ hspace).mp hback (by decide)⟩

end SeedShell.Proofs
