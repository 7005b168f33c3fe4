import SeedShell.Proofs.Candidates
import SeedShell.Proofs.Insertion

/-!
# Completion settles

What several candidates share neither ends between a backslash and its space nor takes in the slash
of a directory, so it is a part of a name as it would be typed. Put in place of the token it is the
new token, behind the same text and in the same directory, and has the same candidates: these have
nothing more in common, and the next press adds nothing.
-/

namespace SeedShell.Proofs

open Completion Words

/-! ### The new token -/

/-- What is typed up to a slash of the token, or up to the token itself, leaves no escape open. -/
lemma cut_head_append {before lead start : List Char}
    (htoken : (cut before).token = lead ++ start)
    (hends : lead = [] ∨ ∃ front, lead = front ++ ['/']) :
    cut ((cut before).head ++ lead) = ⟨(cut before).head, lead, false⟩ := by
  have hbefore := (scanned_cut before).divides
  rw [htoken] at hbefore
  obtain ⟨hhead, hlead⟩ := dividesAtFreeSpace_iff.mp hbefore.of_append
  have hescaped : (cut ((cut before).head ++ lead)).escaped = false := by
    refine Bool.eq_false_iff.mpr fun hopen => ?_
    have hlast := ((scanned_cut ((cut before).head ++ lead)).escaped.mp hopen).getLast?_eq
    rw [← hlead] at hlast
    rcases hends with rfl | ⟨front, rfl⟩
    · cases hlast
    · simp at hlast
  generalize cut ((cut before).head ++ lead) = c at hhead hlead hescaped
  rw [hhead, hlead, ← hescaped]

lemma foldl_cut_escapeChars {cs : List Char} (h : '\\' ∉ cs) (head token : List Char) :
    (escapeChars cs).foldl Cut.step ⟨head, token, false⟩ =
      ⟨head, token ++ escapeChars cs, false⟩ := by
  induction cs generalizing token with
  | nil => simp [escapeChars]
  | cons c cs ih =>
    rw [List.mem_cons, not_or] at h
    by_cases hc : c = ' '
    · have hstep : Cut.step (Cut.step ⟨head, token, false⟩ '\\') ' ' =
          ⟨head, token ++ ['\\', ' '], false⟩ := by simp [Cut.step]
      rw [hc, escapeChars_cons_space, List.foldl_cons, List.foldl_cons, hstep, ih h.2]
      simp
    · have hstep : Cut.step ⟨head, token, false⟩ c = ⟨head, token ++ [c], false⟩ := by
        simp [Cut.step, Ne.symm h.1, hc]
      rw [escapeChars_cons_of_ne hc, List.foldl_cons, hstep, ih h.2]
      simp

/-! ### What typed names share -/

/-- A text that an escaped name begins with is itself an escaped one, or ends between a space of the
name and its backslash. -/
lemma of_isPrefix_escapeChars {cs name : List Char} (h : cs <+: escapeChars name) :
    ∃ start, start <+: name ∧ cs = escapeChars start ∨
      cs = escapeChars (start ++ ['\\']) ∧ cs ++ [' '] <+: escapeChars name := by
  induction name generalizing cs with
  | nil => exact ⟨[], .inl ⟨List.prefix_rfl, List.prefix_nil.mp h⟩⟩
  | cons c name ih =>
    rcases cs with _ | ⟨d, cs⟩
    · exact ⟨[], .inl ⟨List.nil_prefix, rfl⟩⟩
    by_cases hc : c = ' '
    · subst hc
      rw [escapeChars_cons_space] at h ⊢
      obtain ⟨rfl, hspace⟩ := List.cons_prefix_cons.mp h
      rcases cs with _ | ⟨e, cs⟩
      · exact ⟨[], .inr ⟨rfl, by simp⟩⟩
      obtain ⟨rfl, hrest⟩ := List.cons_prefix_cons.mp hspace
      obtain ⟨start, ⟨hstart, rfl⟩ | ⟨rfl, hnext⟩⟩ := ih hrest
      · refine ⟨' ' :: start, .inl ⟨List.cons_prefix_cons.mpr ⟨rfl, hstart⟩, ?_⟩⟩
        rw [escapeChars_cons_space]
      · refine ⟨' ' :: start, .inr ⟨?_, by simpa using hnext⟩⟩
        rw [List.cons_append, escapeChars_cons_space]
    · rw [escapeChars_cons_of_ne hc] at h ⊢
      obtain ⟨rfl, hrest⟩ := List.cons_prefix_cons.mp h
      obtain ⟨start, ⟨hstart, rfl⟩ | ⟨rfl, hnext⟩⟩ := ih hrest
      · refine ⟨d :: start, .inl ⟨List.cons_prefix_cons.mpr ⟨rfl, hstart⟩, ?_⟩⟩
        rw [escapeChars_cons_of_ne hc]
      · refine ⟨d :: start, .inr ⟨?_, by simpa using hnext⟩⟩
        rw [List.cons_append, escapeChars_cons_of_ne hc]

section Shared

variable {lead shared : List Char} {nodes : List Node}

/-- What the typed names of two entries begin with takes in no slash of a directory. -/
lemma slash_notMem_of_isPrefix {a b : Node} (hne : a.name ≠ b.name) (ha : '/' ∉ a.name.toList)
    (hb : '/' ∉ b.name.toList) (hshared : shared <+: typedName a)
    (hshared' : shared <+: typedName b) : '/' ∉ shared := by
  intro hmem
  obtain ⟨front, back, rfl, hfront⟩ := List.eq_append_cons_of_mem hmem
  have hname : ∀ n : Node, '/' ∉ n.name.toList → front ++ '/' :: back <+: typedName n →
      escapeChars n.name.toList = front := by
    rintro n hn ⟨rest, hrest⟩
    have hpass : ∀ c ∈ front, decide (c ≠ '/') = true :=
      fun c hc => decide_eq_true fun heq => hfront (heq ▸ hc)
    rw [← takeWhile_typedName hn, ← hrest, List.append_assoc, List.takeWhile_append_of_pos hpass,
      List.cons_append, List.takeWhile_cons_of_neg (by simp), List.append_nil]
  have hsame := (hname a ha hshared).trans (hname b hb hshared').symm
  exact hne (String.toList_inj.mp (escapeChars_injective hsame))

lemma isPrefix_escapeChars_of_notMem {n : Node} (hslash : '/' ∉ shared)
    (hshared : shared <+: typedName n) : shared <+: escapeChars n.name.toList := by
  rcases slashOf_cases n with hnone | hdirectory
  · rwa [typedName, hnone, List.append_nil] at hshared
  · rw [typedName, hdirectory, List.prefix_concat_iff] at hshared
    rcases hshared with rfl | hshared
    · exact absurd (by simp) hslash
    · exact hshared

lemma isPrefix_commonPrefix_items_iff (lead cs : List Char) (hsome : nodes ≠ []) :
    cs <+: (commonPrefix (Text.sort (nodes.map (item lead)))).toList ↔
      ∀ n ∈ nodes, cs <+: lead ++ typedName n := by
  obtain ⟨n, hn⟩ := List.exists_mem_of_ne_nil nodes hsome
  have hitem : item lead n ∈ Text.sort (nodes.map (item lead)) :=
    mem_sort.mpr (List.mem_map_of_mem hn)
  rw [isPrefix_commonPrefix_of_ne_nil (List.ne_nil_of_mem hitem)]
  simp only [mem_sort, List.mem_map, item, forall_exists_index, and_imp,
    forall_apply_eq_imp_iff₂, String.toList_ofList]

/-- What items share is the path before the names, and all that the typed names share. -/
lemma exists_commonPrefix_append (lead : List Char) (hsome : nodes ≠ []) :
    ∃ shared, (commonPrefix (Text.sort (nodes.map (item lead)))).toList = lead ++ shared ∧
      ∀ cs, cs <+: shared ↔ ∀ n ∈ nodes, cs <+: typedName n := by
  have hshares := fun cs : List Char => isPrefix_commonPrefix_items_iff lead cs hsome
  obtain ⟨shared, hshared⟩ := (hshares lead).mpr fun n _ => List.prefix_append lead (typedName n)
  refine ⟨shared, hshared.symm, fun cs => ?_⟩
  have hitems := hshares (lead ++ cs)
  rw [← hshared] at hitems
  simpa only [List.prefix_append_right_inj] using hitems

/-- Names without a backslash that agree up to a backslash of the typed one agree on its space. -/
lemma exists_escapeChars_eq (hbackslash : ∀ n ∈ nodes, '\\' ∉ n.name.toList)
    (hall : ∀ n ∈ nodes, shared <+: escapeChars n.name.toList)
    (hmost : ∃ n ∈ nodes, ¬shared ++ [' '] <+: escapeChars n.name.toList) :
    ∃ longer, shared = escapeChars longer ∧ ∀ n ∈ nodes, longer <+: n.name.toList := by
  obtain ⟨n, hn, hlast⟩ := hmost
  obtain ⟨longer, ⟨hlonger, rfl⟩ | ⟨-, hnext⟩⟩ := of_isPrefix_escapeChars (hall n hn)
  · refine ⟨longer, rfl, fun other hother => ?_⟩
    obtain ⟨start, ⟨hstart, hsame⟩ | ⟨hsame, -⟩⟩ := of_isPrefix_escapeChars (hall other hother)
    · rwa [escapeChars_injective hsame]
    · have hmem : '\\' ∈ longer := by simp [escapeChars_injective hsame]
      exact absurd (hlonger.subset hmem) (hbackslash n hn)
  · exact absurd hnext hlast

/-- What the items of several entries share is the path before the names, and a text that the names
share, as it would be typed. -/
lemma exists_commonPrefix_items (lead : List Char) {start : List Char}
    (hnodup : (nodes.map Node.name).Nodup) (htwo : 2 ≤ nodes.length)
    (hslash : ∀ n ∈ nodes, '/' ∉ n.name.toList)
    (hbackslash : ∀ n ∈ nodes, '\\' ∉ n.name.toList)
    (hstart : ∀ n ∈ nodes, start <+: n.name.toList) :
    ∃ longer, (commonPrefix (Text.sort (nodes.map (item lead)))).toList =
        lead ++ escapeChars longer ∧
      start <+: longer ∧ ∀ n ∈ nodes, longer <+: n.name.toList := by
  obtain ⟨a, b, rest, rfl⟩ : ∃ a b rest, nodes = a :: b :: rest := by
    match nodes, htwo with
    | a :: b :: rest, _ => exact ⟨a, b, rest, rfl⟩
  obtain ⟨shared, hshared, hmost⟩ := exists_commonPrefix_append lead (List.cons_ne_nil a (b :: rest))
  have htyped := (hmost shared).mp List.prefix_rfl
  have hmost_escaped : ∀ cs, (∀ n ∈ a :: b :: rest, cs <+: escapeChars n.name.toList) →
      cs <+: shared :=
    fun cs hcs => (hmost cs).mpr fun n hn => (hcs n hn).trans (List.prefix_append _ _)
  have hne : a.name ≠ b.name := by
    intro hsame
    simp [hsame] at hnodup
  have hnoslash : '/' ∉ shared :=
    slash_notMem_of_isPrefix hne (hslash a (by simp)) (hslash b (by simp)) (htyped a (by simp))
      (htyped b (by simp))
  have hescaped : ∀ n ∈ a :: b :: rest, shared <+: escapeChars n.name.toList :=
    fun n hn => isPrefix_escapeChars_of_notMem hnoslash (htyped n hn)
  -- one more space in common would be shared as well
  have hnospace : ∃ n ∈ a :: b :: rest, ¬shared ++ [' '] <+: escapeChars n.name.toList := by
    by_contra hnone
    push Not at hnone
    have hlength := (hmost_escaped _ hnone).length_le
    rw [List.length_append, List.length_singleton] at hlength
    omega
  obtain ⟨longer, rfl, hlonger⟩ := exists_escapeChars_eq hbackslash hescaped hnospace
  refine ⟨longer, hshared, ?_, hlonger⟩
  have hbegins := hmost_escaped _ fun n hn => escapeChars_isPrefix (hstart n hn)
  rcases List.prefix_or_prefix_of_prefix (hstart a (by simp)) (hlonger a (by simp)) with hle | hge
  · exact hle
  · have hsame := hbegins.eq_of_length_le (escapeChars_isPrefix hge).length_le
    exact escapeChars_injective hsame ▸ List.prefix_rfl

end Shared

/-! ### The same candidates -/

/-- To begin with what all matches share as well leaves the matches as they are. -/
lemma filter_isPrefixOf_eq {α : Type} {f : α → List Char} {xs : List α} {start longer : List Char}
    (hbegins : start <+: longer) (hall : ∀ x ∈ xs, start <+: f x → longer <+: f x) :
    xs.filter (fun x => longer.isPrefixOf (f x)) = xs.filter fun x => start.isPrefixOf (f x) := by
  refine List.filter_congr fun x hx => ?_
  rw [Bool.eq_iff_iff, List.isPrefixOf_iff_prefix, List.isPrefixOf_iff_prefix]
  exact ⟨hbegins.trans, hall x hx⟩

lemma IsPlainName.backslash_notMem {name : String} (h : IsPlainName name) :
    '\\' ∉ name.toList := by
  intro hmem
  rcases h.chars _ hmem with hliteral | hspace
  · exact ne_backslash_of_isLiteral hliteral rfl
  · cases hspace

/-- The text that the candidates share is a token behind the same text, with the same candidates. -/
structure Settles {σ : Type} (r : Registry σ) (s : Session σ) (before shared : List Char) :
    Prop where
  cut_eq : cut ((cut before).head ++ shared) = ⟨(cut before).head, shared, false⟩
  suggest_eq : suggest r s ((cut before).head ++ shared) = suggest r s before

lemma cut_head_append_escapeChars {before lead start longer : List Char}
    (htoken : (cut before).token = lead ++ start)
    (hends : lead = [] ∨ ∃ front, lead = front ++ ['/']) (hlonger : '\\' ∉ longer) :
    cut ((cut before).head ++ (lead ++ escapeChars longer)) =
      ⟨(cut before).head, lead ++ escapeChars longer, false⟩ := by
  have hlead := cut_head_append htoken hends
  rw [← List.append_assoc, cut, List.foldl_append, ← cut, hlead, foldl_cut_escapeChars hlonger]

section Candidates

variable {σ : Type} {r : Registry σ} {s : Session σ} {path directory start : List Char}

lemma suggest_of_command {before : List Char} {command : String}
    (hscript : ¬['.', '/'] <+: (cut before).token)
    (hcommand : (Text.fields (String.ofList (cut before).head)).head? = some command) :
    suggest r s before =
      Text.sort (((matching s (cut before).token).2.filter
        ((Wanted.ofCommand command).admits ·)).map
          (item (Text.cutAfterLast '/' (cut before).token).1)) := by
  rw [suggest_of_not_script hscript, hcommand]
  exact pathSuggestions_eq_sort _

/-- A longer name does not make a script of a path. -/
lemma not_script_append {path directory start name : List Char}
    (hcut : Text.cutAfterLast '/' path = (directory, start)) (hscript : ¬['.', '/'] <+: path)
    (hname : '/' ∉ name) : ¬['.', '/'] <+: directory ++ name := by
  intro hbegins
  have hpath := cutAfterLast_append '/' path
  rw [hcut] at hpath
  rcases ends_of_cutAfterLast hcut with rfl | ⟨front, rfl⟩
  · exact hname (hbegins.subset (by simp))
  · rcases front with _ | ⟨c, front⟩
    · simp at hbegins
    · have hlength : ['.', '/'].length ≤ (c :: front ++ ['/']).length := by simp
      have hdirectory := List.prefix_of_prefix_length_le hbegins (List.prefix_append _ _) hlength
      exact hscript (hpath ▸ hdirectory.trans (List.prefix_append _ _))

lemma matching_snd (hcut : Text.cutAfterLast '/' path = (directory, start)) :
    (matching s path).2 = (((directoryOf? s directory).elim [] fun id =>
      (s.tree.node id).children.map s.tree.node).filter fun n =>
        (unescape start).isPrefixOf n.name.toList) := by
  simp only [matching, hcut]
  cases directoryOf? s directory with
  | none => rfl
  | some id => simp only [Text.hasPrefix, String.toList_ofList, Option.elim_some]

lemma isPrefix_of_mem_matching {n : Node}
    (hcut : Text.cutAfterLast '/' path = (directory, start)) (h : n ∈ (matching s path).2) :
    unescape start <+: n.name.toList := by
  rw [matching_snd hcut] at h
  exact List.isPrefixOf_iff_prefix.mp (List.mem_filter.mp h).2

variable (hw : WellFormed s.tree) (hnames : PlainNames s.tree)
include hw hnames

lemma isPlainName_of_mem_matching {n : Node} (h : n ∈ (matching s path).2) :
    IsPlainName n.name := by
  obtain ⟨entry, ⟨⟨dir, -, hmem⟩, -⟩, rfl⟩ := mem_matching.mp h
  exact PlainNames.of_mem hw hnames hmem

/-- What the items of several matches share ends in a text that is typed as a name, and the path that
goes on with it has the same matches. -/
lemma exists_matching_eq (lead : List Char) (test : Node → Bool)
    (hcut : Text.cutAfterLast '/' path = (directory, start))
    (htwo : 2 ≤ ((matching s path).2.filter test).length) :
    ∃ longer,
      (commonPrefix (Text.sort (((matching s path).2.filter test).map (item lead)))).toList =
        lead ++ escapeChars longer ∧
      '/' ∉ longer ∧ '\\' ∉ longer ∧
      (matching s (directory ++ escapeChars longer)).2.filter test =
        (matching s path).2.filter test := by
  have hplain : ∀ n ∈ (matching s path).2.filter test, IsPlainName n.name :=
    fun n hn => isPlainName_of_mem_matching hw hnames (List.mem_of_mem_filter hn)
  have hnodup : (((matching s path).2.filter test).map Node.name).Nodup := by
    have hall : ((matching s path).2.map Node.name).Nodup := nodup_matching hw
    exact hall.sublist (List.filter_sublist.map Node.name)
  obtain ⟨longer, hshared, hbegins, hlonger⟩ := exists_commonPrefix_items lead hnodup htwo
    (fun n hn => (hplain n hn).slash) (fun n hn => (hplain n hn).backslash_notMem)
    (fun n hn => isPrefix_of_mem_matching hcut (List.mem_of_mem_filter hn))
  obtain ⟨n, hn⟩ : ∃ n, n ∈ (matching s path).2.filter test :=
    List.exists_mem_of_length_pos (Nat.lt_of_lt_of_le Nat.two_pos htwo)
  have hslash : '/' ∉ longer := fun hmem => (hplain n hn).slash ((hlonger n hn).subset hmem)
  have hcut' : Text.cutAfterLast '/' (directory ++ escapeChars longer) =
      (directory, escapeChars longer) :=
    cutAfterLast_append_of_notMem (ends_of_cutAfterLast hcut) (slash_notMem_escapeChars hslash)
  refine ⟨longer, hshared, hslash,
    fun hmem => (hplain n hn).backslash_notMem ((hlonger n hn).subset hmem), ?_⟩
  rw [matching_snd hcut] at hlonger
  rw [matching_snd hcut', matching_snd hcut, unescape_escapeChars, List.filter_comm,
    List.filter_comm test]
  refine filter_isPrefixOf_eq hbegins fun other hother hother' => hlonger other ?_
  obtain ⟨hchild, htest⟩ := List.mem_filter.mp hother
  refine List.mem_filter.mpr ⟨List.mem_filter.mpr ⟨hchild, ?_⟩, htest⟩
  exact List.isPrefixOf_iff_prefix.mpr hother'

variable {before : List Char}

/-- Candidates that are the items of matching entries settle, if a token with a longer name has such
candidates as well. -/
lemma settles_of_items {lead : List Char} (test : Node → Bool)
    (hcut : Text.cutAfterLast '/' path = (directory, start))
    (htoken : (cut before).token = lead ++ start)
    (hends : lead = [] ∨ ∃ front, lead = front ++ ['/'])
    (hitems : suggest r s before =
      Text.sort (((matching s path).2.filter test).map (item lead)))
    (hlonger : ∀ longer after, '/' ∉ longer → (cut after).head = (cut before).head →
      (cut after).token = lead ++ escapeChars longer → suggest r s after =
        Text.sort (((matching s (directory ++ escapeChars longer)).2.filter test).map (item lead)))
    (htwo : 2 ≤ (suggest r s before).length) :
    Settles r s before (commonPrefix (suggest r s before)).toList := by
  have hnodes : 2 ≤ ((matching s path).2.filter test).length := by
    rwa [hitems, Text.sort, List.length_mergeSort, List.length_map] at htwo
  obtain ⟨longer, hshared, hslash, hbackslash, hsame⟩ :=
    exists_matching_eq hw hnames lead test hcut hnodes
  have hnew := cut_head_append_escapeChars htoken hends hbackslash
  rw [hitems, hshared]
  refine ⟨hnew, ?_⟩
  rw [hlonger longer _ hslash (by rw [hnew]) (by rw [hnew]), hsame, hitems]

lemma settles_scripts (htoken : (cut before).token = '.' :: '/' :: path)
    (htwo : 2 ≤ (suggest r s before).length) :
    Settles r s before (commonPrefix (suggest r s before)).toList := by
  obtain ⟨⟨directory, start⟩, hcut⟩ : ∃ parts, Text.cutAfterLast '/' path = parts := ⟨_, rfl⟩
  have hpath := cutAfterLast_append '/' path
  rw [hcut] at hpath
  refine settles_of_items hw hnames (fun n => n.isFile && n.isExecutable) hcut
    (htoken.trans (by rw [← hpath]; rfl)) (.inr (dotSlash_ends hcut)) ?_ ?_ htwo
  · rw [suggest_of_script htoken, scriptSuggestions_eq_sort, hcut]
  · intro longer after hslash _ hlonger
    have hcut' := cutAfterLast_append_of_notMem (ends_of_cutAfterLast hcut)
      (slash_notMem_escapeChars hslash)
    have hpath' : (cut after).token = '.' :: '/' :: (directory ++ escapeChars longer) := hlonger
    rw [suggest_of_script hpath', scriptSuggestions_eq_sort, hcut']

lemma settles_entries {command : String} (hscript : ¬['.', '/'] <+: (cut before).token)
    (hcommand : (Text.fields (String.ofList (cut before).head)).head? = some command)
    (htwo : 2 ≤ (suggest r s before).length) :
    Settles r s before (commonPrefix (suggest r s before)).toList := by
  obtain ⟨⟨directory, start⟩, hcut⟩ : ∃ parts, Text.cutAfterLast '/' (cut before).token = parts :=
    ⟨_, rfl⟩
  have htoken : directory ++ start = (cut before).token := by
    have hparts := cutAfterLast_append '/' (cut before).token
    rwa [hcut] at hparts
  have hends := ends_of_cutAfterLast hcut
  refine settles_of_items hw hnames ((Wanted.ofCommand command).admits ·) hcut htoken.symm hends
    ?_ ?_ htwo
  · rw [suggest_of_command hscript hcommand, hcut]
  · intro longer after hslash hhead hlonger
    have hname := slash_notMem_escapeChars hslash
    have hscript' := not_script_append hcut hscript hname
    rw [← hlonger] at hscript'
    rw [suggest_of_command hscript' (hhead ▸ hcommand), hlonger,
      cutAfterLast_append_of_notMem hends hname]

end Candidates

/-! ### Names of commands -/

/-- A name that is typed as it is and is not a path. -/
def IsLiteralName (name : String) : Prop := ∀ c ∈ name.toList, isLiteral c ∧ c ≠ '/'

instance (name : String) : Decidable (IsLiteralName name) := List.decidableBAll _ _

def LiteralNames {σ : Type} (r : Registry σ) : Prop :=
  ∀ name ∈ r.commands.map Prod.fst, IsLiteralName name

lemma literalNames_standard {σ : Type} [KeyValueStore σ] :
    LiteralNames (.standard : Registry σ) := by
  have hnames : (Registry.standard : Registry σ).commands.map Prod.fst =
      ["cat", "cd", "clear", "echo", "grep", "help", "history", "ls", "pwd", "su"] := rfl
  rw [LiteralNames, hnames]
  decide +kernel

section Commands

variable {σ : Type} {r : Registry σ} {s : Session σ} {before : List Char}

/-- Starting to type what the candidates share leaves them as they are. -/
lemma completions_commonPrefix {start : String} (hsome : r.completions start ≠ []) :
    r.completions (commonPrefix (r.completions start)) = r.completions start := by
  have hshares := fun cs : List Char => @isPrefix_commonPrefix_of_ne_nil cs _ hsome
  have hstart : start.toList <+: (commonPrefix (r.completions start)).toList :=
    (hshares _).mpr fun _ hname => isPrefix_of_mem_completions hname
  refine filter_isPrefixOf_eq hstart fun name hname hname' => ?_
  refine (hshares _).mp List.prefix_rfl name (List.mem_filter.mpr ⟨hname, ?_⟩)
  exact List.isPrefixOf_iff_prefix.mpr hname'

lemma settles_commands (hr : LiteralNames r) (hscript : ¬['.', '/'] <+: (cut before).token)
    (hnone : (Text.fields (String.ofList (cut before).head)).head? = none)
    (hsome : suggest r s before ≠ []) :
    Settles r s before (commonPrefix (suggest r s before)).toList := by
  have hsuggest : suggest r s before = r.completions (String.ofList (cut before).token) := by
    rw [suggest_of_not_script hscript, hnone]
  rw [hsuggest] at hsome ⊢
  obtain ⟨shared, hshared⟩ : ∃ shared, commonPrefix (r.completions (.ofList (cut before).token)) =
      shared := ⟨_, rfl⟩
  have hsame := completions_commonPrefix hsome
  rw [hshared] at hsame ⊢
  have hliteral : ∀ c ∈ shared.toList, isLiteral c ∧ c ≠ '/' := by
    intro c hc
    obtain ⟨name, hname⟩ := List.exists_mem_of_ne_nil _ hsome
    have hbegins := (isPrefix_commonPrefix_of_ne_nil hsome).mp List.prefix_rfl name hname
    rw [hshared] at hbegins
    exact hr name (mem_completions.mp hname).1 c (hbegins.subset hc)
  have hcut : cut ((cut before).head ++ shared.toList) =
      ⟨(cut before).head, shared.toList, false⟩ := by
    have hbackslash : '\\' ∉ shared.toList :=
      fun hmem => ne_backslash_of_isLiteral (hliteral _ hmem).1 rfl
    have htoken : (cut before).token = [] ++ (cut before).token := (List.nil_append _).symm
    have hnew := cut_head_append_escapeChars htoken (.inl rfl) hbackslash
    rwa [List.nil_append, escapeChars_of_isLiteral fun c hc => (hliteral c hc).1] at hnew
  have hscript' : ¬['.', '/'] <+: (cut ((cut before).head ++ shared.toList)).token := by
    rw [hcut]
    exact fun hbegins => (hliteral '/' (hbegins.subset (by simp))).2 rfl
  refine ⟨hcut, ?_⟩
  rw [suggest_of_not_script hscript', hcut, hnone, String.ofList_toList, hsame, hsuggest]

lemma settles_suggest (hr : LiteralNames r) (hw : WellFormed s.tree) (hnames : PlainNames s.tree)
    (htwo : 2 ≤ (suggest r s before).length) :
    Settles r s before (commonPrefix (suggest r s before)).toList := by
  by_cases hscript : ['.', '/'] <+: (cut before).token
  · obtain ⟨path, hpath⟩ := hscript
    exact settles_scripts hw hnames hpath.symm htwo
  cases hcommand : (Text.fields (String.ofList (cut before).head)).head? with
  | none =>
    have hsome := List.ne_nil_of_length_pos (Nat.lt_of_lt_of_le Nat.two_pos htwo)
    exact settles_commands hr hscript hcommand hsome
  | some command => exact settles_entries hw hnames hscript hcommand htwo

end Commands

/-! ### The next press -/

lemma replacement?_of_two {token : List Char} {suggestions : List String}
    (h : 2 ≤ suggestions.length) :
    replacement? token suggestions = if token.length < (commonPrefix suggestions).toList.length then
      some (commonPrefix suggestions).toList else none := by
  match suggestions, h with
  | _ :: _ :: _, _ => rfl

section Presses

variable {σ : Type} {r : Registry σ} {s : Session σ} {buffer : String} {cursor : Nat}
  {before : List Char}

lemma complete_double (hbefore : buffer.toList.take cursor = before)
    (hsome : suggest r s before ≠ []) :
    complete r s buffer cursor .double =
      .listing (Text.join "  " ((suggest r s before).map finalPart)) := by
  subst hbefore
  rw [complete, if_neg hsome]

lemma complete_single_of_two (hbefore : buffer.toList.take cursor = before)
    (htwo : 2 ≤ (suggest r s before).length) :
    complete r s buffer cursor .single =
      if (cut before).token.length < (commonPrefix (suggest r s before)).toList.length then
        .edit (.ofList ((cut before).head ++ (commonPrefix (suggest r s before)).toList ++
            buffer.toList.drop cursor))
          ((cut before).head ++ (commonPrefix (suggest r s before)).toList).length
      else .unchanged := by
  subst hbefore
  have hsome := List.ne_nil_of_length_pos (Nat.lt_of_lt_of_le Nat.two_pos htwo)
  simp only [complete, if_neg hsome, replacement?_of_two htwo]
  split_ifs <;> rfl

end Presses

/-- A press that inserts what several candidates share does all there is to do. The candidates stay,
another press changes nothing, and a double press lists the same names as before. -/
theorem completion_settles {σ : Type} [KeyValueStore σ] {s : Session σ} (hs : Reachable s)
    (hnames : PlainNames s.tree) {buffer buffer' : String} {cursor cursor' : Nat}
    (htwo : 2 ≤ (suggest .standard s (buffer.toList.take cursor)).length)
    (hedit : complete .standard s buffer cursor .single = .edit buffer' cursor') :
    suggest .standard s (buffer'.toList.take cursor') =
      suggest .standard s (buffer.toList.take cursor) ∧
    complete .standard s buffer' cursor' .single = .unchanged ∧
    ∃ names, complete .standard s buffer cursor .double = .listing names ∧
      complete .standard s buffer' cursor' .double = .listing names := by
  have hsome := List.ne_nil_of_length_pos (Nat.lt_of_lt_of_le Nat.two_pos htwo)
  obtain ⟨hcut, hsame⟩ := settles_suggest literalNames_standard hs.wellFormed hnames htwo
  rw [complete_single_of_two rfl htwo] at hedit
  split at hedit
  · obtain ⟨rfl, rfl⟩ := Completion.edit.inj hedit
    rw [String.toList_ofList, List.take_left, hsame]
    refine ⟨rfl, ?_, _, complete_double rfl hsome, ?_⟩
    · rw [complete_single_of_two (by rw [String.toList_ofList, List.take_left])
        (by rwa [hsame]), hsame, hcut, if_neg (Nat.lt_irrefl _)]
    · rw [complete_double (by rw [String.toList_ofList, List.take_left]) (by rwa [hsame]), hsame]
  · cases hedit

/-! ### A directory and a file -/

/-- A home with a directory and a file whose names begin with the same words. -/
def wordsSeed : Seed :=
  .directory "/" ⟨"drwxr-xr-x", "", "", ""⟩
    [.directory "home" ⟨"drwxr-xr-x", "", "", ""⟩
      [.directory "ada" ⟨"drwxr-xr-x", "", "", ""⟩
        [.file "my docs.zip" ⟨"-rw-r--r--", "", "", ""⟩ [],
          .directory "my docs" ⟨"drwxr-xr-x", "", "", ""⟩ []]]]

def wordsTree : Tree :=
  ⟨#[⟨"/", ⟨"drwxr-xr-x", "", "", ""⟩, none, .directory [1]⟩,
    ⟨"home", ⟨"drwxr-xr-x", "", "", ""⟩, some 0, .directory [2]⟩,
    ⟨"ada", ⟨"drwxr-xr-x", "", "", ""⟩, some 1, .directory [3, 4]⟩,
    ⟨"my docs.zip", ⟨"-rw-r--r--", "", "", ""⟩, some 2, .file []⟩,
    ⟨"my docs", ⟨"drwxr-xr-x", "", "", ""⟩, some 2, .directory []⟩]⟩

lemma ofSeed_wordsSeed : Tree.ofSeed wordsSeed = .ok wordsTree := rfl

def wordsSession : Session Memory := started { defaultUser := "ada" } wordsTree [] .empty id

lemma reachable_wordsSession : Reachable wordsSession :=
  ⟨{ defaultUser := "ada" }, wordsSeed, [], .empty, id, .ofSession wordsSession, [],
    boot_eq_ok_iff.mpr ⟨wordsTree, ofSeed_wordsSeed, rfl⟩, rfl⟩

lemma suggest_wordsSession : suggest .standard wordsSession "ls m".toList =
    ["my\\ docs.zip", "my\\ docs/"] := by
  have hscript : ¬['.', '/'] <+: (cut "ls m".toList).token := by decide +kernel
  have hcommand : (Text.fields (String.ofList (cut "ls m".toList).head)).head? = some "ls" := by
    decide +kernel
  have hitems : ((matching wordsSession (cut "ls m".toList).token).2.filter
      ((Wanted.ofCommand "ls").admits ·)).map
        (item (Text.cutAfterLast '/' (cut "ls m".toList).token).1) =
      ["my\\ docs.zip", "my\\ docs/"] := by decide +kernel
  rw [suggest_of_command hscript hcommand, hitems]
  exact List.mergeSort_of_pairwise (by decide +kernel)

/-- The slash would tell the directory from the file, so it is not put in. -/
theorem completion_settles_words :
    complete .standard wordsSession "ls m -l" 4 .single = .edit "ls my\\ docs -l" 11 ∧
    suggest .standard wordsSession ("ls my\\ docs -l".toList.take 11) =
      ["my\\ docs.zip", "my\\ docs/"] ∧
    complete .standard wordsSession "ls my\\ docs -l" 11 .single = .unchanged ∧
    complete .standard wordsSession "ls my\\ docs -l" 11 .double =
      .listing "my\\ docs.zip  my\\ docs/" := by
  have hnames : PlainNames wordsSession.tree := by decide +kernel
  have hbefore : "ls m -l".toList.take 4 = "ls m".toList := rfl
  have htwo : 2 ≤ (suggest .standard wordsSession "ls m".toList).length := by
    rw [suggest_wordsSession]
    decide
  have hedit : complete .standard wordsSession "ls m -l" 4 .single =
      .edit "ls my\\ docs -l" 11 := by
    rw [complete_single_of_two hbefore htwo, suggest_wordsSession]
    decide +kernel
  obtain ⟨hsame, hunchanged, names, hlisted, hlisted'⟩ :=
    completion_settles reachable_wordsSession hnames (hbefore ▸ htwo) hedit
  refine ⟨hedit, ?_, hunchanged, hlisted'.trans ?_⟩
  · rw [hsame, hbefore, suggest_wordsSession]
  · have hsome := List.ne_nil_of_length_pos (Nat.lt_of_lt_of_le Nat.two_pos htwo)
    rw [← hlisted, complete_double hbefore hsome, suggest_wordsSession]
    decide +kernel

end SeedShell.Proofs
