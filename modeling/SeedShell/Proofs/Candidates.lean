import SeedShell.Proofs.RelativeScripts

/-!
# Which candidates are suggested

Suggestions stand in strictly ascending order, so none comes twice. Behind a command each entry of
the directory that is typed so far gives one item if its name goes on and its kind fits. Behind
`./` the same holds of the executable files. Without a command the names of commands are suggested.

The directory behind `./` is the one that the text up to and with its last slash leads to. Without
that slash it would be the same directory, except when the slash is all there is.
-/

namespace SeedShell.Proofs

open Session Completion

/-! ### Names and items -/

/-- Every name but that of the root has characters and no slash among them. -/
def SlashFreeNames (t : Tree) : Prop :=
  ∀ id < t.size, id ≠ Tree.root → (t.node id).name ≠ "" ∧ '/' ∉ (t.node id).name.toList

instance (t : Tree) : Decidable (SlashFreeNames t) :=
  inferInstanceAs (Decidable (∀ id < t.size, _ → _))

/-- An entry as it is typed, with a slash behind a directory. -/
def typedName (n : Node) : List Char := Words.escapeChars n.name.toList ++ slashOf n

/-- The suggestion for an entry. -/
def item (lead : List Char) (n : Node) : String := String.ofList (lead ++ typedName n)

section Items

variable {lead : List Char} {a b n : Node}

lemma slash_notMem_escapeChars {cs : List Char} (h : '/' ∉ cs) : '/' ∉ Words.escapeChars cs := by
  intro hmem
  obtain ⟨c, hc, hmem⟩ := List.mem_flatMap.mp hmem
  split at hmem
  · simp at hmem
  · exact h (List.mem_singleton.mp hmem ▸ hc)

lemma takeWhile_typedName (h : '/' ∉ n.name.toList) :
    (typedName n).takeWhile (· ≠ '/') = Words.escapeChars n.name.toList := by
  have hescaped := slash_notMem_escapeChars h
  have hslash : (slashOf n).takeWhile (· ≠ '/') = [] := by
    rcases slashOf_cases n with hnone | hslash
    · rw [hnone, List.takeWhile_nil]
    · rw [hslash, List.takeWhile_cons_of_neg (by simp)]
  rw [typedName, List.takeWhile_append_of_pos, hslash, List.append_nil]
  intro c hc
  exact decide_eq_true fun heq => hescaped (heq ▸ hc)

/-- The slash of a directory is cut off again, and escaped spaces come back. -/
lemma name_eq_of_item_eq (ha : '/' ∉ a.name.toList) (hb : '/' ∉ b.name.toList)
    (h : item lead a = item lead b) : a.name = b.name := by
  have htyped : typedName a = typedName b :=
    List.append_cancel_left (String.ofList_injective h)
  have hescaped : Words.escapeChars a.name.toList = Words.escapeChars b.name.toList := by
    rw [← takeWhile_typedName ha, ← takeWhile_typedName hb, htyped]
  exact String.toList_inj.mp (escapeChars_injective hescaped)

lemma item_of_isFile (h : n.isFile = true) :
    item lead n = String.ofList (lead ++ Words.escapeChars n.name.toList) := by
  rw [item, typedName, slashOf_of_isFile h, List.append_nil]

/-- The last part of a suggestion is the entry without what was typed before it. -/
lemma finalPart_item (hlead : lead = [] ∨ ∃ front, lead = front ++ ['/']) (hempty : n.name ≠ "")
    (hslash : '/' ∉ n.name.toList) : finalPart (item lead n) = String.ofList (typedName n) := by
  have hescaped := slash_notMem_escapeChars hslash
  have hsome : Words.escapeChars n.name.toList ≠ [] := by
    intro hnil
    have hname := unescape_escapeChars n.name.toList
    rw [hnil] at hname
    exact hempty (String.toList_eq_nil_iff.mp hname.symm)
  have hbody : (if (lead ++ typedName n).getLast? = some '/' then (lead ++ typedName n).dropLast
      else lead ++ typedName n) = lead ++ Words.escapeChars n.name.toList := by
    rcases slashOf_cases n with hnone | hslash
    · rw [typedName, hnone, List.append_nil, if_neg]
      rw [List.getLast?_append_of_ne_nil _ hsome]
      exact fun hlast => hescaped (List.mem_of_getLast? hlast)
    · rw [typedName, hslash, ← List.append_assoc, if_pos (by simp), List.dropLast_concat]
  simp only [finalPart, item, String.toList_ofList, hbody,
    cutAfterLast_append_of_notMem hlead hescaped, List.drop_left]

end Items

/-! ### What should be suggested -/

/-- A kind of entry that a command takes. -/
def Fits (command : String) (n : Node) : Prop :=
  (command = "cd" → n.isDirectory = true) ∧ (command = "cat" → n.isFile = true)

def IsExecutableFile (n : Node) : Prop := n.isFile = true ∧ n.isExecutable = true

/-- A child of a directory that is of a kind and whose name begins as it was typed. -/
structure Candidate (t : Tree) (dir? : Option Nat) (Kind : Node → Prop) (start : List Char)
    (id : Nat) : Prop where
  parent : ∃ dir, dir? = some dir ∧ id ∈ (t.node dir).children
  start : start <+: (t.node id).name.toList
  kind : Kind (t.node id)

/-- Each candidate has one item, which ends in the entry, and there are no others. -/
structure Offers (t : Tree) (dir? : Option Nat) (Kind : Node → Prop) (lead start : List Char)
    (items : List String) : Prop where
  mem_iff : ∀ text, text ∈ items ↔
    ∃ id, Candidate t dir? Kind start id ∧ text = item lead (t.node id)
  once : ∀ a b, Candidate t dir? Kind start a → Candidate t dir? Kind start b →
    item lead (t.node a) = item lead (t.node b) → a = b
  final : ∀ id, Candidate t dir? Kind start id →
    finalPart (item lead (t.node id)) = String.ofList (typedName (t.node id))

/-- The right suggestions for a typed text, where `scriptsIn` tells in which directory to look for
scripts. -/
structure RightCandidates {σ : Type} (r : Registry σ) (s : Session σ) (before : List Char)
    (scriptsIn : List Char → Option Nat) (items : List String) : Prop where
  ascends : items.Pairwise (· < ·)
  scripts : ∀ path directory start, (cut before).token = '.' :: '/' :: path →
    Text.cutAfterLast '/' path = (directory, start) →
    Offers s.tree (scriptsIn directory) IsExecutableFile ('.' :: '/' :: directory)
      (unescape start) items
  entries : ∀ command directory start, ¬['.', '/'] <+: (cut before).token →
    (Text.fields (String.ofList (cut before).head)).head? = some command →
    Text.cutAfterLast '/' (cut before).token = (directory, start) →
    Offers s.tree (directoryOf? s directory) (Fits command) directory (unescape start) items
  commands : ¬['.', '/'] <+: (cut before).token →
    (Text.fields (String.ofList (cut before).head)).head? = none →
    ∀ text, text ∈ items ↔
      text ∈ r.commands.map Prod.fst ∧ (cut before).token <+: text.toList

section Offering

variable {t : Tree} {dir? dir?' : Option Nat} {Kind : Node → Prop} {lead start : List Char}
  {items : List String}

/-- The item of a file depends on its name alone. -/
lemma exists_item_iff (hkind : ∀ n, Kind n → n.isFile = true) {text : String} :
    (∃ id, Candidate t dir? Kind start id ∧ text = item lead (t.node id)) ↔
      ∃ name, (∃ id, Candidate t dir? Kind start id ∧ (t.node id).name = name) ∧
        text = String.ofList (lead ++ Words.escapeChars name.toList) := by
  constructor
  · rintro ⟨id, hid, rfl⟩
    exact ⟨_, ⟨id, hid, rfl⟩, item_of_isFile (hkind _ hid.kind)⟩
  · rintro ⟨_, ⟨id, hid, rfl⟩, rfl⟩
    exact ⟨id, hid, (item_of_isFile (hkind _ hid.kind)).symm⟩

variable (hw : WellFormed t) (hnames : SlashFreeNames t)
include hw hnames

lemma SlashFreeNames.of_mem {dir child : Nat} (h : child ∈ (t.node dir).children) :
    (t.node child).name ≠ "" ∧ '/' ∉ (t.node child).name.toList :=
  hnames child (hw.lt_of_mem h) fun hroot => hw.root_notMem dir (hroot ▸ h)

lemma Candidate.slashFree {id : Nat} (h : Candidate t dir? Kind start id) :
    (t.node id).name ≠ "" ∧ '/' ∉ (t.node id).name.toList := by
  obtain ⟨dir, -, hmem⟩ := h.parent
  exact SlashFreeNames.of_mem hw hnames hmem

lemma Offers.of_mem_iff (hlead : lead = [] ∨ ∃ front, lead = front ++ ['/'])
    (hmem : ∀ text, text ∈ items ↔
      ∃ id, Candidate t dir? Kind start id ∧ text = item lead (t.node id)) :
    Offers t dir? Kind lead start items where
  mem_iff := hmem
  once := by
    intro a b ha hb hsame
    have hname := name_eq_of_item_eq (ha.slashFree hw hnames).2 (hb.slashFree hw hnames).2 hsame
    obtain ⟨dir, hdir, hchild⟩ := ha.parent
    obtain ⟨dir', hdir', hchild'⟩ := hb.parent
    obtain rfl : dir = dir' := Option.some.inj (hdir.symm.trans hdir')
    exact hw.eq_of_name hchild hchild' hname
  final := by
    intro id hid
    obtain ⟨hempty, hslash⟩ := hid.slashFree hw hnames
    exact finalPart_item hlead hempty hslash

/-- An item of two directories gives its name to entries of both. -/
lemma Offers.exists_name (h : Offers t dir? Kind lead start items)
    (h' : Offers t dir?' Kind lead start items) {id : Nat} (hid : Candidate t dir? Kind start id) :
    ∃ other, Candidate t dir?' Kind start other ∧ (t.node other).name = (t.node id).name := by
  have hmem : item lead (t.node id) ∈ items := (h.mem_iff _).mpr ⟨id, hid, rfl⟩
  obtain ⟨other, hother, hsame⟩ := (h'.mem_iff _).mp hmem
  have hslash := (hid.slashFree hw hnames).2
  have hslash' := (hother.slashFree hw hnames).2
  exact ⟨other, hother, (name_eq_of_item_eq hslash hslash' hsame).symm⟩

/-- Two directories offer the same files if these have the same names. -/
lemma Offers.iff_names (hkind : ∀ n, Kind n → n.isFile = true)
    (hlead : lead = [] ∨ ∃ front, lead = front ++ ['/'])
    (h : Offers t dir? Kind lead start items) :
    Offers t dir?' Kind lead start items ↔ ∀ name,
      (∃ id, Candidate t dir? Kind start id ∧ (t.node id).name = name) ↔
        ∃ id, Candidate t dir?' Kind start id ∧ (t.node id).name = name := by
  constructor
  · intro h' name
    constructor
    · rintro ⟨id, hid, rfl⟩
      exact h.exists_name hw hnames h' hid
    · rintro ⟨id, hid, rfl⟩
      exact h'.exists_name hw hnames h hid
  · intro hsame
    refine .of_mem_iff hw hnames hlead fun text => ?_
    simp only [h.mem_iff, exists_item_iff hkind, hsame]

end Offering

/-! ### Matching entries -/

section Matching

variable {σ : Type} {s : Session σ} {path : List Char}

lemma candidate_iff_matches {Kind : Node → Prop} {directory start : List Char} {id : Nat}
    (hcut : Text.cutAfterLast '/' path = (directory, start)) :
    Candidate s.tree (directoryOf? s directory) Kind (unescape start) id ↔
      Matches s path id ∧ Kind (s.tree.node id) := by
  have hprefix : unescape start <+: (s.tree.node id).name.toList ↔
      Text.hasPrefix (String.ofList (unescape start)) (s.tree.node id).name = true := by
    rw [Text.hasPrefix, String.toList_ofList, List.isPrefixOf_iff_prefix]
  constructor
  · rintro ⟨hparent, hstart, hkind⟩
    exact ⟨⟨by rwa [hcut], by rwa [hcut, ← hprefix]⟩, hkind⟩
  · rintro ⟨⟨hparent, hstart⟩, hkind⟩
    rw [hcut] at hparent hstart
    exact ⟨hparent, hprefix.mpr hstart, hkind⟩

lemma admits_iff_fits {command : String} {n : Node} :
    (Wanted.ofCommand command).admits n = true ↔ Fits command n := by
  unfold Wanted.ofCommand
  split
  · next hcd => simp [Wanted.admits, Fits, hcd]
  split
  · next hcd hcat => simp [Wanted.admits, Fits, hcat]
  · next hcd hcat => simp [Wanted.admits, Fits, hcd, hcat]

lemma pathSuggestions_eq_sort (wanted : Wanted) : pathSuggestions s path wanted =
    Text.sort (((matching s path).2.filter (wanted.admits ·)).map
      (item (Text.cutAfterLast '/' path).1)) := by
  apply congrArg Text.sort
  refine List.map_congr_left fun n _ => ?_
  exact pathItem_eq _ n

lemma dotSlash_append (cs : List Char) :
    "./" ++ String.ofList cs = String.ofList ('.' :: '/' :: cs) := by
  rw [← String.toList_inj]
  simp

/-- What a script is typed behind ends in a slash, if only in that of `./`. -/
lemma dotSlash_ends {directory start : List Char}
    (hcut : Text.cutAfterLast '/' path = (directory, start)) :
    ∃ front, '.' :: '/' :: directory = front ++ ['/'] := by
  rcases ends_of_cutAfterLast hcut with rfl | ⟨front, rfl⟩
  · exact ⟨['.'], rfl⟩
  · exact ⟨'.' :: '/' :: front, rfl⟩

lemma scriptSuggestions_eq_sort : scriptSuggestions s path =
    Text.sort (((matching s path).2.filter fun n => n.isFile && n.isExecutable).map
      (item ('.' :: '/' :: (Text.cutAfterLast '/' path).1))) := by
  apply congrArg Text.sort
  refine List.map_congr_left fun n hn => ?_
  have hfile : n.isFile = true := (Bool.and_eq_true_iff.mp (List.mem_filter.mp hn).2).1
  exact (scriptItem_eq _ hfile).trans (dotSlash_append _)

variable (hw : WellFormed s.tree) (hnames : SlashFreeNames s.tree)
include hw

lemma nodup_matching : ((matching s path).2.map Node.name).Nodup := by
  simp only [matching]
  cases directoryOf? s (Text.cutAfterLast '/' path).1 with
  | none => exact .nil
  | some dir =>
    have hchildren : (((s.tree.node dir).children.map s.tree.node).map Node.name).Nodup := by
      rw [List.map_map]
      exact hw.names_nodup dir
    exact hchildren.sublist (List.filter_sublist.map _)

include hnames

lemma nodup_items (lead : List Char) (test : Node → Bool) :
    (((matching s path).2.filter test).map (item lead)).Nodup := by
  have hslash : ∀ n ∈ (matching s path).2.filter test, '/' ∉ n.name.toList := by
    intro n hn
    obtain ⟨entry, ⟨⟨dir, -, hmem⟩, -⟩, rfl⟩ := mem_matching.mp (List.mem_of_mem_filter hn)
    exact (SlashFreeNames.of_mem hw hnames hmem).2
  have hnodup : ((matching s path).2.map Node.name).Nodup := nodup_matching hw
  have hdiffer := (List.pairwise_map.mp hnodup).filter test
  refine List.pairwise_map.mpr (hdiffer.imp_of_mem fun ha hb hne hsame => hne ?_)
  exact name_eq_of_item_eq (hslash _ ha) (hslash _ hb) hsame

end Matching

/-! ### The suggestions -/

/-- No command is listed under the name of another one. -/
def DistinctNames {σ : Type} (r : Registry σ) : Prop := (r.commands.map Prod.fst).Nodup

lemma distinctNames_standard {σ : Type} [KeyValueStore σ] :
    DistinctNames (.standard : Registry σ) := by
  simp [DistinctNames, Registry.standard]

lemma DistinctNames.register {σ : Type} {r : Registry σ} (h : DistinctNames r) (name : String)
    (command : Command σ) : DistinctNames (r.register name command) := by
  have hrest := h.sublist (List.filter_sublist (p := (·.1 ≠ name)).map Prod.fst)
  refine List.nodup_cons.mpr ⟨?_, hrest⟩
  simp

section Suggesting

variable {σ : Type} {r : Registry σ} {s : Session σ} {before : List Char}

lemma suggest_of_script {path : List Char} (h : (cut before).token = '.' :: '/' :: path) :
    suggest r s before = scriptSuggestions s path := by
  unfold suggest
  simp only [h]

lemma suggest_of_not_script (h : ¬['.', '/'] <+: (cut before).token) : suggest r s before =
    match (Text.fields (String.ofList (cut before).head)).head? with
    | none => r.completions (String.ofList (cut before).token)
    | some command => pathSuggestions s (cut before).token (.ofCommand command) := by
  unfold suggest
  dsimp only
  split
  · next path hpath => exact absurd (hpath ▸ List.prefix_append ['.', '/'] path) h
  · rfl

lemma mem_completions {start text : String} : text ∈ r.completions start ↔
    text ∈ r.commands.map Prod.fst ∧ start.toList <+: text.toList := by
  rw [Registry.completions, List.mem_filter, Registry.names, mem_sort, Text.hasPrefix,
    List.isPrefixOf_iff_prefix]

lemma ascends_completions (h : DistinctNames r) (start : String) :
    (r.completions start).Pairwise (· < ·) :=
  (pairwise_lt_sort h).filter _

variable (hw : WellFormed s.tree) (hnames : SlashFreeNames s.tree)
include hw hnames

lemma ascends_suggest (hr : DistinctNames r) : (suggest r s before).Pairwise (· < ·) := by
  by_cases hscript : ['.', '/'] <+: (cut before).token
  · obtain ⟨path, hpath⟩ := hscript
    rw [suggest_of_script hpath.symm, scriptSuggestions_eq_sort]
    exact pairwise_lt_sort (nodup_items hw hnames _ _)
  rw [suggest_of_not_script hscript]
  split
  · exact ascends_completions hr _
  · rw [pathSuggestions_eq_sort]
    exact pairwise_lt_sort (nodup_items hw hnames _ _)

lemma offers_entries {command : String} {path directory start : List Char}
    (hcut : Text.cutAfterLast '/' path = (directory, start)) :
    Offers s.tree (directoryOf? s directory) (Fits command) directory (unescape start)
      (pathSuggestions s path (.ofCommand command)) := by
  refine .of_mem_iff hw hnames (ends_of_cutAfterLast hcut) fun text => ?_
  simp only [mem_pathSuggestions, candidate_iff_matches hcut, admits_iff_fits]
  constructor
  · rintro ⟨id, hid, hfits⟩
    refine ⟨id, ⟨hid.toMatches, hfits⟩, ?_⟩
    rw [hid.text_eq, hcut]
    rfl
  · rintro ⟨id, ⟨hid, hfits⟩, rfl⟩
    refine ⟨id, ⟨hid, ?_⟩, hfits⟩
    rw [hcut]
    rfl

lemma offers_scripts {path directory start : List Char}
    (hcut : Text.cutAfterLast '/' path = (directory, start)) :
    Offers s.tree (directoryOf? s directory) IsExecutableFile ('.' :: '/' :: directory)
      (unescape start) (scriptSuggestions s path) := by
  refine .of_mem_iff hw hnames (.inr (dotSlash_ends hcut)) fun text => ?_
  simp only [mem_scriptSuggestions, candidate_iff_matches hcut]
  constructor
  · rintro ⟨id, ⟨rest, hrest, rfl⟩, hfile, hexecutable⟩
    refine ⟨id, ⟨hrest.toMatches, hfile, hexecutable⟩, ?_⟩
    rw [hrest.text_eq, hcut, dotSlash_append]
    rfl
  · rintro ⟨id, ⟨hid, hkind⟩, rfl⟩
    refine ⟨id, ⟨_, ⟨hid, rfl⟩, ?_⟩, hkind.1, hkind.2⟩
    rw [hcut, dotSlash_append]
    rfl

lemma rightCandidates_suggest (hr : DistinctNames r) :
    RightCandidates r s before (directoryOf? s) (suggest r s before) where
  ascends := ascends_suggest hw hnames hr
  scripts := by
    intro path directory start hpath hcut
    rw [suggest_of_script hpath]
    exact offers_scripts hw hnames hcut
  entries := by
    intro command directory start hscript hcommand hcut
    rw [suggest_of_not_script hscript, hcommand]
    exact offers_entries hw hnames hcut
  commands := by
    intro hscript hcommand text
    rw [suggest_of_not_script hscript, hcommand, mem_completions, String.toList_ofList]

end Suggesting

/-- Over names without a slash exactly the right candidates are suggested, if scripts are looked
for in the directory that is typed up to and with its last slash. Without that slash it would be
the same except for `.//` and a name, where it makes a difference unless the root and the current
directory hold executable files of the same names. -/
theorem suggests_right_candidates_iff {σ : Type} [KeyValueStore σ] {r : Registry σ}
    {s : Session σ} (hs : Reachable s) (hnames : SlashFreeNames s.tree) (hr : DistinctNames r)
    (before : List Char) :
    RightCandidates r s before (directoryOf? s) (suggest r s before) ∧
    (RightCandidates r s before (fun directory => directoryOf? s directory.dropLast)
        (suggest r s before) ↔
      ∀ start, (cut before).token = '.' :: '/' :: '/' :: start → '/' ∉ start → ∀ name,
        (∃ id, Candidate s.tree (some Tree.root) IsExecutableFile (unescape start) id ∧
            (s.tree.node id).name = name) ↔
          ∃ id, Candidate s.tree (some s.cwdNode) IsExecutableFile (unescape start) id ∧
            (s.tree.node id).name = name) := by
  have hw := hs.wellFormed
  have hright : RightCandidates r s before (directoryOf? s) (suggest r s before) :=
    rightCandidates_suggest hw hnames hr
  have hkind : ∀ n, IsExecutableFile n → n.isFile = true := fun _ h => h.1
  have hlead : ['.', '/', '/'] = [] ∨ ∃ front, ['.', '/', '/'] = front ++ ['/'] :=
    .inr ⟨['.', '/'], rfl⟩
  refine ⟨hright, ?_, ?_⟩
  · intro h start htoken hslash
    have hcut : Text.cutAfterLast '/' ('/' :: start) = (['/'], start) :=
      cutAfterLast_append_mark hslash []
    have hroot := hright.scripts _ _ _ htoken hcut
    have hcwd := h.scripts _ _ _ htoken hcut
    rw [directoryOf?_slash hw] at hroot
    exact (hroot.iff_names hw hnames hkind hlead).mp hcwd
  · intro h
    refine ⟨hright.ascends, ?_, hright.entries, hright.commands⟩
    intro path directory start hpath hcut
    have hoffers := hright.scripts path directory start hpath hcut
    obtain ⟨hslash, ⟨rfl, -⟩ | ⟨front, rfl, rfl⟩⟩ := of_cutAfterLast hcut
    · exact hoffers
    by_cases hempty : front = []
    · -- a lone slash is the root, and without it nothing is left but the current directory
      subst hempty
      rw [List.nil_append, directoryOf?_slash hw] at hoffers
      exact (hoffers.iff_names hw hnames hkind hlead).mpr (h start hpath hslash)
    · rw [directoryOf?_concat_slash hw hempty] at hoffers
      rwa [List.dropLast_concat]

/-- A script below the home, whose directory is the same with and without its slash. -/
theorem suggests_right_candidates_below : Reachable scriptSession ∧
    SlashFreeNames scriptSession.tree ∧
    DistinctNames (.standard : Registry Memory) ∧
    RightCandidates .standard scriptSession "./docs/t".toList
      (fun directory => directoryOf? scriptSession directory.dropLast) ["./docs/tool\\ box"] := by
  have hnames : SlashFreeNames scriptSession.tree := by decide +kernel
  have hsuggest : suggest .standard scriptSession "./docs/t".toList = ["./docs/tool\\ box"] := by
    decide +kernel
  have htoken : (cut "./docs/t".toList).token = "./docs/t".toList := by decide +kernel
  obtain ⟨-, hright⟩ := suggests_right_candidates_iff reachable_scriptSession hnames
    distinctNames_standard "./docs/t".toList
  rw [hsuggest] at hright
  refine ⟨reachable_scriptSession, hnames, distinctNames_standard, hright.mpr ?_⟩
  intro start hstart
  rw [htoken] at hstart
  simp at hstart

/-- Behind `.//` the script of the root is suggested, while the text between the slashes is empty
and the current directory has no script that begins so. -/
theorem suggests_script_of_root : Reachable scriptSession ∧
    SlashFreeNames scriptSession.tree ∧
    suggest .standard scriptSession ".//g".toList = [".//greet"] ∧
    (∀ id, ¬Candidate scriptSession.tree (some scriptSession.cwdNode) IsExecutableFile ['g'] id) ∧
    ¬RightCandidates .standard scriptSession ".//g".toList
      (fun directory => directoryOf? scriptSession directory.dropLast)
      (suggest .standard scriptSession ".//g".toList) := by
  have hnames : SlashFreeNames scriptSession.tree := by decide +kernel
  have hsuggest : suggest .standard scriptSession ".//g".toList = [".//greet"] := by
    decide +kernel
  have hnone : ∀ id,
      ¬Candidate scriptSession.tree (some scriptSession.cwdNode) IsExecutableFile ['g'] id := by
    have hchildren : (scriptSession.tree.node scriptSession.cwdNode).children = [3, 4] := by
      decide +kernel
    rintro id ⟨⟨dir, hdir, hmem⟩, hstart, -⟩
    obtain rfl := Option.some.inj hdir
    rw [hchildren] at hmem
    rcases List.mem_pair.mp hmem with rfl | rfl <;> exact absurd hstart (by decide)
  refine ⟨reachable_scriptSession, hnames, hsuggest, hnone, fun h => ?_⟩
  have htoken : (cut ".//g".toList).token = ['.', '/', '/', 'g'] := by decide +kernel
  have hoffers := h.scripts ['/', 'g'] ['/'] ['g'] htoken (by decide)
  have hmem : ".//greet" ∈ suggest .standard scriptSession ".//g".toList := by
    rw [hsuggest]
    exact List.mem_singleton_self _
  obtain ⟨id, hid, -⟩ := (hoffers.mem_iff _).mp hmem
  exact hnone id hid

end SeedShell.Proofs
