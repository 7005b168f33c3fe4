import SeedShell.Command.Search
import SeedShell.Proofs.Places
import SeedShell.Proofs.ScriptRuns

/-!
# What a recursive search finds

A search below a directory goes down every way to a file in the order in which directories list
their children. It gives one line of output for each line that passes the test and no other. The
path in front of that line is the target as it was typed with the names on the way behind it, and
it leads to the file again.
-/

namespace SeedShell.Proofs

open Command Session

/-! ### Ways down a tree -/

/-- A way from among siblings down to a node: one of them, then a child of it, and so on. -/
inductive Way (t : Tree) : List Nat → List Nat → Nat → Prop
  | last {siblings : List Nat} {node : Nat} : node ∈ siblings → Way t siblings [node] node
  | through {siblings way : List Nat} {dir node : Nat} : dir ∈ siblings →
    Way t (t.node dir).children way node → Way t siblings (dir :: way) node

/-- Depth-first order. Where two ways part, the first one takes the sibling that is listed first. -/
inductive Precedes (t : Tree) : List Nat → List Nat → List Nat → Prop
  | parts {siblings way way' : List Nat} {a b : Nat} : [a, b].Sublist siblings →
    Precedes t siblings (a :: way) (b :: way')
  | along {siblings way way' : List Nat} {dir : Nat} :
    Precedes t (t.node dir).children way way' → Precedes t siblings (dir :: way) (dir :: way')

section Ways

variable {t : Tree} {siblings siblings' way way' : List Nat} {dir node : Nat}

lemma way_append_iff : Way t (siblings ++ siblings') way node ↔
    Way t siblings way node ∨ Way t siblings' way node := by
  constructor
  · intro h
    cases h with
    | last hmem =>
      rcases List.mem_append.mp hmem with hmem | hmem
      · exact .inl (.last hmem)
      · exact .inr (.last hmem)
    | through hmem hbelow =>
      rcases List.mem_append.mp hmem with hmem | hmem
      · exact .inl (.through hmem hbelow)
      · exact .inr (.through hmem hbelow)
  · rintro (h | h)
    · cases h with
      | last hmem => exact .last (List.mem_append_left _ hmem)
      | through hmem hbelow => exact .through (List.mem_append_left _ hmem) hbelow
    · cases h with
      | last hmem => exact .last (List.mem_append_right _ hmem)
      | through hmem hbelow => exact .through (List.mem_append_right _ hmem) hbelow

lemma Way.exists_head (h : Way t siblings way node) :
    ∃ first rest, first ∈ siblings ∧ way = first :: rest := by
  cases h with
  | last hmem => exact ⟨_, _, hmem, rfl⟩
  | through hmem _ => exact ⟨_, _, hmem, rfl⟩

lemma Precedes.mono (h : Precedes t siblings way way') (hsiblings : siblings.Sublist siblings') :
    Precedes t siblings' way way' := by
  cases h with
  | parts hab => exact .parts (hab.trans hsiblings)
  | along h => exact .along h

lemma Way.chain {ids : List Nat} (h : Way t (t.node dir).children way node)
    (hchain : Chain t ids dir) : Chain t (ids ++ way) node := by
  generalize hsiblings : (t.node dir).children = siblings at h
  induction h generalizing ids dir with
  | last hmem =>
    subst hsiblings
    exact .child hchain hmem
  | @through _ way next _ hmem _ ih =>
    subst hsiblings
    have hnext := ih (.child hchain hmem) rfl
    rwa [List.append_assoc, List.singleton_append] at hnext

namespace WellFormed

variable (hw : WellFormed t)
include hw

lemma way_unique (h : Way t (t.node dir).children way node)
    (h' : Way t (t.node dir).children way' node) (hdir : t.isDirectory dir) : way = way' := by
  obtain ⟨ids, hchain⟩ := hw.exists_chain (lt_size_of_isDirectory hdir)
  exact List.append_cancel_left (hw.chain_unique (h.chain hchain) (h'.chain hchain))

/-- The names on a way down are those by which the node's names go on from the directory's. -/
lemma names_of_way (h : Way t (t.node dir).children way node) : node < t.size ∧
    t.names node = t.names dir ++ way.map fun id => (t.node id).name := by
  generalize hsiblings : (t.node dir).children = siblings at h
  induction h generalizing dir with
  | last hmem =>
    subst hsiblings
    exact ⟨hw.lt_of_mem hmem, hw.names_of_mem hmem⟩
  | @through _ way next _ hmem _ ih =>
    subst hsiblings
    obtain ⟨hlt, hnames⟩ := ih rfl
    refine ⟨hlt, ?_⟩
    rw [hnames, hw.names_of_mem hmem, List.append_assoc, List.singleton_append, List.map_cons]

lemma not_precedes_self (h : Precedes t (t.node dir).children way way) : False := by
  induction way generalizing dir with
  | nil => cases h
  | cons first way ih =>
    cases h with
    | parts hpair =>
      have hnodup : (t.node dir).children.Nodup := (hw.names_nodup dir).of_map
      have hsame := hpair.nodup hnodup
      simp at hsame
    | along h => exact ih h

end WellFormed

end Ways

/-! ### Hits -/

/-- A line of a file, with the way down to that file and the number of the line. -/
structure Hit where
  way : List Nat
  file : Nat
  number : Nat
  line : String

namespace Hit

/-- The names on the way to the file, each behind a slash. -/
def path (t : Tree) (base : String) (h : Hit) : String :=
  base ++ "/" ++ Text.join "/" (h.way.map fun id => (t.node id).name)

def text (t : Tree) (base : String) (h : Hit) : String :=
  h.path t base ++ ":" ++ Nat.repr h.number ++ ":" ++ h.line

/-- Files come in depth-first order, and the lines of a file one after the other. -/
def Before (t : Tree) (siblings : List Nat) (a b : Hit) : Prop :=
  Precedes t siblings a.way b.way ∨ a.way = b.way ∧ a.number < b.number

def under (dir : Nat) (h : Hit) : Hit := { h with way := dir :: h.way }

end Hit

/-- A line that passes a test, in a file that is reached from some siblings. -/
structure IsHit (t : Tree) (test : String → Bool) (siblings : List Nat) (h : Hit) : Prop where
  way : Way t siblings h.way h.file
  line : ∃ content, (t.node h.file).content? = some content ∧ 0 < h.number ∧
    content[h.number - 1]? = some h.line
  passes : test h.line = true

def fileHits (test : String → Bool) (file : Nat) (content : List String) : List Hit :=
  ((content.zipIdx 1).filter (test ·.1)).map fun (line, number) => ⟨[file], file, number, line⟩

/-- The hits below some siblings, all of them and in order, and the output that they make. -/
structure Finds (t : Tree) (test : String → Bool) (siblings : List Nat) (base : String)
    (found : List (String × List String)) (hits : List Hit) : Prop where
  lines : found.flatMap (fun file => searchLines test file.1 file.2) = hits.map (Hit.text t base)
  mem_iff : ∀ h, h ∈ hits ↔ IsHit t test siblings h
  ordered : hits.Pairwise (Hit.Before t siblings)

section Finding

variable {t : Tree} {test : String → Bool} {siblings siblings' : List Nat} {base : String}
  {found found' : List (String × List String)} {hits hits' : List Hit} {id : Nat}

lemma Finds.nil : Finds t test [] base [] [] where
  lines := rfl
  mem_iff h := by
    constructor
    · nofun
    · intro hhit
      obtain ⟨_, _, hmem, _⟩ := hhit.way.exists_head
      cases hmem
  ordered := .nil

lemma Finds.append (h : Finds t test siblings base found hits)
    (h' : Finds t test siblings' base found' hits') :
    Finds t test (siblings ++ siblings') base (found ++ found') (hits ++ hits') where
  lines := by rw [List.flatMap_append, List.map_append, h.lines, h'.lines]
  mem_iff hit := by
    rw [List.mem_append, h.mem_iff, h'.mem_iff]
    constructor
    · rintro (⟨hway, hline, htest⟩ | ⟨hway, hline, htest⟩)
      · exact ⟨way_append_iff.mpr (.inl hway), hline, htest⟩
      · exact ⟨way_append_iff.mpr (.inr hway), hline, htest⟩
    · rintro ⟨hway, hline, htest⟩
      rcases way_append_iff.mp hway with hway | hway
      · exact .inl ⟨hway, hline, htest⟩
      · exact .inr ⟨hway, hline, htest⟩
  ordered := by
    have hmono : ∀ {part : List Nat} {a b : Hit}, part.Sublist (siblings ++ siblings') →
        Hit.Before t part a b → Hit.Before t (siblings ++ siblings') a b := by
      intro part a b hpart hbefore
      exact hbefore.imp_left (·.mono hpart)
    refine List.pairwise_append.mpr ⟨?_, ?_, ?_⟩
    · exact h.ordered.imp (hmono (List.sublist_append_left _ _))
    · exact h'.ordered.imp (hmono (List.sublist_append_right _ _))
    · intro a ha b hb
      obtain ⟨first, rest, hfirst, hway⟩ := ((h.mem_iff a).mp ha).way.exists_head
      obtain ⟨first', rest', hfirst', hway'⟩ := ((h'.mem_iff b).mp hb).way.exists_head
      have hpair : ([first] ++ [first']).Sublist (siblings ++ siblings') :=
        (List.singleton_sublist.mpr hfirst).append (List.singleton_sublist.mpr hfirst')
      refine .inl ?_
      rw [hway, hway']
      exact .parts hpair

lemma mem_fileHits {content : List String} {hit : Hit} : hit ∈ fileHits test id content ↔
    hit.way = [id] ∧ hit.file = id ∧
      (0 < hit.number ∧ content[hit.number - 1]? = some hit.line) ∧ test hit.line = true := by
  rcases hit with ⟨way, file, number, line⟩
  simp only [fileHits, List.mem_map, List.mem_filter, Prod.exists,
    List.mk_mem_zipIdx_iff_le_and_getElem?_sub, Hit.mk.injEq]
  constructor
  · rintro ⟨_, _, ⟨hline, htest⟩, rfl, rfl, rfl, rfl⟩
    exact ⟨rfl, rfl, hline, htest⟩
  · rintro ⟨rfl, rfl, hline, htest⟩
    exact ⟨line, number, ⟨hline, htest⟩, rfl, rfl, rfl, rfl⟩

lemma pairwise_fileHits (content : List String) :
    (fileHits test id content).Pairwise (Hit.Before t siblings) := by
  have hnumbers : ((content.zipIdx 1).map Prod.snd).Pairwise (· < ·) := by
    rw [List.zipIdx_map_snd]
    exact List.pairwise_lt_range' 1
  have hpassed := (List.pairwise_map.mp hnumbers).sublist
    (List.filter_sublist (p := fun line => test line.1))
  refine List.pairwise_map.mpr (hpassed.imp fun hlt => ?_)
  exact .inr ⟨rfl, hlt⟩

lemma Finds.of_file {content : List String} (h : (t.node id).entry = .file content) :
    Finds t test [id] base [(base ++ "/" ++ (t.node id).name, content)]
      (fileHits test id content) where
  lines := by
    simp [fileHits, searchLines, matchLine, Hit.text, Hit.path, Text.join, Function.comp_def]
  mem_iff hit := by
    have hcontent : (t.node id).content? = some content := by simp [Node.content?, h]
    have hchildren : (t.node id).children = [] := by simp [Node.children, h]
    rw [mem_fileHits]
    constructor
    · rintro ⟨hway, hfile, hline, htest⟩
      refine ⟨?_, ⟨content, hfile ▸ hcontent, hline⟩, htest⟩
      rw [hway, hfile]
      exact .last List.mem_cons_self
    · rintro ⟨hway, ⟨content', hcontent', hline⟩, htest⟩
      rcases hit with ⟨way, file, number, line⟩
      change Way t [id] way file at hway
      cases hway with
      | last hmem =>
        obtain rfl := List.mem_singleton.mp hmem
        rw [hcontent] at hcontent'
        cases hcontent'
        exact ⟨rfl, rfl, hline, htest⟩
      | through hmem hbelow =>
        -- nothing is below a file
        obtain rfl := List.mem_singleton.mp hmem
        rw [hchildren] at hbelow
        obtain ⟨_, _, hnone, _⟩ := hbelow.exists_head
        cases hnone
  ordered := pairwise_fileHits content

/-- A step down may be counted to the target or to the way. -/
lemma text_under {hit : Hit} (h : hit.way ≠ []) :
    (hit.under id).text t base = hit.text t (base ++ "/" ++ (t.node id).name) := by
  obtain ⟨first, rest, hway⟩ := List.exists_cons_of_ne_nil h
  simp only [Hit.text, Hit.path, Hit.under, hway, List.map_cons, Text.join,
    String.intercalate_cons_cons, String.append_assoc]

lemma Finds.of_directory {children : List Nat} (hentry : (t.node id).entry = .directory children)
    (h : Finds t test children (base ++ "/" ++ (t.node id).name) found hits) :
    Finds t test [id] base found (hits.map (Hit.under id)) where
  lines := by
    rw [h.lines, List.map_map]
    refine List.map_congr_left fun hit hhit => ?_
    obtain ⟨_, _, _, hway⟩ := ((h.mem_iff hit).mp hhit).way.exists_head
    exact (text_under (hway ▸ List.cons_ne_nil _ _)).symm
  mem_iff hit := by
    have hchildren : (t.node id).children = children := by simp [Node.children, hentry]
    rw [List.mem_map]
    constructor
    · rintro ⟨inner, hinner, rfl⟩
      obtain ⟨hway, hline, htest⟩ := (h.mem_iff inner).mp hinner
      rw [← hchildren] at hway
      exact ⟨.through List.mem_cons_self hway, hline, htest⟩
    · rintro ⟨hway, hline, htest⟩
      rcases hit with ⟨way, file, number, line⟩
      change Way t [id] way file at hway
      cases hway with
      | last hmem =>
        obtain rfl := List.mem_singleton.mp hmem
        obtain ⟨content, hcontent, -⟩ := hline
        simp [Node.content?, hentry] at hcontent
      | @through _ rest _ _ hmem hbelow =>
        obtain rfl := List.mem_singleton.mp hmem
        rw [hchildren] at hbelow
        exact ⟨⟨rest, file, number, line⟩, (h.mem_iff _).mpr ⟨hbelow, hline, htest⟩, rfl⟩
  ordered := by
    have hchildren : (t.node id).children = children := by simp [Node.children, hentry]
    refine List.pairwise_map.mpr (h.ordered.imp ?_)
    rintro a b (hprecedes | ⟨hway, hlt⟩)
    · rw [← hchildren] at hprecedes
      exact .inl (.along hprecedes)
    · exact .inr ⟨congrArg (id :: ·) hway, hlt⟩

lemma Descent.exists_finds (h : Descent t siblings base found) (test : String → Bool) :
    ∃ hits, Finds t test siblings base found hits := by
  induction h with
  | nil => exact ⟨[], .nil⟩
  | file hentry _ ih =>
    obtain ⟨hits, hrest⟩ := ih
    exact ⟨_, (Finds.of_file hentry).append hrest⟩
  | directory hentry _ _ ihbelow ih =>
    obtain ⟨inside, hbelow⟩ := ihbelow
    obtain ⟨hits, hrest⟩ := ih
    exact ⟨_, (Finds.of_directory hentry hbelow).append hrest⟩

end Finding

/-! ### Searching below a directory -/

/-- The arguments of a recursive search. The words of the target come apart at its spaces. -/
structure RecursiveSearch where
  flags : List String
  pattern : String
  words : List String
  hyphens : ∀ flag ∈ flags, Text.hasPrefix "-" flag = true
  recursive : 'r' ∈ flags.flatMap (·.toList.drop 1)
  no_hyphen : Text.hasPrefix "-" pattern = false

namespace RecursiveSearch

def letters (a : RecursiveSearch) : List Char := a.flags.flatMap (·.toList.drop 1)

def target (a : RecursiveSearch) : String := Text.join " " a.words

def args (a : RecursiveSearch) : List String := a.flags ++ a.pattern :: a.words

lemma searchFlags_args (a : RecursiveSearch) :
    searchFlags a.args = (a.letters, a.pattern :: a.words) := by
  have hstop : (a.pattern :: a.words).takeWhile (Text.hasPrefix "-") = [] :=
    List.takeWhile_cons_of_neg (by simp [a.no_hyphen])
  have hrest : (a.pattern :: a.words).dropWhile (Text.hasPrefix "-") = a.pattern :: a.words :=
    List.dropWhile_cons_of_neg (by simp [a.no_hyphen])
  rw [searchFlags, args, List.takeWhile_append_of_pos a.hyphens,
    List.dropWhile_append_of_pos a.hyphens, hstop, hrest, List.append_nil, letters]

end RecursiveSearch

/-- What a recursive search answers: every matching line below a directory once and no other line,
in depth-first order, with a path that leads to its file. -/
structure Answers {σ : Type} (s : Session σ) (test : String → Bool) (target : String) (dir : Nat)
    (hits : List Hit) : Prop where
  mem_iff : ∀ hit, hit ∈ hits ↔ IsHit s.tree test (s.tree.node dir).children hit
  once : (hits.map fun hit => (hit.file, hit.number)).Nodup
  ordered : hits.Pairwise (Hit.Before s.tree (s.tree.node dir).children)
  leads_back : ∀ hit ∈ hits, s.resolve? (hit.path s.tree target) = some hit.file

section Searching

variable {σ : Type} {s : Session σ} {target : String} {dir : Nat}

lemma WellFormed.resolve?_way {way : List Nat} {node : Nat} (hw : WellFormed s.tree)
    (hnames : PathNames s.tree) (hcwd : isPlace s.tree s.cwd = true) (htarget : target ≠ "")
    (hdir : s.resolve? target = some dir) (hdirectory : s.tree.isDirectory dir)
    (hway : Way s.tree (s.tree.node dir).children way node) :
    s.resolve? (target ++ "/" ++ Text.join "/" (way.map fun id => (s.tree.node id).name)) =
      some node := by
  obtain ⟨place, hplace, rfl⟩ := Option.map_eq_some_iff.mp hdir
  obtain ⟨cwd, -, hcwd⟩ := hw.isPlace_iff.mp hcwd
  rw [← hcwd] at hplace
  have hsegments : s.tree.segments place.node = place.segments := hw.segments_of_resolve hplace
  obtain ⟨hlt, hbelow⟩ := hw.names_of_way hway
  have hpathNames := hw.isPathName_of_mem_names hnames hlt
  have hcomponents : components (Text.join "/" (way.map fun id => (s.tree.node id).name)) =
      way.map fun id => (s.tree.node id).name := by
    apply components_join
    intro name hname
    apply hpathNames
    rw [hbelow]
    exact List.mem_append_right _ hname
  have hempty : target.toList ≠ [] := by simpa using htarget
  have hchars : target ++ "/" ++ Text.join "/" (way.map fun id => (s.tree.node id).name) =
      String.ofList (target.toList ++
        '/' :: (Text.join "/" (way.map fun id => (s.tree.node id).name)).toList) := by
    rw [← String.toList_inj]
    simp
  have hfollow := hw.follow_names_below hdirectory hlt hpathNames hbelow
  rw [hsegments] at hfollow
  rw [resolve?, ← hcwd, hchars, hw.resolve_append_slash hempty, String.ofList_toList,
    String.ofList_toList, hplace, Option.bind_some, onward, if_pos hdirectory, hcomponents,
    hfollow]
  rfl

lemma search_args {a : RecursiveSearch} {p : Pattern} {found : List String}
    (htarget : a.target ≠ "") (hcompile : Pattern.compile (a.letters.contains 'i') a.pattern = .ok p)
    (hfound : searchAt s p.isMatch true a.target = .ok found) :
    Command.search s a.args = (.ok (if found.isEmpty then .none else .lines found), s) := by
  have hrecursive : a.letters.contains 'r' = true := List.contains_iff_mem.mpr a.recursive
  obtain ⟨first, more, hwords⟩ : ∃ first more, a.words = first :: more := by
    refine List.exists_cons_of_ne_nil fun hnil => htarget ?_
    rw [RecursiveSearch.target, hnil]
    rfl
  rw [RecursiveSearch.target, hwords] at hfound
  rw [Command.search, query, a.searchFlags_args, hwords]
  simp only [hcompile, hrecursive, hfound]
  cases found <;> rfl

variable [KeyValueStore σ]

lemma exists_answers (hs : Reachable s) (hnames : PathNames s.tree) (htarget : target ≠ "")
    (hdir : s.resolve? target = some dir) (hdirectory : s.tree.isDirectory dir)
    (test : String → Bool) : ∃ hits, Answers s test target dir hits ∧
      searchAt s test true target = .ok (hits.map (Hit.text s.tree target)) := by
  have hw := hs.wellFormed
  obtain ⟨hits, hfinds⟩ := (hw.descent dir target).exists_finds test
  refine ⟨hits, ⟨hfinds.mem_iff, ?_, hfinds.ordered, ?_⟩, ?_⟩
  · refine List.pairwise_map.mpr (hfinds.ordered.imp_of_mem fun {a b} ha hb hbefore hsame => ?_)
    obtain ⟨hfile, hnumber⟩ := Prod.mk.inj hsame
    have hway := ((hfinds.mem_iff a).mp ha).way
    have hway' := ((hfinds.mem_iff b).mp hb).way
    rw [← hfile] at hway'
    have hways : a.way = b.way := hw.way_unique hway hway' hdirectory
    rcases hbefore with hprecedes | ⟨-, hlt⟩
    · rw [hways] at hprecedes
      exact hw.not_precedes_self hprecedes
    · omega
  · intro hit hhit
    exact hw.resolve?_way hnames hs.grown_and_isPlace.2 htarget hdir hdirectory
      ((hfinds.mem_iff hit).mp hhit).way
  · have hcontent : (s.tree.node dir).content? = none := by
      simp only [Tree.isDirectory, Node.isDirectory] at hdirectory
      unfold Node.content?
      split at hdirectory
      · rfl
      · cases hdirectory
    rw [searchAt, hdir]
    simp only [hcontent, if_true, hfinds.lines]

/-- A search with `-r` prints each matching line below the target exactly once and prints nothing
else. The test stands for any pattern. -/
theorem search_below_answers (hs : Reachable s) (hnames : PathNames s.tree) (htarget : target ≠ "")
    (hdir : s.resolve? target = some dir) (hdirectory : s.tree.isDirectory dir = true)
    (test : String → Bool) : ∃ hits, Answers s test target dir hits ∧
      searchAt s test true target = .ok (hits.map (Hit.text s.tree target)) ∧
      ∀ (a : RecursiveSearch) (p : Pattern), a.target = target →
        Pattern.compile (a.letters.contains 'i') a.pattern = .ok p → p.isMatch = test →
        Command.search s a.args =
          (.ok (if hits.isEmpty then .none else .lines (hits.map (Hit.text s.tree target))), s) := by
  obtain ⟨hits, hanswers, hfound⟩ := exists_answers hs hnames htarget hdir hdirectory test
  refine ⟨hits, hanswers, hfound, ?_⟩
  intro a p hatarget hcompile htest
  subst hatarget htest
  rw [search_args htarget hcompile hfound, List.isEmpty_map]

end Searching

def earshSearch : RecursiveSearch where
  flags := ["-r"]
  pattern := "earsh"
  words := ["~"]
  hyphens := by decide
  recursive := by decide
  no_hyphen := by decide

/-- Two files below the home hold the word, and the deeper one is listed with the name of its
directory. -/
theorem search_below_home :
    (Reachable scriptSession ∧ PathNames scriptSession.tree ∧ "~" ≠ "" ∧
      scriptSession.resolve? "~" = some 2 ∧ scriptSession.tree.isDirectory 2 = true) ∧
    Command.search scriptSession ["-r", "earsh", "~"] =
      (.ok (.lines ["~/run:1:#!/bin/earsh", "~/docs/tool box:1:#!/bin/earsh"]), scriptSession) := by
  have hnames : PathNames scriptSession.tree := by decide +kernel
  have hdir : scriptSession.resolve? "~" = some 2 := by decide +kernel
  have hdirectory : scriptSession.tree.isDirectory 2 = true := rfl
  refine ⟨⟨reachable_scriptSession, hnames, by decide, hdir, hdirectory⟩, ?_⟩
  have hlines : (Pattern.compile false "earsh").toOption.map (fun p =>
      (searchAt scriptSession p.isMatch true "~").toOption) =
        some (some ["~/run:1:#!/bin/earsh", "~/docs/tool box:1:#!/bin/earsh"]) := by decide +kernel
  cases hcompile : Pattern.compile false "earsh" with
  | error e =>
    rw [hcompile] at hlines
    cases hlines
  | ok p =>
    obtain ⟨hits, -, hfound, hsearch⟩ := search_below_answers reachable_scriptSession hnames
      (by decide) hdir hdirectory p.isMatch
    rw [hcompile] at hlines
    have hlisted : (searchAt scriptSession p.isMatch true "~").toOption =
        some ["~/run:1:#!/bin/earsh", "~/docs/tool box:1:#!/bin/earsh"] := Option.some.inj hlines
    rw [hfound] at hlisted
    have htexts := Option.some.inj hlisted
    have hmany : hits.isEmpty = false := by
      rw [← List.isEmpty_map, htexts]
      rfl
    have hanswer := hsearch earshSearch p rfl hcompile rfl
    rw [hmany, htexts] at hanswer
    exact hanswer

end SeedShell.Proofs
