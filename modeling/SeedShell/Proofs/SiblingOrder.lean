import Mathlib.Data.List.Sort
import SeedShell.Completion
import SeedShell.Proofs.Reload
import SeedShell.Proofs.Texts
import SeedShell.Proofs.Twins

/-!
# The order of siblings is not seen

Listings and suggestions are sorted, and names are unique in a directory. So in two sessions at
the same place, over trees that differ in the order of children, a listing that is not by date
shows the same lines and every text has the same candidates.
-/

namespace SeedShell.Proofs

open Session Command

/-! ### Sorting -/

/-- Sorting forgets the order before if the order of the list is antisymmetric. -/
lemma mergeSort_eq_of_perm {α : Type} {le : α → α → Bool} {xs ys : List α}
    (htrans : ∀ a b c, le a b = true → le b c = true → le a c = true)
    (htotal : ∀ a b, (le a b || le b a) = true)
    (hantisymm : ∀ a ∈ xs, ∀ b ∈ xs, le a b = true → le b a = true → a = b)
    (h : xs.Perm ys) : xs.mergeSort le = ys.mergeSort le := by
  have hperm : (xs.mergeSort le).Perm (ys.mergeSort le) :=
    (List.mergeSort_perm xs le).trans (h.trans (List.mergeSort_perm ys le).symm)
  refine List.Perm.eq_of_pairwise ?_ (List.pairwise_mergeSort htrans htotal xs)
    (List.pairwise_mergeSort htrans htotal ys) hperm
  intro a b ha hb hab hba
  have hb' : b ∈ xs := h.mem_iff.mpr (List.mem_mergeSort.mp hb)
  exact hantisymm a (List.mem_mergeSort.mp ha) b hb' hab hba

lemma sort_eq_of_perm {xs ys : List String} (h : xs.Perm ys) : Text.sort xs = Text.sort ys := by
  have hperm : (Text.sort xs).Perm (Text.sort ys) :=
    (List.mergeSort_perm xs _).trans (h.trans (List.mergeSort_perm ys _).symm)
  refine List.Perm.eq_of_pairwise ?_ (pairwise_sort xs) (pairwise_sort ys) hperm
  intro a b _ _ hab hba
  exact String.le_antisymm hab hba

lemma kindThenName_eq_true {a b : Node} : kindThenName a b = true ↔
    (a.isDirectory = b.isDirectory ∧ a.name ≤ b.name) ∨
      (a.isDirectory = true ∧ b.isDirectory = false) := by
  unfold kindThenName
  cases a.isDirectory <;> cases b.isDirectory <;> simp

lemma kindThenName_trans (a b c : Node) (hab : kindThenName a b = true)
    (hbc : kindThenName b c = true) : kindThenName a c = true := by
  rw [kindThenName_eq_true] at hab hbc ⊢
  rcases hab with ⟨hkind, hle⟩ | ⟨ha, hb⟩ <;> rcases hbc with ⟨hkind', hle'⟩ | ⟨hb', hc⟩
  · exact .inl ⟨hkind.trans hkind', String.le_trans hle hle'⟩
  · exact .inr ⟨hkind.trans hb', hc⟩
  · exact .inr ⟨ha, hkind'.symm.trans hb⟩
  · exact .inr ⟨ha, hc⟩

lemma kindThenName_total (a b : Node) : (kindThenName a b || kindThenName b a) = true := by
  rw [Bool.or_eq_true, kindThenName_eq_true, kindThenName_eq_true]
  have hle := String.le_total a.name b.name
  cases a.isDirectory <;> cases b.isDirectory <;> simp [hle]

lemma mergeSort_kindThenName_eq_of_perm {xs ys : List Node} (hnames : (xs.map Node.name).Nodup)
    (h : xs.Perm ys) : xs.mergeSort kindThenName = ys.mergeSort kindThenName := by
  refine mergeSort_eq_of_perm kindThenName_trans kindThenName_total ?_ h
  intro a ha b hb hab hba
  rw [kindThenName_eq_true] at hab hba
  have hname : a.name = b.name := by
    rcases hab with ⟨hkind, hle⟩ | ⟨ha, hb⟩ <;> rcases hba with ⟨hkind', hle'⟩ | ⟨hb', hc⟩
    · exact String.le_antisymm hle hle'
    all_goals simp_all
  exact List.inj_on_of_nodup_map hnames ha hb hname

/-! ### Nodes without their links -/

lemma isHidden_unlinked (n : Node) : isHidden (unlinked n) = isHidden n := rfl

lemma size_unlinked (n : Node) : (unlinked n).size = n.size := by
  rcases n with ⟨_, _, _, _ | _⟩ <;> rfl

lemma displayName_unlinked (n : Node) : (unlinked n).displayName = n.displayName := by
  rw [Node.displayName, Node.displayName, unlinked_isDirectory, unlinked_name]

lemma longRow_unlinked (n : Node) : longRow (unlinked n) = longRow n := by
  rw [longRow, longRow, size_unlinked, displayName_unlinked, unlinked_attributes]

lemma sizeRow_unlinked (n : Node) : sizeRow (unlinked n) = sizeRow n := by
  rw [sizeRow, sizeRow, size_unlinked, unlinked_name]

lemma kindThenName_unlinked (a b : Node) :
    kindThenName (unlinked a) (unlinked b) = kindThenName a b := by
  rw [kindThenName, kindThenName, unlinked_isDirectory, unlinked_isDirectory, unlinked_name,
    unlinked_name]

lemma isFile_unlinked (n : Node) : (unlinked n).isFile = n.isFile := by
  rw [Node.isFile, Node.isFile, unlinked_isDirectory]

lemma isExecutable_unlinked (n : Node) : (unlinked n).isExecutable = n.isExecutable := rfl

lemma admits_unlinked (wanted : Completion.Wanted) (n : Node) :
    wanted.admits (unlinked n) = wanted.admits n := by
  cases wanted with
  | directories => exact unlinked_isDirectory n
  | files => exact isFile_unlinked n
  | entries => rfl

lemma listingLines_unlinked (flags : ListingFlags) (nodes : List Node) :
    listingLines flags (nodes.map unlinked) = listingLines flags nodes := by
  have htotal : totalSize (nodes.map unlinked) = totalSize nodes := by
    simp only [totalSize, List.foldr_map, size_unlinked]
  unfold listingLines
  rw [htotal, List.map_map, List.map_map]
  have hlong : longRow ∘ unlinked = longRow := funext longRow_unlinked
  have hsize : sizeRow ∘ unlinked = sizeRow := funext sizeRow_unlinked
  have hdisplay : Node.displayName ∘ unlinked = Node.displayName := funext displayName_unlinked
  cases flags.long <;> simp [hlong, hsize, hdisplay]

/-! ### Two sessions at one place -/

variable {σ : Type}

/-- The sessions stand at the same place as the same user, in trees that are alike. -/
structure SameView (s s' : Session σ) : Prop where
  trees : Alike s.tree s'.tree
  cwd : s'.cwd = s.cwd
  user : s'.user = s.user

namespace SameView

variable {s s' : Session σ} (h : SameView s s') {a b : Nat}
include h

lemma shownPath_eq : s'.shownPath = s.shownPath := shownPath_congr h.cwd h.user

lemma twins_cwdNode : Twins s.tree s'.tree s.cwdNode s'.cwdNode := by
  rw [Session.cwdNode, Session.cwdNode, h.cwd]
  exact rel_getD (h.trees.rel_directoryAt? s.cwd) h.trees.twins_root

lemma rel_resolve? (path : String) :
    Option.Rel (Twins s.tree s'.tree) (s.resolve? path) (s'.resolve? path) := by
  rw [Session.resolve?, Session.resolve?, h.cwd, h.user]
  exact rel_map (h.trees.rel_resolve s.cwd s.user path) fun _ _ hplace => hplace.twins

end SameView

/-! ### Children -/

section Children

variable {t t' : Tree} {a b : Nat}

lemma WellFormed.child_names_nodup (hw : WellFormed t) (dir : Nat) :
    (((t.node dir).children.map t.node).map Node.name).Nodup := by
  rw [List.map_map]
  exact hw.names_nodup dir

lemma map_name_unlinked (nodes : List Node) :
    (nodes.map unlinked).map Node.name = nodes.map Node.name := by
  rw [List.map_map]
  rfl

/-- Twins have the same children in some order. -/
lemma Alike.children_perm (h : Alike t t') (htwins : Twins t t' a b) :
    (((t.node a).children.map t.node).map unlinked).Perm
      (((t'.node b).children.map t'.node).map unlinked) := by
  have hnodup : ∀ {t : Tree} (dir : Nat), WellFormed t →
      (((t.node dir).children.map t.node).map unlinked).Nodup := by
    intro t dir hw
    have hnames := hw.child_names_nodup dir
    rw [← map_name_unlinked] at hnames
    exact hnames.of_map
  have hsub : ∀ {t t' : Tree} {a b : Nat}, Alike t t' → Twins t t' a b →
      ∀ n ∈ ((t.node a).children.map t.node).map unlinked,
        n ∈ ((t'.node b).children.map t'.node).map unlinked := by
    intro t t' a b h htwins n hn
    simp only [List.map_map, List.mem_map, Function.comp_apply] at hn ⊢
    obtain ⟨child, hchild, rfl⟩ := hn
    obtain ⟨child', hchild', hboth⟩ := h.exists_child htwins hchild
    exact ⟨child', hchild', hboth.unlinked.symm⟩
  rw [List.perm_ext_iff_of_nodup (hnodup a h.left) (hnodup b h.right)]
  exact fun n => ⟨hsub h htwins n, hsub h.symm htwins.symm n⟩

/-- What is chosen and shown of nodes does not tell their links. -/
lemma map_filter_unlinked {β : Type} {p : Node → Bool} {f : Node → β}
    (hp : ∀ n, p (unlinked n) = p n) (hf : ∀ n, f (unlinked n) = f n) (nodes : List Node) :
    ((nodes.map unlinked).filter p).map f = (nodes.filter p).map f := by
  have hfilter : p ∘ unlinked = p := funext hp
  have hmap : f ∘ unlinked = f := funext hf
  rw [List.filter_map, List.map_map, hfilter, hmap]

lemma map_filter_perm {β : Type} {p : Node → Bool} {f : Node → β}
    (hp : ∀ n, p (unlinked n) = p n) (hf : ∀ n, f (unlinked n) = f n) {xs ys : List Node}
    (h : (xs.map unlinked).Perm (ys.map unlinked)) :
    ((xs.filter p).map f).Perm ((ys.filter p).map f) := by
  rw [← map_filter_unlinked hp hf, ← map_filter_unlinked hp hf ys]
  exact (h.filter p).map f

end Children

/-! ### Listings -/

/-- The nodes to list for a target, not sorted. -/
def shown (t : Tree) (target : Nat) (all : Bool) : List Node :=
  let node := t.node target
  let nodes := if node.isDirectory then node.children.map t.node else [node]
  if all then nodes else nodes.filter (!isHidden ·)

section Shown

variable {t t' : Tree} {a b : Nat}

lemma shown_of_isDirectory (hdir : t.isDirectory a) (all : Bool) : shown t a all =
    ((t.node a).children.map t.node).filter fun n => all || !isHidden n := by
  have hnode : (t.node a).isDirectory = true := hdir
  cases all <;> simp [shown, hnode]

lemma shown_of_file (hfile : t.isDirectory a = false) (all : Bool) : shown t a all =
    if all || !isHidden (t.node a) then [t.node a] else [] := by
  have hnode : (t.node a).isDirectory = false := hfile
  cases all <;> cases hhidden : isHidden (t.node a) <;> simp [shown, hnode, hhidden]

end Shown

lemma listed_eq_mergeSort (s : Session σ) (target : Nat) (all : Bool) :
    listed s target all = (shown s.tree target all).mergeSort
      (if inBlogOrder s target then newestFirst else kindThenName) := rfl

/-- The nodes that `ls` lists. -/
def listTargets (s : Session σ) (args : List String) : List Nat :=
  match args.filter (!Text.hasPrefix "-" ·) with
  | [] => [s.cwdNode]
  | paths => paths.filterMap s.resolve?

/-- No directory is listed in the order of dates. -/
def ListsByName (s : Session σ) (args : List String) : Prop :=
  Text.hasSuffix "/blog" s.shownPath = false ∧
    ∀ target ∈ listTargets s args, s.tree.isDirectory target → (s.tree.node target).name ≠ "blog"

instance (s : Session σ) (args : List String) : Decidable (ListsByName s args) :=
  inferInstanceAs (Decidable (_ ∧ _))

namespace SameView

variable {s s' : Session σ} (h : SameView s s') {a b : Nat}
include h

lemma listed_eq (htwins : Twins s.tree s'.tree a b)
    (hblog : Text.hasSuffix "/blog" s.shownPath = false)
    (hname : s.tree.isDirectory a → (s.tree.node a).name ≠ "blog") (all : Bool) :
    (listed s' b all).map unlinked = (listed s a all).map unlinked := by
  rw [listed_eq_mergeSort, listed_eq_mergeSort]
  cases hdir : s.tree.isDirectory a with
  | false =>
    have hdir' := htwins.isDirectory.symm.trans hdir
    have hhidden : isHidden (s'.tree.node b) = isHidden (s.tree.node a) := by
      rw [← isHidden_unlinked, ← htwins.unlinked, isHidden_unlinked]
    rw [shown_of_file hdir, shown_of_file hdir', hhidden]
    split
    · simp [htwins.unlinked]
    · simp
  | true =>
    have hdir' := htwins.isDirectory.symm.trans hdir
    have horder : inBlogOrder s a = false := by
      simp [inBlogOrder, hblog, hname hdir]
    have horder' : inBlogOrder s' b = false := by
      rw [inBlogOrder, h.shownPath_eq, ← htwins.name]
      exact horder
    have hsort : ∀ nodes : List Node, (nodes.mergeSort kindThenName).map unlinked =
        (nodes.map unlinked).mergeSort kindThenName := fun nodes =>
      List.map_mergeSort fun a _ b _ => (kindThenName_unlinked a b).symm
    have hperm := h.trees.symm.children_perm htwins.symm
    rw [horder, horder', shown_of_isDirectory hdir, shown_of_isDirectory hdir']
    simp only [Bool.false_eq_true, if_false, hsort]
    apply mergeSort_kindThenName_eq_of_perm
    · rw [map_name_unlinked]
      exact (h.trees.right.child_names_nodup b).sublist (List.filter_sublist.map _)
    · exact map_filter_perm (fun n => by rw [isHidden_unlinked]) unlinked_unlinked hperm

lemma listing_eq (htwins : Twins s.tree s'.tree a b)
    (hblog : Text.hasSuffix "/blog" s.shownPath = false)
    (hname : s.tree.isDirectory a → (s.tree.node a).name ≠ "blog") (flags : ListingFlags) :
    listing s' flags b = listing s flags a := by
  rw [listing, listing, ← listingLines_unlinked, ← listingLines_unlinked flags (listed s a _),
    h.listed_eq htwins hblog hname]

lemma listingBlock_eq {path : String} (hblog : Text.hasSuffix "/blog" s.shownPath = false)
    (hname : ∀ target, s.resolve? path = some target → s.tree.isDirectory target →
      (s.tree.node target).name ≠ "blog") (flags : ListingFlags) (several : Bool) :
    listingBlock s' flags several path = listingBlock s flags several path := by
  have hrel := h.rel_resolve? path
  unfold listingBlock
  revert hrel hname
  generalize s.resolve? path = target
  generalize s'.resolve? path = target'
  intro hname hrel
  cases hrel with
  | none => rfl
  | some htwins =>
    dsimp only
    rw [h.listing_eq htwins hblog (hname _ rfl)]

/-- A listing that is not by date shows the same lines. -/
lemma list_eq {args : List String} (hargs : ListsByName s args) :
    (Command.list s' args).1 = (Command.list s args).1 := by
  obtain ⟨hblog, hnames⟩ := hargs
  unfold Command.list query
  dsimp only
  cases hpaths : args.filter (!Text.hasPrefix "-" ·) with
  | nil =>
    have hname := hnames s.cwdNode (by simp [listTargets, hpaths])
    dsimp only
    rw [h.listing_eq h.twins_cwdNode hblog hname]
  | cons path paths =>
    have hblocks : ∀ flags several, (path :: paths).map (listingBlock s' flags several) =
        (path :: paths).map (listingBlock s flags several) := by
      intro flags several
      refine List.map_congr_left fun p hp => h.listingBlock_eq hblog ?_ flags several
      intro target htarget
      apply hnames
      rw [listTargets, hpaths]
      exact List.mem_filterMap.mpr ⟨p, hp, htarget⟩
    dsimp only
    rw [hblocks]

/-! ### Suggestions -/

open Completion

lemma rel_directoryOf? (directory : List Char) : Option.Rel (Twins s.tree s'.tree)
    (directoryOf? s directory) (directoryOf? s' directory) := by
  unfold directoryOf?
  split
  · exact .some h.twins_cwdNode
  · exact rel_filter (h.rel_resolve? _) fun _ _ htwins => htwins.isDirectory

lemma matching_perm (path : List Char) : (matching s' path).1 = (matching s path).1 ∧
    ((matching s' path).2.map unlinked).Perm ((matching s path).2.map unlinked) := by
  refine ⟨rfl, ?_⟩
  unfold matching
  dsimp only
  have hrel := h.rel_directoryOf? (Text.cutAfterLast '/' path).1
  revert hrel
  generalize directoryOf? s (Text.cutAfterLast '/' path).1 = dir
  generalize directoryOf? s' (Text.cutAfterLast '/' path).1 = dir'
  intro hrel
  cases hrel with
  | none => exact .refl _
  | some htwins =>
    have hperm := h.trees.symm.children_perm htwins.symm
    exact map_filter_perm (fun n => by rw [unlinked_name]) unlinked_unlinked hperm

lemma scriptSuggestions_eq (path : List Char) :
    scriptSuggestions s' path = scriptSuggestions s path := by
  obtain ⟨hdirectory, hperm⟩ := h.matching_perm path
  unfold scriptSuggestions
  dsimp only
  rw [hdirectory]
  apply sort_eq_of_perm
  apply map_filter_perm _ _ hperm
  · intro n
    rw [isFile_unlinked, isExecutable_unlinked]
  · intro n
    rw [unlinked_name]

lemma pathSuggestions_eq (path : List Char) (wanted : Wanted) :
    pathSuggestions s' path wanted = pathSuggestions s path wanted := by
  obtain ⟨hdirectory, hperm⟩ := h.matching_perm path
  unfold pathSuggestions
  dsimp only
  rw [hdirectory]
  apply sort_eq_of_perm
  apply map_filter_perm _ _ hperm
  · exact admits_unlinked wanted
  · intro n
    rw [unlinked_name, unlinked_isDirectory]

lemma suggest_eq (r : Registry σ) (before : List Char) :
    suggest r s' before = suggest r s before := by
  unfold suggest
  dsimp only
  split
  · exact h.scriptSuggestions_eq _
  · split
    · rfl
    · exact h.pathSuggestions_eq _ _

end SameView

/-! ### Seeds in another order -/

/-- Over seeds that differ in the order of children, with the same posts, two sessions at one place
resolve every path to twins, list the same lines unless by date, and suggest the same for every
text. -/
theorem sibling_order_is_unseen {seed seed' : Seed} {base base' : Tree}
    (hseeds : Reordered seed seed') (hbase : Tree.ofSeed seed = .ok base)
    (hbase' : Tree.ofSeed seed' = .ok base') (owner : String) (posts : List Post)
    {s s' : Session σ} (htree : s.tree = (base.addPosts owner posts).1)
    (htree' : s'.tree = (base'.addPosts owner posts).1) (hcwd : s'.cwd = s.cwd)
    (huser : s'.user = s.user) :
    (∀ path, Option.Rel (SamePlace s.tree s'.tree) (s.tree.resolve s.cwd s.user path)
        (s'.tree.resolve s'.cwd s'.user path)) ∧
      (∀ args, ListsByName s args → (Command.list s' args).1 = (Command.list s args).1) ∧
      ∀ (r : Registry σ) (before : List Char),
        Completion.suggest r s' before = Completion.suggest r s before := by
  have htrees : Alike s.tree s'.tree := by
    rw [htree, htree']
    exact (Alike.of_reordered hseeds hbase hbase').addPosts owner posts
  have hview : SameView s s' := ⟨htrees, hcwd, huser⟩
  refine ⟨fun path => ?_, fun args => hview.list_eq, hview.suggest_eq⟩
  rw [hcwd, huser]
  exact htrees.rel_resolve s.cwd s.user path

/-- `sampleSeed` with the other order in the root and in the home. -/
def turnedSeed : Seed :=
  .directory "/" ⟨"drwxr-xr-x", "", "", ""⟩
    [.directory "etc" ⟨"drwxr-xr-x", "", "", ""⟩ [],
      .directory "home" ⟨"drwxr-xr-x", "", "", ""⟩
        [.directory "ada" ⟨"drwxr-xr-x", "", "", ""⟩
          [.file "a b" ⟨"-rw-r--r--", "", "", ""⟩ ["text"],
            .directory "blog" ⟨"drwxr-xr-x", "", "", ""⟩ []]]]

def turnedTree : Tree :=
  ⟨#[⟨"/", ⟨"drwxr-xr-x", "", "", ""⟩, none, .directory [1, 2]⟩,
    ⟨"etc", ⟨"drwxr-xr-x", "", "", ""⟩, some 0, .directory []⟩,
    ⟨"home", ⟨"drwxr-xr-x", "", "", ""⟩, some 0, .directory [3]⟩,
    ⟨"ada", ⟨"drwxr-xr-x", "", "", ""⟩, some 2, .directory [4, 5]⟩,
    ⟨"a b", ⟨"-rw-r--r--", "", "", ""⟩, some 3, .file ["text"]⟩,
    ⟨"blog", ⟨"drwxr-xr-x", "", "", ""⟩, some 3, .directory []⟩]⟩

lemma reordered_turnedSeed : Reordered sampleSeed turnedSeed := by
  have hroot : Reordered sampleSeed (.directory "/" ⟨"drwxr-xr-x", "", "", ""⟩
      [.directory "etc" ⟨"drwxr-xr-x", "", "", ""⟩ [],
        .directory "home" ⟨"drwxr-xr-x", "", "", ""⟩
          [.directory "ada" ⟨"drwxr-xr-x", "", "", ""⟩
            [.directory "blog" ⟨"drwxr-xr-x", "", "", ""⟩ [],
              .file "a b" ⟨"-rw-r--r--", "", "", ""⟩ ["text"]]]]) := .children (.swap ..)
  have hhome := @Reordered.children "ada" ⟨"drwxr-xr-x", "", "", ""⟩ _ _
    (.swap (.file "a b" ⟨"-rw-r--r--", "", "", ""⟩ ["text"])
      (.directory "blog" ⟨"drwxr-xr-x", "", "", ""⟩ []) [])
  exact hroot.trans (@Reordered.inside _ _ [_] [] _ _ (@Reordered.inside _ _ [] [] _ _ hhome))

lemma ofSeed_turnedSeed : Tree.ofSeed turnedSeed = .ok turnedTree := rfl

/-- The home is stored in two orders and seen in one. -/
theorem sibling_order_is_unseen_home :
    let s : Session Memory := started { defaultUser := "ada" } sampleTree [samplePost] .empty id
    let s' : Session Memory := started { defaultUser := "ada" } turnedTree [samplePost] .empty id
    ((s.tree.node 2).children.map fun id => (s.tree.node id).name) = ["blog", "a b"] ∧
      ((s'.tree.node 3).children.map fun id => (s'.tree.node id).name) = ["a b", "blog"] ∧
      Reordered sampleSeed turnedSeed ∧ s'.cwd = s.cwd ∧ s'.user = s.user ∧
      (∃ place, s'.tree.resolve s'.cwd s'.user "~/blog/first.md" = some place ∧
        place.segments = ["/", "home", "ada", "blog", "first.md"]) ∧
      ListsByName s ["-l", "~"] ∧ (Command.list s' ["-l", "~"]).1 = (Command.list s ["-l", "~"]).1 ∧
      Completion.suggest .standard s' "ls ~/".toList =
        Completion.suggest .standard s "ls ~/".toList := by
  intro s s'
  have hcwd : s'.cwd = s.cwd := by decide +kernel
  have hargs : ListsByName s ["-l", "~"] := by decide +kernel
  obtain ⟨hresolve, hlist, hsuggest⟩ := sibling_order_is_unseen reordered_turnedSeed
    ofSeed_sampleSeed ofSeed_turnedSeed "ada" [samplePost]
    (rfl : s.tree = (sampleTree.addPosts "ada" [samplePost]).1)
    (rfl : s'.tree = (turnedTree.addPosts "ada" [samplePost]).1) hcwd rfl
  have hpost : s.tree.resolve s.cwd s.user "~/blog/first.md" =
      some ⟨6, ["/", "home", "ada", "blog", "first.md"]⟩ := by decide +kernel
  have hpost' := hresolve "~/blog/first.md"
  rw [hpost] at hpost'
  refine ⟨by decide +kernel, by decide +kernel, reordered_turnedSeed, hcwd, rfl, ?_, hargs,
    hlist _ hargs, hsuggest _ _⟩
  generalize s'.tree.resolve s'.cwd s'.user "~/blog/first.md" = place at hpost'
  cases hpost' with
  | some hplace => exact ⟨_, rfl, hplace.segments.symm⟩

end SeedShell.Proofs
