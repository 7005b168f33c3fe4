import Mathlib.Data.List.Nodup
import Mathlib.Logic.ExistsUnique
import Mathlib.Tactic.Lemma
import SeedShell.Tree.Basic

/-!
# Well-formed trees

Parent links and child lists are two records of one tree. This file states how they agree,
shows that a node is added without loss of that agreement, and follows it through the growth of
a seed and the later posts. In a well-formed tree the walk to the root and the search below a
directory come to an end.
-/

namespace SeedShell.Proofs

/-- Links and child lists agree, parents come first, and siblings differ in their names. -/
structure WellFormed (t : Tree) : Prop where
  root_lt : Tree.root < t.size
  root_name : (t.node Tree.root).name = "/"
  root_parent : (t.node Tree.root).parent = none
  root_directory : t.isDirectory Tree.root
  linked : ∀ id, Tree.root < id → id < t.size → ∃ parent < id,
    (t.node id).parent = some parent ∧ t.isDirectory parent ∧
      (t.node parent).children.count id = 1
  listed : ∀ dir, ∀ child ∈ (t.node dir).children,
    child < t.size ∧ (t.node child).parent = some dir
  names_nodup : ∀ dir, ((t.node dir).children.map fun child => (t.node child).name).Nodup

/-- The trees that a session can have: grown from a seed, with posts added any number of times. -/
inductive Grown : Tree → Prop
  | ofSeed {seed : Seed} {t : Tree} : Tree.ofSeed seed = .ok t → Grown t
  | addPosts {t : Tree} (user : String) (posts : List Post) :
    Grown t → Grown (t.addPosts user posts).1

/-- A home with a blog in it, and a directory beside them. -/
def sampleSeed : Seed :=
  .directory "/" ⟨"drwxr-xr-x", "", "", ""⟩
    [.directory "home" ⟨"drwxr-xr-x", "", "", ""⟩
      [.directory "ada" ⟨"drwxr-xr-x", "", "", ""⟩
        [.directory "blog" ⟨"drwxr-xr-x", "", "", ""⟩ [],
          .file "a b" ⟨"-rw-r--r--", "", "", ""⟩ ["text"]]],
      .directory "etc" ⟨"drwxr-xr-x", "", "", ""⟩ []]

/-- The tree of `sampleSeed`. -/
def sampleTree : Tree :=
  ⟨#[⟨"/", ⟨"drwxr-xr-x", "", "", ""⟩, none, .directory [1, 5]⟩,
    ⟨"home", ⟨"drwxr-xr-x", "", "", ""⟩, some 0, .directory [2]⟩,
    ⟨"ada", ⟨"drwxr-xr-x", "", "", ""⟩, some 1, .directory [3, 4]⟩,
    ⟨"blog", ⟨"drwxr-xr-x", "", "", ""⟩, some 2, .directory []⟩,
    ⟨"a b", ⟨"-rw-r--r--", "", "", ""⟩, some 2, .file ["text"]⟩,
    ⟨"etc", ⟨"drwxr-xr-x", "", "", ""⟩, some 0, .directory []⟩]⟩

lemma ofSeed_sampleSeed : Tree.ofSeed sampleSeed = .ok sampleTree := rfl

def samplePost : Post := ⟨"first.md", ⟨"-rw-r--r--", "", "", ""⟩, ["# First"]⟩

/-! ### Adding a node -/

section Nodes

variable (n : Node) (child : Nat)

@[simp] lemma withChild_name : (n.withChild child).name = n.name := by
  rcases n with ⟨_, _, _, _ | _⟩ <;> rfl

@[simp] lemma withChild_parent : (n.withChild child).parent = n.parent := by
  rcases n with ⟨_, _, _, _ | _⟩ <;> rfl

@[simp] lemma withChild_isDirectory : (n.withChild child).isDirectory = n.isDirectory := by
  rcases n with ⟨_, _, _, _ | _⟩ <;> rfl

lemma withChild_children (h : n.isDirectory) :
    (n.withChild child).children = n.children ++ [child] := by
  rcases n with ⟨_, _, _, _ | _⟩
  · rfl
  · cases h

end Nodes

variable {t : Tree}

lemma node_of_size_le {id : Nat} (h : t.size ≤ id) : t.node id = default := by
  have hnone : t.nodes[id]? = none := Array.getElem?_eq_none h
  simp only [Tree.node, hnone, Option.getD_none]

lemma lt_size_of_isDirectory {id : Nat} (h : t.isDirectory id) : id < t.size := by
  by_contra hge
  have hnode := node_of_size_le (Nat.le_of_not_lt hge)
  simp [Tree.isDirectory, hnode, default, Node.isDirectory] at h

section Attaching

variable {parent : Nat} {name : String} {attributes : Attributes} {entry : Entry}

lemma size_attach : (t.attach parent name attributes entry).size = t.size + 1 := by
  simp [Tree.attach, Tree.size]

/-- A new node stands at the end, and its parent lists it. -/
lemma node_attach (id : Nat) : (t.attach parent name attributes entry).node id =
    if id = t.size then ⟨name, attributes, some parent, entry⟩
    else if id = parent then (t.node id).withChild t.size
    else t.node id := by
  have hdefault : ∀ child, (default : Node).withChild child = default := fun _ => rfl
  simp only [Tree.attach, Tree.node, Tree.size, Array.getElem?_push, Array.size_modify,
    Array.getElem?_modify]
  by_cases hsize : id = t.nodes.size
  · simp [hsize]
  · by_cases hparent : parent = id
    · subst hparent
      cases hget : t.nodes[parent]? with
      | none => simp [hsize, hdefault]
      | some n => simp [hsize]
    · simp [hsize, hparent, Ne.symm hparent]

lemma node_attach_new :
    (t.attach parent name attributes entry).node t.size =
      ⟨name, attributes, some parent, entry⟩ := by
  rw [node_attach, if_pos rfl]

lemma name_attach {id : Nat} (h : id ≠ t.size) :
    ((t.attach parent name attributes entry).node id).name = (t.node id).name := by
  rw [node_attach, if_neg h]
  split <;> simp

lemma parent_attach {id : Nat} (h : id ≠ t.size) :
    ((t.attach parent name attributes entry).node id).parent = (t.node id).parent := by
  rw [node_attach, if_neg h]
  split <;> simp

lemma isDirectory_attach {id : Nat} (h : id ≠ t.size) :
    (t.attach parent name attributes entry).isDirectory id = t.isDirectory id := by
  unfold Tree.isDirectory
  rw [node_attach, if_neg h]
  split <;> simp

lemma isDirectory_attach_new : (t.attach parent name attributes entry).isDirectory t.size =
    (⟨name, attributes, some parent, entry⟩ : Node).isDirectory := by
  rw [Tree.isDirectory, node_attach_new]

/-- Only the parent gets a longer list. -/
lemma children_attach (hdir : t.isDirectory parent) (id : Nat) :
    ((t.attach parent name attributes entry).node id).children =
      if id = t.size then (⟨name, attributes, some parent, entry⟩ : Node).children
      else if id = parent then (t.node id).children ++ [t.size]
      else (t.node id).children := by
  rw [node_attach]
  split
  · rfl
  · split
    · next heq => rw [withChild_children _ _ (by rw [heq]; exact hdir)]
    · rfl

end Attaching

/-! ### What a well-formed tree says of its nodes -/

namespace WellFormed

variable (hw : WellFormed t)
include hw

lemma parent_of_mem {dir child : Nat} (h : child ∈ (t.node dir).children) :
    (t.node child).parent = some dir := (hw.listed dir child h).2

lemma lt_of_mem {dir child : Nat} (h : child ∈ (t.node dir).children) : child < t.size :=
  (hw.listed dir child h).1

lemma root_of_parent_none {id : Nat} (hid : id < t.size) (h : (t.node id).parent = none) :
    id = Tree.root := by
  by_contra hne
  obtain ⟨parent, _, hparent, _⟩ := hw.linked id (Nat.pos_of_ne_zero hne) hid
  rw [h] at hparent
  cases hparent

lemma of_parent {id parent : Nat} (hid : id < t.size) (h : (t.node id).parent = some parent) :
    parent < id ∧ t.isDirectory parent ∧ (t.node parent).children.count id = 1 := by
  have hne : id ≠ Tree.root := by
    rintro rfl
    rw [hw.root_parent] at h
    cases h
  obtain ⟨p, hlt, hp, hrest⟩ := hw.linked id (Nat.pos_of_ne_zero hne) hid
  obtain rfl : p = parent := Option.some.inj (hp.symm.trans h)
  exact ⟨hlt, hrest⟩

lemma mem_of_parent {id parent : Nat} (hid : id < t.size)
    (h : (t.node id).parent = some parent) : id ∈ (t.node parent).children := by
  obtain ⟨_, _, hcount⟩ := hw.of_parent hid h
  exact List.count_pos_iff.mp (by omega)

/-- Children come after the directory that lists them. -/
lemma lt_child {dir child : Nat} (h : child ∈ (t.node dir).children) : dir < child :=
  (hw.of_parent (hw.lt_of_mem h) (hw.parent_of_mem h)).1

lemma eq_of_name {dir a b : Nat} (ha : a ∈ (t.node dir).children)
    (hb : b ∈ (t.node dir).children) (h : (t.node a).name = (t.node b).name) : a = b :=
  List.inj_on_of_nodup_map (hw.names_nodup dir) ha hb h

/-- Names decide among siblings. -/
lemma child?_eq_some_iff {dir child : Nat} {name : String} :
    t.child? dir name = some child ↔
      child ∈ (t.node dir).children ∧ (t.node child).name = name := by
  unfold Tree.child?
  constructor
  · intro h
    exact ⟨List.mem_of_find?_eq_some h, by simpa using List.find?_some h⟩
  · rintro ⟨hmem, hname⟩
    cases hfind : (t.node dir).children.find? fun id => (t.node id).name == name with
    | none =>
      have hall := List.find?_eq_none.mp hfind child hmem
      simp [hname] at hall
    | some found =>
      have hfound : (t.node found).name = name := by simpa using List.find?_some hfind
      rw [hw.eq_of_name (List.mem_of_find?_eq_some hfind) hmem (hfound.trans hname.symm)]

lemma notMem_size (dir : Nat) : t.size ∉ (t.node dir).children :=
  fun h => Nat.lt_irrefl _ (hw.lt_of_mem h)

/-! ### Growth keeps a tree well-formed -/

section Attaching

variable {parent : Nat} {name : String} {attributes : Attributes} {entry : Entry}

lemma linked_attach (hdir : t.isDirectory parent) {id : Nat} (hpos : Tree.root < id)
    (hid : id < t.size + 1) : ∃ p < id,
      ((t.attach parent name attributes entry).node id).parent = some p ∧
        (t.attach parent name attributes entry).isDirectory p ∧
          ((t.attach parent name attributes entry).node p).children.count id = 1 := by
  have hparent : parent < t.size := lt_size_of_isDirectory hdir
  by_cases hnew : id = t.size
  · subst hnew
    refine ⟨parent, hparent, by rw [node_attach_new], ?_, ?_⟩
    · rwa [isDirectory_attach (Nat.ne_of_lt hparent)]
    · have hnone := List.count_eq_zero.mpr (hw.notMem_size parent)
      rw [children_attach hdir, if_neg (Nat.ne_of_lt hparent), if_pos rfl, List.count_append, hnone]
      simp
  · obtain ⟨p, hlt, hp, hpdir, hcount⟩ := hw.linked id hpos (by omega)
    have hpsize : p ≠ t.size := by omega
    refine ⟨p, hlt, by rw [parent_attach hnew, hp], by rwa [isDirectory_attach hpsize], ?_⟩
    rw [children_attach hdir, if_neg hpsize]
    split
    · rw [List.count_append, hcount, List.count_singleton]
      simp [Ne.symm hnew]
    · exact hcount

lemma listed_attach (hdir : t.isDirectory parent)
    (hleaf : (⟨name, attributes, some parent, entry⟩ : Node).children = []) {dir child : Nat}
    (hmem : child ∈ ((t.attach parent name attributes entry).node dir).children) :
    child < t.size + 1 ∧
      ((t.attach parent name attributes entry).node child).parent = some dir := by
  have hold : child ∈ (t.node dir).children → child < t.size + 1 ∧
      ((t.attach parent name attributes entry).node child).parent = some dir := by
    intro h
    have hlt := hw.lt_of_mem h
    exact ⟨by omega, by rw [parent_attach (Nat.ne_of_lt hlt), hw.parent_of_mem h]⟩
  rw [children_attach hdir] at hmem
  split at hmem
  · rw [hleaf] at hmem
    cases hmem
  · split at hmem
    · next heq =>
      rcases List.mem_append.mp hmem with h | h
      · exact hold h
      · obtain rfl := List.mem_singleton.mp h
        exact ⟨Nat.lt_succ_self _, by rw [node_attach_new, heq]⟩
    · exact hold hmem

lemma names_nodup_attach (hdir : t.isDirectory parent)
    (hleaf : (⟨name, attributes, some parent, entry⟩ : Node).children = [])
    (hnew : t.child? parent name = none) (dir : Nat) :
    (((t.attach parent name attributes entry).node dir).children.map fun child =>
      ((t.attach parent name attributes entry).node child).name).Nodup := by
  have hold : ((t.node dir).children.map fun child =>
      ((t.attach parent name attributes entry).node child).name) =
        (t.node dir).children.map fun child => (t.node child).name :=
    List.map_congr_left fun child h => name_attach (Nat.ne_of_lt (hw.lt_of_mem h))
  rw [children_attach hdir]
  split
  · rw [hleaf]
    exact List.nodup_nil
  · split
    · next heq =>
      subst heq
      rw [List.map_append, hold, List.map_singleton, node_attach_new]
      refine List.Nodup.append (hw.names_nodup dir) (List.nodup_singleton _) ?_
      rw [List.disjoint_singleton]
      intro hmem
      obtain ⟨child, hchild, hname⟩ := List.mem_map.mp hmem
      rw [hw.child?_eq_some_iff.mpr ⟨hchild, hname⟩] at hnew
      cases hnew
    · rw [hold]
      exact hw.names_nodup dir

/-- A node without children of its own may be added below any directory that has no entry of its
name. -/
theorem attach (hdir : t.isDirectory parent)
    (hleaf : (⟨name, attributes, some parent, entry⟩ : Node).children = [])
    (hnew : t.child? parent name = none) :
    WellFormed (t.attach parent name attributes entry) where
  root_lt := by
    rw [size_attach]
    exact Nat.lt_succ_of_lt hw.root_lt
  root_name := by rw [name_attach (Nat.ne_of_lt hw.root_lt), hw.root_name]
  root_parent := by rw [parent_attach (Nat.ne_of_lt hw.root_lt), hw.root_parent]
  root_directory := by rw [isDirectory_attach (Nat.ne_of_lt hw.root_lt), hw.root_directory]
  linked _ hpos hid := hw.linked_attach hdir hpos (by rwa [size_attach] at hid)
  listed _ _ hmem := by
    rw [size_attach]
    exact hw.listed_attach hdir hleaf hmem
  names_nodup := hw.names_nodup_attach hdir hleaf hnew

end Attaching

end WellFormed

lemma add_eq_ok {t t' : Tree} {parent : Nat} {name : String} {attributes : Attributes}
    {entry : Entry} (h : t.add parent name attributes entry = .ok t') :
    t.child? parent name = none ∧ t.isDirectory parent ∧
      t' = t.attach parent name attributes entry := by
  unfold Tree.add at h
  split at h
  · cases h
  · next hnone =>
    split at h
    · next hdir => exact ⟨by simpa using hnone, hdir, (Except.ok.inj h).symm⟩
    · cases h

lemma WellFormed.add {t t' : Tree} (hw : WellFormed t) {parent : Nat} {name : String}
    {attributes : Attributes} {entry : Entry}
    (hleaf : (⟨name, attributes, some parent, entry⟩ : Node).children = [])
    (h : t.add parent name attributes entry = .ok t') : WellFormed t' := by
  obtain ⟨hnew, hdir, rfl⟩ := add_eq_ok h
  exact hw.attach hdir hleaf hnew

lemma bind_eq_ok_iff {ε α β : Type} {x : Except ε α} {f : α → Except ε β} {b : β} :
    x >>= f = .ok b ↔ ∃ a, x = .ok a ∧ f a = .ok b := by
  cases x with
  | error e => simp [bind, Except.bind]
  | ok a => simp [bind, Except.bind]

lemma plant_directory_eq_ok_iff {t t' : Tree} {parent : Nat} {name : String}
    {attributes : Attributes} {children : List Seed} :
    t.plant parent (.directory name attributes children) = .ok t' ↔
      ∃ grown, t.add parent name attributes (.directory []) = .ok grown ∧
        grown.plantAll t.size children = .ok t' := by
  rw [Tree.plant, bind_eq_ok_iff]

lemma plantAll_cons_eq_ok_iff {t t' : Tree} {parent : Nat} {seed : Seed} {seeds : List Seed} :
    t.plantAll parent (seed :: seeds) = .ok t' ↔
      ∃ grown, t.plant parent seed = .ok grown ∧ grown.plantAll parent seeds = .ok t' := by
  rw [Tree.plantAll, bind_eq_ok_iff]

mutual

lemma WellFormed.plant {t t' : Tree} (hw : WellFormed t) (parent : Nat) :
    (seed : Seed) → t.plant parent seed = .ok t' → WellFormed t'
  | .file _ _ _, h => hw.add rfl h
  | .directory name attributes children, h => by
    obtain ⟨grown, hadd, hchildren⟩ := plant_directory_eq_ok_iff.mp h
    exact (hw.add rfl hadd).plantAll t.size children hchildren

lemma WellFormed.plantAll {t t' : Tree} (hw : WellFormed t) (parent : Nat) :
    (seeds : List Seed) → t.plantAll parent seeds = .ok t' → WellFormed t'
  | [], h => by
    rw [Tree.plantAll] at h
    exact Except.ok.inj h ▸ hw
  | seed :: seeds, h => by
    obtain ⟨grown, hplant, hseeds⟩ := plantAll_cons_eq_ok_iff.mp h
    exact (hw.plant parent seed hplant).plantAll parent seeds hseeds

end

/-- The tree of a seed before anything is planted below its root. -/
lemma wellFormed_root (attributes : Attributes) :
    WellFormed ⟨#[⟨"/", attributes, none, .directory []⟩]⟩ where
  root_lt := Nat.zero_lt_one
  root_name := rfl
  root_parent := rfl
  root_directory := rfl
  linked id hpos hid := by
    have hone : id < 1 := hid
    exact absurd hone (Nat.not_lt.mpr hpos)
  listed dir child h := by
    rcases dir with _ | dir <;> cases h
  names_nodup dir := by
    rcases dir with _ | dir <;> exact List.nodup_nil

lemma wellFormed_ofSeed {seed : Seed} {t : Tree} (h : Tree.ofSeed seed = .ok t) :
    WellFormed t := by
  cases seed with
  | file => cases h
  | directory name attributes children =>
    exact (wellFormed_root attributes).plantAll Tree.root children h

/-- Posts are files that are added one after the other; a refused one leaves the tree as it is. -/
lemma addPosts_induction {P : Tree → Prop}
    (hadd : ∀ {t t' : Tree} {dir : Nat} {post : Post}, P t →
      t.add dir post.name post.attributes (.file post.content) = .ok t' → P t')
    (h : P t) (user : String) (posts : List Post) : P (t.addPosts user posts).1 := by
  have hfold : ∀ dir count, P (posts.foldl (Tree.addPost dir) (t, count)).1 := by
    intro dir
    induction posts generalizing t with
    | nil => exact fun _ => h
    | cons post posts ih =>
      intro count
      rw [List.foldl_cons, Tree.addPost]
      split
      · next hpost => exact ih (hadd h hpost) _
      · exact ih h _
  unfold Tree.addPosts
  split
  · exact h
  · exact hfold _ _

lemma WellFormed.addPosts (hw : WellFormed t) (user : String) (posts : List Post) :
    WellFormed (t.addPosts user posts).1 :=
  addPosts_induction (fun hw h => hw.add rfl h) hw user posts

theorem Grown.wellFormed (h : Grown t) : WellFormed t := by
  induction h with
  | ofSeed hseed => exact wellFormed_ofSeed hseed
  | addPosts user posts _ ih => exact ih.addPosts user posts

end SeedShell.Proofs
