import Mathlib.Data.List.Nodup
import SeedShell.Proofs.Descent

/-!
# What grows from a seed

A seed is planted node by node, each before its children and these in their order. Planting
appends nodes to the tree and lengthens one list of children, so that whatever has been planted
stays as it is. So a tree reads as its seed from the root down, and its nodes are numbered in the
order of that reading. A seed grows unless a directory would have two children of one name. All of
this holds as well of the loop that takes the seeds to be planted from a stack: it gives the same
tree or the same error.
-/

namespace SeedShell.Proofs

/-! ### Seeds taken apart -/

/-- The seeds directly below a seed. -/
def seedChildren : Seed → List Seed
  | .directory _ _ children => children
  | .file .. => []

mutual

/-- A seed and all seeds inside it, each before its children and these in their order. -/
def subtrees : Seed → List Seed
  | .file name attributes content => [.file name attributes content]
  | .directory name attributes children =>
    .directory name attributes children :: subtreesAll children

def subtreesAll : List Seed → List Seed
  | [] => []
  | seed :: seeds => subtrees seed ++ subtreesAll seeds

end

/-- No directory in the seed has two children of one name. -/
def NamesDiffer (seed : Seed) : Prop :=
  ∀ dir ∈ subtrees seed, ((seedChildren dir).map Seed.name).Nodup

instance (seed : Seed) : Decidable (NamesDiffer seed) :=
  inferInstanceAs (Decidable (∀ dir ∈ subtrees seed, _))

/-- The seed of a directory. -/
def IsDirectorySeed : Seed → Prop
  | .directory .. => True
  | .file .. => False

/-- The seed under the name of a root. -/
def asRoot : Seed → Seed
  | .directory _ attributes children => .directory "/" attributes children
  | .file _ attributes content => .file "/" attributes content

section Seeds

variable {name : String} {attributes : Attributes} {children seeds : List Seed} {seed : Seed}

lemma mem_subtreesAll {sub : Seed} :
    sub ∈ subtreesAll seeds ↔ ∃ seed ∈ seeds, sub ∈ subtrees seed := by
  induction seeds with
  | nil => simp [subtreesAll]
  | cons seed seeds ih => simp [subtreesAll, ih]

lemma subtreesAll_append (seeds seeds' : List Seed) :
    subtreesAll (seeds ++ seeds') = subtreesAll seeds ++ subtreesAll seeds' := by
  induction seeds with
  | nil => rfl
  | cons seed seeds ih => rw [List.cons_append, subtreesAll, subtreesAll, ih, List.append_assoc]

lemma subtreesAll_singleton (seed : Seed) : subtreesAll [seed] = subtrees seed := by
  rw [subtreesAll, subtreesAll, List.append_nil]

lemma namesDiffer_file {content : List String} : NamesDiffer (.file name attributes content) := by
  simp [NamesDiffer, subtrees, seedChildren]

lemma namesDiffer_directory_iff : NamesDiffer (.directory name attributes children) ↔
    (children.map Seed.name).Nodup ∧ ∀ child ∈ children, NamesDiffer child := by
  simp only [NamesDiffer, subtrees, List.mem_cons, forall_eq_or_imp, seedChildren, mem_subtreesAll,
    forall_exists_index, and_imp]
  refine and_congr_right fun _ => ⟨?_, ?_⟩
  · intro h child hchild dir hdir
    exact h dir child hchild hdir
  · intro h dir child hchild hdir
    exact h child hchild dir hdir

end Seeds

/-! ### Trees read back -/

/-- The seed that a tree shows from a node down, read through the lists of children. -/
def readBack (t : Tree) (id : Nat) : Seed :=
  match (t.node id).entry with
  | .file content => .file (t.node id).name (t.node id).attributes content
  | .directory children =>
    .directory (t.node id).name (t.node id).attributes <| children.flatMap fun child =>
      if _h : id < child ∧ child < t.size then [readBack t child] else []
termination_by t.size - id
decreasing_by omega

/-- The nodes from a node down, each before its children and these in the order of their list. -/
def visit (t : Tree) (id : Nat) : List Nat :=
  id :: (t.node id).children.flatMap fun child =>
    if _h : id < child ∧ child < t.size then visit t child else []
termination_by t.size - id
decreasing_by omega

section Reading

variable {t t' : Tree} {id : Nat}

lemma readBack_file {content : List String} (h : (t.node id).entry = .file content) :
    readBack t id = .file (t.node id).name (t.node id).attributes content := by
  rw [readBack, h]

namespace WellFormed

variable (hw : WellFormed t)
include hw

lemma readBack_directory {children : List Nat} (h : (t.node id).entry = .directory children) :
    readBack t id =
      .directory (t.node id).name (t.node id).attributes (children.map (readBack t)) := by
  have hchildren : (t.node id).children = children := by rw [Node.children, h]
  rw [readBack, h]
  dsimp only
  rw [List.map_eq_flatMap]
  congr 1
  refine List.flatMap_congr fun child hmem => ?_
  rw [← hchildren] at hmem
  exact dif_pos ⟨hw.lt_child hmem, hw.lt_of_mem hmem⟩

lemma visit_eq (id : Nat) : visit t id = id :: (t.node id).children.flatMap (visit t) := by
  rw [visit]
  congr 1
  refine List.flatMap_congr fun child hmem => ?_
  exact dif_pos ⟨hw.lt_child hmem, hw.lt_of_mem hmem⟩

/-- What is read from a node down depends on the visited nodes alone. -/
lemma read_congr (hw' : WellFormed t') (h : ∀ i ∈ visit t id, t'.node i = t.node i) :
    readBack t' id = readBack t id ∧ visit t' id = visit t id := by
  induction hn : t.size - id using Nat.strongRecOn generalizing id with
  | ind n ih =>
    subst hn
    rw [hw.visit_eq] at h
    have hnode : t'.node id = t.node id := h id List.mem_cons_self
    have hbelow : ∀ child ∈ (t.node id).children,
        readBack t' child = readBack t child ∧ visit t' child = visit t child := by
      intro child hmem
      have hlt := hw.lt_child hmem
      have hsize := hw.lt_of_mem hmem
      refine ih (t.size - child) (by omega) (fun i hi => ?_) rfl
      exact h i (List.mem_cons_of_mem _ (List.mem_flatMap.mpr ⟨child, hmem, hi⟩))
    constructor
    · cases hentry : (t.node id).entry with
      | file content => rw [readBack_file hentry, readBack_file (hnode ▸ hentry), hnode]
      | directory children =>
        have hchildren : (t.node id).children = children := by rw [Node.children, hentry]
        rw [hw.readBack_directory hentry, hw'.readBack_directory (hnode ▸ hentry), hnode]
        congr 1
        refine List.map_congr_left fun child hmem => ?_
        exact (hbelow child (hchildren ▸ hmem)).1
    · rw [hw.visit_eq, hw'.visit_eq, hnode]
      congr 1
      exact List.flatMap_congr fun child hmem => (hbelow child hmem).2

end WellFormed

end Reading

/-! ### Growing at the end -/

/-- The tree has grown by nodes at its end. The directory `dir` lists `ids` behind what it listed
before, and every other node is as before. -/
structure Extends (t t' : Tree) (dir : Nat) (ids : List Nat) : Prop where
  size_le : t.size ≤ t'.size
  directory : t'.node dir =
    { t.node dir with entry := .directory ((t.node dir).children ++ ids) }
  others : ∀ id < t.size, id ≠ dir → t'.node id = t.node id

section Extending

variable {t u t' : Tree} {dir : Nat} {ids ids' : List Nat} {name : String}
  {attributes : Attributes} {entry : Entry}

namespace Extends

lemma refl (hdir : t.isDirectory dir) : Extends t t dir [] where
  size_le := Nat.le_refl _
  directory := by
    rw [Tree.isDirectory] at hdir
    rcases hnode : t.node dir with ⟨_, _, _, _ | _⟩
    · simp [Node.children]
    · rw [hnode] at hdir
      cases hdir
  others _ _ _ := rfl

lemma trans (h : Extends t u dir ids) (h' : Extends u t' dir ids') :
    Extends t t' dir (ids ++ ids') where
  size_le := Nat.le_trans h.size_le h'.size_le
  directory := by
    rw [h'.directory, h.directory]
    simp [Node.children]
  others id hid hne :=
    (h'.others id (Nat.lt_of_lt_of_le hid h.size_le) hne).trans (h.others id hid hne)

lemma attach (hdir : t.isDirectory dir) :
    Extends t (t.attach dir name attributes entry) dir [t.size] where
  size_le := by
    rw [size_attach]
    exact Nat.le_succ _
  directory := by
    rw [node_attach, if_neg (Nat.ne_of_lt (lt_size_of_isDirectory hdir)), if_pos rfl]
    rw [Tree.isDirectory] at hdir
    rcases hnode : t.node dir with ⟨_, _, _, _ | _⟩
    · rfl
    · rw [hnode] at hdir
      cases hdir
  others id hid hne := by rw [node_attach, if_neg (Nat.ne_of_lt hid), if_neg hne]

variable (h : Extends t t' dir ids)
include h

lemma isDirectory_dir : t'.isDirectory dir := by
  rw [Tree.isDirectory, h.directory]
  rfl

lemma children_dir : (t'.node dir).children = (t.node dir).children ++ ids := by
  rw [h.directory]
  rfl

lemma name_eq {id : Nat} (hid : id < t.size) : (t'.node id).name = (t.node id).name := by
  by_cases hdir : id = dir
  · rw [hdir, h.directory]
  · rw [h.others id hid hdir]

end Extends

end Extending

/-! ### Planting -/

/-- The seeds stand below `dir` as the nodes `ids`, and the nodes that the tree has grown by are
numbered in the order of a visit. -/
structure Planted (t t' : Tree) (dir : Nat) (ids : List Nat) (seeds : List Seed) : Prop
    extends Extends t t' dir ids where
  wellFormed : WellFormed t'
  read : ids.map (readBack t') = seeds
  visited : ids.flatMap (visit t') = List.range' t.size (subtreesAll seeds).length
  size : t'.size = t.size + (subtreesAll seeds).length

section Planting

variable {t u t' : Tree} {dir : Nat} {ids ids' : List Nat} {name : String}
  {attributes : Attributes} {seeds seeds' : List Seed}

namespace Planted

lemma nil (hw : WellFormed t) (hdir : t.isDirectory dir) : Planted t t dir [] [] where
  toExtends := .refl hdir
  wellFormed := hw
  read := rfl
  visited := rfl
  size := rfl

lemma of_file (hw : WellFormed t) {content : List String}
    (h : t.add dir name attributes (.file content) = .ok t') :
    Planted t t' dir [t.size] [.file name attributes content] := by
  have hw' : WellFormed t' := hw.add rfl h
  obtain ⟨-, hdir, rfl⟩ := add_eq_ok h
  have hnode : (t.attach dir name attributes (.file content)).node t.size =
      ⟨name, attributes, some dir, .file content⟩ := node_attach_new
  have hentry := congrArg Node.entry hnode
  have hchildren := congrArg Node.children hnode
  refine ⟨.attach hdir, hw', ?_, ?_, ?_⟩
  · rw [List.map_singleton, readBack_file hentry, hnode]
  · rw [List.flatMap_singleton, hw'.visit_eq, hchildren]
    rfl
  · rw [size_attach]
    rfl

/-- The children of a new directory are planted below it, and the list of its own directory stays
as it was then. -/
lemma of_directory {children : List Seed} (hadd : t.add dir name attributes (.directory []) = .ok u)
    (h : Planted u t' t.size ids children) :
    Planted t t' dir [t.size] [.directory name attributes children] := by
  obtain ⟨-, hdir, rfl⟩ := add_eq_ok hadd
  have hsize : (t.attach dir name attributes (.directory [])).size = t.size + 1 := size_attach
  have hparent : dir < t.size := lt_size_of_isDirectory hdir
  have hnode : t'.node t.size = ⟨name, attributes, some dir, .directory ids⟩ := by
    rw [h.directory, node_attach_new]
    rfl
  have hentry := congrArg Node.entry hnode
  have hchildren := congrArg Node.children hnode
  have hlength : (subtreesAll [.directory name attributes children]).length =
      (subtreesAll children).length + 1 := by
    rw [subtreesAll_singleton, subtrees, List.length_cons]
  have hbefore : Extends t (t.attach dir name attributes (.directory [])) dir [t.size] :=
    .attach hdir
  refine ⟨⟨?_, ?_, ?_⟩, h.wellFormed, ?_, ?_, ?_⟩
  · exact Nat.le_trans hbefore.size_le h.size_le
  · rw [h.others dir (by omega) (Nat.ne_of_lt hparent), hbefore.directory]
  · intro id hid hne
    rw [h.others id (by omega) (Nat.ne_of_lt hid), hbefore.others id hid hne]
  · rw [List.map_singleton, h.wellFormed.readBack_directory hentry, h.read, hnode]
  · rw [List.flatMap_singleton, h.wellFormed.visit_eq, hchildren, hlength, List.range'_succ]
    congr 1
    rw [← hsize]
    exact h.visited
  · rw [h.size, hsize, hlength]
    omega

/-- What has been planted is read as before when more is planted beside it. -/
lemma append (hdir : dir < t.size) (h : Planted t u dir ids seeds)
    (h' : Planted u t' dir ids' seeds') : Planted t t' dir (ids ++ ids') (seeds ++ seeds') := by
  have hsame : ∀ id ∈ ids, readBack t' id = readBack u id ∧ visit t' id = visit u id := by
    intro id hid
    refine h.wellFormed.read_congr h'.wellFormed fun i hi => ?_
    have hrange : i ∈ List.range' t.size (subtreesAll seeds).length := by
      rw [← h.visited]
      exact List.mem_flatMap.mpr ⟨id, hid, hi⟩
    rw [List.mem_range'_1] at hrange
    exact h'.others i (by rw [h.size]; omega) (by omega)
  have hread : ids.map (readBack t') = ids.map (readBack u) :=
    List.map_congr_left fun id hid => (hsame id hid).1
  have hvisit : ids.flatMap (visit t') = ids.flatMap (visit u) :=
    List.flatMap_congr fun id hid => (hsame id hid).2
  refine ⟨h.toExtends.trans h'.toExtends, h'.wellFormed, ?_, ?_, ?_⟩
  · rw [List.map_append, hread, h.read, h'.read]
  · rw [List.flatMap_append, hvisit, h.visited, h'.visited, h.size, subtreesAll_append,
      List.length_append, List.range'_append_1]
  · rw [h'.size, h.size, subtreesAll_append, List.length_append, Nat.add_assoc]

end Planted

mutual

lemma planted_plant {t t' : Tree} (hw : WellFormed t) (dir : Nat) :
    (seed : Seed) → t.plant dir seed = .ok t' → Planted t t' dir [t.size] [seed]
  | .file _ _ _, h => .of_file hw h
  | .directory name attributes children, h => by
    obtain ⟨grown, hadd, hchildren⟩ := plant_directory_eq_ok_iff.mp h
    have hgrown : WellFormed grown := hw.add rfl hadd
    have hnew : grown.isDirectory t.size := by
      obtain ⟨-, -, rfl⟩ := add_eq_ok hadd
      exact isDirectory_attach_new
    obtain ⟨ids, hids⟩ := planted_plantAll hgrown hnew children hchildren
    exact .of_directory hadd hids

lemma planted_plantAll {t t' : Tree} (hw : WellFormed t) {dir : Nat} (hdir : t.isDirectory dir) :
    (seeds : List Seed) → t.plantAll dir seeds = .ok t' → ∃ ids, Planted t t' dir ids seeds
  | [], h => by
    rw [Tree.plantAll] at h
    cases h
    exact ⟨[], .nil hw hdir⟩
  | seed :: seeds, h => by
    obtain ⟨grown, hplant, hseeds⟩ := plantAll_cons_eq_ok_iff.mp h
    have hseed := planted_plant hw dir seed hplant
    obtain ⟨ids, hids⟩ := planted_plantAll hseed.wellFormed hseed.isDirectory_dir seeds hseeds
    exact ⟨_, hseed.append (lt_size_of_isDirectory hdir) hids⟩

end

end Planting

/-! ### Planting from a stack -/

lemma plantStack_nil (t : Tree) : t.plantStack [] = .ok t := by
  rw [Tree.plantStack]

mutual

/-- The top of a stack is planted as it is by recursion, and what waits below it after that. -/
lemma plantStack_plant (t : Tree) (dir : Nat) (stack : List Tree.Waiting) : (seed : Seed) →
    t.plantStack (⟨seed, some dir⟩ :: stack) =
      (t.plant dir seed >>= fun grown => grown.plantStack stack)
  | .file name attributes content => by
    rw [Tree.plantStack]
    rfl
  | .directory name attributes children => by
    rw [Tree.plantStack, Tree.plant, bind_assoc]
    refine bind_congr fun grown => ?_
    -- the children now wait in their order above all that waited before
    rw [Tree.stackUp_eq]
    exact plantStack_plantAll grown t.size stack children

lemma plantStack_plantAll (t : Tree) (dir : Nat) (stack : List Tree.Waiting) :
    (seeds : List Seed) → t.plantStack (seeds.map (⟨·, some dir⟩) ++ stack) =
      (t.plantAll dir seeds >>= fun grown => grown.plantStack stack)
  | [] => by
    rw [Tree.plantAll]
    rfl
  | seed :: seeds => by
    rw [List.map_cons, List.cons_append, plantStack_plant, Tree.plantAll, bind_assoc]
    exact bind_congr fun grown => plantStack_plantAll grown dir stack seeds

end

/-- The loop over a stack grows the same tree from a seed as the recursion on it, or fails with the
same error. -/
theorem ofSeedOnStack_eq (seed : Seed) : Tree.ofSeedOnStack seed = Tree.ofSeed seed := by
  cases seed with
  | file => rfl
  | directory name attributes children =>
    calc Tree.ofSeedOnStack (.directory name attributes children)
        = Tree.plantStack ⟨#[⟨"/", attributes, none, .directory []⟩]⟩
            (Tree.stackUp Tree.root children []) := by
          rw [Tree.ofSeedOnStack, Tree.plantStack]
          rfl
      _ = (Tree.plantAll ⟨#[⟨"/", attributes, none, .directory []⟩]⟩ Tree.root children >>=
            fun grown => grown.plantStack []) := by
          rw [Tree.stackUp_eq, plantStack_plantAll]
      _ = Tree.ofSeed (.directory name attributes children) := by
          simp only [plantStack_nil]
          exact bind_pure _

/-! ### Which seeds grow -/

/-- The names that a directory lists. -/
def childNames (t : Tree) (dir : Nat) : List String :=
  (t.node dir).children.map fun child => (t.node child).name

section Growing

variable {t t' : Tree} {dir : Nat}

lemma name_readBack (id : Nat) : (readBack t id).name = (t.node id).name := by
  rw [readBack]
  split <;> rfl

lemma child?_eq_none_iff {name : String} :
    t.child? dir name = none ↔ name ∉ childNames t dir := by
  simp [Tree.child?, childNames]

lemma add_eq_ok_iff {name : String} {attributes : Attributes} {entry : Entry}
    (hdir : t.isDirectory dir) : t.add dir name attributes entry = .ok t' ↔
      name ∉ childNames t dir ∧ t' = t.attach dir name attributes entry := by
  constructor
  · intro h
    obtain ⟨hnew, -, rfl⟩ := add_eq_ok h
    exact ⟨child?_eq_none_iff.mp hnew, rfl⟩
  · rintro ⟨hnew, rfl⟩
    rw [Tree.add, child?_eq_none_iff.mpr hnew, if_neg (by simp), if_pos hdir]

lemma Planted.childNames_eq (hw : WellFormed t) {ids : List Nat} {seeds : List Seed}
    (h : Planted t t' dir ids seeds) :
    childNames t' dir = childNames t dir ++ seeds.map Seed.name := by
  have hold : (t.node dir).children.map (fun child => (t'.node child).name) = childNames t dir :=
    List.map_congr_left fun child hmem => h.name_eq (hw.lt_of_mem hmem)
  have hnew : ids.map (fun child => (t'.node child).name) = seeds.map Seed.name := by
    rw [← h.read, List.map_map]
    exact List.map_congr_left fun child _ => (name_readBack child).symm
  rw [childNames, h.children_dir, List.map_append, hold, hnew]

mutual

lemma WellFormed.plant_iff {t : Tree} (hw : WellFormed t) {dir : Nat} (hdir : t.isDirectory dir) :
    (seed : Seed) → ((∃ t', t.plant dir seed = .ok t') ↔
      seed.name ∉ childNames t dir ∧ NamesDiffer seed)
  | .file name attributes content => by
    simp only [Tree.plant, add_eq_ok_iff hdir, exists_and_left, exists_eq, and_true,
      namesDiffer_file, Seed.name]
  | .directory name attributes children => by
    rw [Seed.name, namesDiffer_directory_iff]
    by_cases hnew : name ∈ childNames t dir
    · refine iff_of_false ?_ fun h => h.1 hnew
      rintro ⟨t', h⟩
      obtain ⟨grown, hadd, -⟩ := plant_directory_eq_ok_iff.mp h
      exact ((add_eq_ok_iff hdir).mp hadd).1 hnew
    · have hadd : t.add dir name attributes (.directory []) =
          .ok (t.attach dir name attributes (.directory [])) :=
        (add_eq_ok_iff hdir).mpr ⟨hnew, rfl⟩
      have hinside : (t.attach dir name attributes (.directory [])).isDirectory t.size :=
        isDirectory_attach_new
      have hempty : childNames (t.attach dir name attributes (.directory [])) t.size = [] := by
        rw [childNames, node_attach_new]
        rfl
      have hchildren := (hw.add rfl hadd).plantAll_iff hinside children
      rw [hempty, List.nil_append] at hchildren
      rw [and_iff_right hnew, ← hchildren]
      simp only [plant_directory_eq_ok_iff, hadd, Except.ok.injEq, exists_eq_left']

lemma WellFormed.plantAll_iff {t : Tree} (hw : WellFormed t) {dir : Nat}
    (hdir : t.isDirectory dir) :
    (seeds : List Seed) → ((∃ t', t.plantAll dir seeds = .ok t') ↔
      (childNames t dir ++ seeds.map Seed.name).Nodup ∧ ∀ seed ∈ seeds, NamesDiffer seed)
  | [] => by
    have hnames : (childNames t dir).Nodup := hw.names_nodup dir
    simpa [Tree.plantAll] using hnames
  | seed :: seeds => by
    rw [List.map_cons, List.forall_mem_cons]
    have hseed := hw.plant_iff hdir seed
    by_cases hgrows : seed.name ∉ childNames t dir ∧ NamesDiffer seed
    · obtain ⟨grown, hplant⟩ := hseed.mpr hgrows
      have hplanted := planted_plant hw dir seed hplant
      have hrest := hplanted.wellFormed.plantAll_iff hplanted.isDirectory_dir seeds
      rw [hplanted.childNames_eq hw, List.map_singleton, List.append_assoc,
        List.singleton_append] at hrest
      rw [and_iff_right hgrows.2, ← hrest]
      simp only [plantAll_cons_eq_ok_iff, hplant, Except.ok.injEq, exists_eq_left']
    · refine iff_of_false ?_ ?_
      · rintro ⟨t', h⟩
        obtain ⟨grown, hplant, -⟩ := plantAll_cons_eq_ok_iff.mp h
        exact hgrows (hseed.mp ⟨grown, hplant⟩)
      · rintro ⟨hnames, hdiffer, -⟩
        rw [List.nodup_append'] at hnames
        exact hgrows ⟨fun hmem => hnames.2.2 hmem List.mem_cons_self, hdiffer⟩

end

end Growing

/-- A seed grows exactly if it is that of a directory and no directory in it has two children of
one name. The tree reads as the seed, its root's name apart, and its nodes are numbered in the
order of the visit from the root, one for each seed inside the seed. -/
theorem ofSeed_reads_back (seed : Seed) :
    ((∃ t, Tree.ofSeed seed = .ok t) ↔ IsDirectorySeed seed ∧ NamesDiffer seed) ∧
      ∀ t, Tree.ofSeed seed = .ok t → readBack t Tree.root = asRoot seed ∧
        visit t Tree.root = List.range t.size ∧ t.size = (subtrees seed).length := by
  cases seed with
  | file name attributes content =>
    refine ⟨iff_of_false ?_ fun h => h.1, fun t h => ?_⟩
    · rintro ⟨t, h⟩
      cases h
    · cases h
  | directory name attributes children =>
    have hw := wellFormed_root attributes
    have hroot := hw.root_directory
    constructor
    · rw [namesDiffer_directory_iff]
      exact (hw.plantAll_iff hroot children).trans (and_iff_right trivial).symm
    · intro t h
      obtain ⟨ids, hids⟩ := planted_plantAll hw hroot children h
      have hentry : (t.node Tree.root).entry = .directory ids := congrArg Node.entry hids.directory
      have hname : (t.node Tree.root).name = "/" := hids.wellFormed.root_name
      have hattributes : (t.node Tree.root).attributes = attributes :=
        congrArg Node.attributes hids.directory
      have hchildren : (t.node Tree.root).children = ids := congrArg Node.children hids.directory
      have hsize : t.size = (subtreesAll children).length + 1 := by
        rw [hids.size, Nat.add_comm]
        rfl
      refine ⟨?_, ?_, ?_⟩
      · rw [hids.wellFormed.readBack_directory hentry, hids.read, hname, hattributes, asRoot]
      · rw [hids.wellFormed.visit_eq, hchildren, hids.visited, hsize, List.range_eq_range',
          List.range'_succ]
        rfl
      · rw [hsize, subtrees, List.length_cons]

/-- A home reads as it was planted, and a file and a directory of one name do not grow. -/
theorem ofSeed_reads_back_home : Tree.ofSeed sampleSeed = .ok sampleTree ∧
    readBack sampleTree Tree.root = sampleSeed ∧
    visit sampleTree Tree.root = [0, 1, 2, 3, 4, 5] ∧
    ¬∃ t, Tree.ofSeed (.directory "" ⟨"", "", "", ""⟩
      [.file "a" ⟨"", "", "", ""⟩ [], .directory "a" ⟨"", "", "", ""⟩ []]) = .ok t := by
  obtain ⟨hread, hvisit, -⟩ := (ofSeed_reads_back sampleSeed).2 _ ofSeed_sampleSeed
  refine ⟨ofSeed_sampleSeed, hread, hvisit, ?_⟩
  rw [(ofSeed_reads_back _).1]
  exact fun h => absurd h.2 (by decide)

end SeedShell.Proofs
