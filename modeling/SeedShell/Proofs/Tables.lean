import Mathlib.Data.List.Perm.Basic
import SeedShell.Proofs.Resolution

/-!
# Trees as tables

A tree written down as a table has a row for each node, with the segments of the node and with
all that it is apart from its links. Growing a tree appends rows and leaves those that it has. So
the tree of a seed has the rows that can be read off the seed, and seeds that differ in the order
of children have the same rows in another order.
-/

namespace SeedShell.Proofs

/-- A node without its links. -/
def unlinked (n : Node) : Node :=
  { n with
    parent := none
    entry := match n.entry with
      | .directory _ => .directory []
      | .file content => .file content }

/-- The segments of a node, and the node without its links. -/
abbrev Row := List String × Node

def rowOf (t : Tree) (id : Nat) : Row := (t.segments id, unlinked (t.node id))

/-- The rows of a tree in the order of its nodes. -/
def rows (t : Tree) : List Row := (List.range t.size).map (rowOf t)

/-! ### Nodes without links -/

section Unlinked

variable (n : Node)

@[simp] lemma unlinked_name : (unlinked n).name = n.name := rfl

@[simp] lemma unlinked_attributes : (unlinked n).attributes = n.attributes := rfl

@[simp] lemma unlinked_isDirectory : (unlinked n).isDirectory = n.isDirectory := by
  rcases n with ⟨_, _, _, _ | _⟩ <;> rfl

@[simp] lemma unlinked_unlinked : unlinked (unlinked n) = unlinked n := by
  rcases n with ⟨_, _, _, _ | _⟩ <;> rfl

@[simp] lemma unlinked_withChild (child : Nat) : unlinked (n.withChild child) = unlinked n := by
  rcases n with ⟨_, _, _, _ | _⟩ <;> rfl

end Unlinked

/-! ### Rows -/

section Rows

variable {t t' : Tree}

@[simp] lemma length_rows : (rows t).length = t.size := by simp [rows]

lemma mem_rows {row : Row} : row ∈ rows t ↔ ∃ id < t.size, rowOf t id = row := by
  simp [rows]

lemma getElem?_rows {id : Nat} (h : id < t.size) : (rows t)[id]? = some (rowOf t id) := by
  simp [rows, h]

/-- Where rows are appended the nodes before them keep theirs. -/
lemma rowOf_of_rows_eq_append {new : List Row} (h : rows t' = rows t ++ new) {id : Nat}
    (hid : id < t.size) : rowOf t' id = rowOf t id := by
  have hlength := congrArg List.length h
  rw [List.length_append, length_rows, length_rows] at hlength
  have hold : (rows t')[id]? = (rows t)[id]? := by
    rw [h, List.getElem?_append_left (by rwa [length_rows])]
  rw [getElem?_rows hid, getElem?_rows (by omega)] at hold
  exact Option.some.inj hold

lemma size_le_of_rows_eq_append {new : List Row} (h : rows t' = rows t ++ new) :
    t.size ≤ t'.size := by
  have hlength := congrArg List.length h
  rw [List.length_append, length_rows, length_rows] at hlength
  omega

end Rows

/-! ### Growing by a row -/

section Attaching

variable {t : Tree} {parent : Nat} {name : String} {attributes : Attributes} {entry : Entry}

lemma names_attach {id : Nat} (h : id < t.size) :
    (t.attach parent name attributes entry).names id = t.names id :=
  names_congr (fun _ hi => parent_attach (Nat.ne_of_lt hi))
    (fun _ hi => name_attach (Nat.ne_of_lt hi)) h

lemma rowOf_attach {id : Nat} (h : id < t.size) :
    rowOf (t.attach parent name attributes entry) id = rowOf t id := by
  rw [rowOf, rowOf, Tree.segments, Tree.segments, names_attach h, node_attach,
    if_neg (Nat.ne_of_lt h)]
  split
  · rw [unlinked_withChild]
  · rfl

lemma segments_attach_new (h : parent < t.size) :
    (t.attach parent name attributes entry).segments t.size = t.segments parent ++ [name] := by
  rw [Tree.segments, Tree.names, node_attach_new]
  dsimp only
  rw [if_pos h, names_attach h, Tree.segments, List.cons_append]

lemma rows_attach (h : parent < t.size) : rows (t.attach parent name attributes entry) =
    rows t ++ [(t.segments parent ++ [name], unlinked ⟨name, attributes, none, entry⟩)] := by
  have hold : (List.range t.size).map (rowOf (t.attach parent name attributes entry)) = rows t :=
    List.map_congr_left fun id hid => rowOf_attach (List.mem_range.mp hid)
  have hnew : rowOf (t.attach parent name attributes entry) t.size =
      (t.segments parent ++ [name], unlinked ⟨name, attributes, none, entry⟩) := by
    rw [rowOf, segments_attach_new h, node_attach_new]
    rfl
  rw [rows, size_attach, List.range_succ, List.map_append, hold, List.map_singleton, hnew]

lemma rows_add {t' : Tree} (h : t.add parent name attributes entry = .ok t') : rows t' =
    rows t ++ [(t.segments parent ++ [name], unlinked ⟨name, attributes, none, entry⟩)] := by
  obtain ⟨-, hdir, rfl⟩ := add_eq_ok h
  exact rows_attach (lt_size_of_isDirectory hdir)

end Attaching

/-! ### The rows of a seed -/

mutual

/-- The rows of a seed below some segments. -/
def seedRows (above : List String) : Seed → List Row
  | .file name attributes content => [(above ++ [name], ⟨name, attributes, none, .file content⟩)]
  | .directory name attributes children =>
    (above ++ [name], ⟨name, attributes, none, .directory []⟩) ::
      childRows (above ++ [name]) children

def childRows (above : List String) : List Seed → List Row
  | [] => []
  | seed :: seeds => seedRows above seed ++ childRows above seeds

end

/-- The rows of the tree that grows from a seed. -/
def tableOf : Seed → List Row
  | .file .. => []
  | .directory _ attributes children =>
    (["/"], ⟨"/", attributes, none, .directory []⟩) :: childRows ["/"] children

mutual

lemma rows_plant {t t' : Tree} (parent : Nat) (hparent : parent < t.size) :
    (seed : Seed) → t.plant parent seed = .ok t' →
      rows t' = rows t ++ seedRows (t.segments parent) seed
  | .file name attributes content, h => rows_add h
  | .directory name attributes children, h => by
    obtain ⟨grown, hadd, hchildren⟩ := plant_directory_eq_ok_iff.mp h
    have hgrown := rows_add hadd
    obtain ⟨-, -, rfl⟩ := add_eq_ok hadd
    have hnew : t.size < (t.attach parent name attributes (.directory [])).size := by
      rw [size_attach]
      exact Nat.lt_succ_self _
    rw [rows_plantAll t.size hnew children hchildren, hgrown, segments_attach_new hparent,
      List.append_assoc, List.singleton_append, seedRows]
    rfl

lemma rows_plantAll {t t' : Tree} (parent : Nat) (hparent : parent < t.size) :
    (seeds : List Seed) → t.plantAll parent seeds = .ok t' →
      rows t' = rows t ++ childRows (t.segments parent) seeds
  | [], h => by
    rw [Tree.plantAll] at h
    rw [← Except.ok.inj h, childRows, List.append_nil]
  | seed :: seeds, h => by
    obtain ⟨grown, hplant, hseeds⟩ := plantAll_cons_eq_ok_iff.mp h
    have hgrown := rows_plant parent hparent seed hplant
    -- the parent has the row that it had before
    have hsegments : grown.segments parent = t.segments parent :=
      congrArg Prod.fst (rowOf_of_rows_eq_append hgrown hparent)
    have hsize : parent < grown.size :=
      Nat.lt_of_lt_of_le hparent (size_le_of_rows_eq_append hgrown)
    rw [rows_plantAll parent hsize seeds hseeds, hgrown, hsegments, childRows, List.append_assoc]

end

/-- The tree of a seed has the rows of the seed. -/
theorem rows_ofSeed {seed : Seed} {t : Tree} (h : Tree.ofSeed seed = .ok t) :
    rows t = tableOf seed := by
  cases seed with
  | file => cases h
  | directory name attributes children =>
    have hroot : Tree.root < (⟨#[⟨"/", attributes, none, .directory []⟩]⟩ : Tree).size :=
      Nat.zero_lt_one
    have hsegments :=
      (wellFormed_root attributes).segments_root
    rw [rows_plantAll Tree.root hroot children h, hsegments, tableOf]
    simp [rows, rowOf, Tree.size, List.range_succ, Tree.segments, Tree.names, Tree.node, unlinked]

/-! ### Reordered seeds -/

/-- The seeds differ in the order of children alone: the children of one directory after the other
change places. -/
inductive Reordered : Seed → Seed → Prop
  | refl (seed : Seed) : Reordered seed seed
  | trans {a b c : Seed} : Reordered a b → Reordered b c → Reordered a c
  | children {name : String} {attributes : Attributes} {children children' : List Seed} :
    children.Perm children' →
    Reordered (.directory name attributes children) (.directory name attributes children')
  | inside {name : String} {attributes : Attributes} {before behind : List Seed}
    {child child' : Seed} : Reordered child child' →
    Reordered (.directory name attributes (before ++ child :: behind))
      (.directory name attributes (before ++ child' :: behind))

lemma childRows_eq_flatMap (above : List String) (seeds : List Seed) :
    childRows above seeds = seeds.flatMap (seedRows above) := by
  induction seeds with
  | nil => rw [childRows, List.flatMap_nil]
  | cons seed seeds ih => rw [childRows, ih, List.flatMap_cons]

lemma childRows_perm {children children' : List Seed} (h : children.Perm children')
    (above : List String) : (childRows above children).Perm (childRows above children') := by
  rw [childRows_eq_flatMap, childRows_eq_flatMap]
  exact h.flatMap_right _

lemma childRows_perm_of_child {above : List String} {child child' : Seed}
    (h : (seedRows above child).Perm (seedRows above child')) (before behind : List Seed) :
    (childRows above (before ++ child :: behind)).Perm
      (childRows above (before ++ child' :: behind)) := by
  simp only [childRows_eq_flatMap, List.flatMap_append, List.flatMap_cons]
  exact (h.append_right _).append_left _

lemma Reordered.seedRows_perm {seed seed' : Seed} (h : Reordered seed seed')
    (above : List String) : (seedRows above seed).Perm (seedRows above seed') := by
  induction h generalizing above with
  | refl seed => exact .refl _
  | trans _ _ ih ih' => exact (ih above).trans (ih' above)
  | children hperm =>
    rw [seedRows, seedRows]
    exact (childRows_perm hperm _).cons _
  | inside _ ih =>
    rw [seedRows, seedRows]
    exact (childRows_perm_of_child (ih _) _ _).cons _

lemma Reordered.tableOf_perm {seed seed' : Seed} (h : Reordered seed seed') :
    (tableOf seed).Perm (tableOf seed') := by
  induction h with
  | refl seed => exact .refl _
  | trans _ _ ih ih' => exact ih.trans ih'
  | children hperm => exact (childRows_perm hperm _).cons _
  | inside hchild _ => exact (childRows_perm_of_child (hchild.seedRows_perm _) _ _).cons _

end SeedShell.Proofs
