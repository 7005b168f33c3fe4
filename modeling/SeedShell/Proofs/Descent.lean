import Mathlib.Data.List.Basic
import SeedShell.Proofs.WellFormed

/-!
# Walks up and down a tree

A well-formed tree has one chain of children to each of its nodes. The walk along parent links
and the search below a directory are described without a bound, as relations of which each
derivation is a run that ends; both end at every node, with the answers that `Tree.names` and
`Tree.filesBelow` give.
-/

namespace SeedShell.Proofs

/-- A chain of children from the root to a node. -/
inductive Chain (t : Tree) : List Nat → Nat → Prop
  | root : Chain t [Tree.root] Tree.root
  | child {ids : List Nat} {dir child : Nat} :
    Chain t ids dir → child ∈ (t.node dir).children → Chain t (ids ++ [child]) child

/-- The walk from a node along parent links, with the names that it collects. -/
inductive Ascent (t : Tree) : Nat → List String → Prop
  | root {id : Nat} : (t.node id).parent = none → Ascent t id []
  | up {id parent : Nat} {names : List String} : (t.node id).parent = some parent →
    Ascent t parent names → Ascent t id (names ++ [(t.node id).name])

/-- The search through a list of nodes, with the files that it finds and their paths. -/
inductive Descent (t : Tree) : List Nat → String → List (String × List String) → Prop
  | nil {base : String} : Descent t [] base []
  | file {id : Nat} {ids : List Nat} {base : String} {content : List String}
    {found : List (String × List String)} : (t.node id).entry = .file content →
    Descent t ids base found →
    Descent t (id :: ids) base ((base ++ "/" ++ (t.node id).name, content) :: found)
  | directory {id : Nat} {ids children : List Nat} {base : String}
    {below found : List (String × List String)} : (t.node id).entry = .directory children →
    Descent t children (base ++ "/" ++ (t.node id).name) below → Descent t ids base found →
    Descent t (id :: ids) base (below ++ found)

variable {t : Tree}

lemma names_of_parent_none {id : Nat} (h : (t.node id).parent = none) : t.names id = [] := by
  rw [Tree.names, h]

/-- The names on the way to a node depend on the names and the parents of the nodes up to it. -/
lemma names_congr {t' : Tree} {n : Nat}
    (hparent : ∀ id < n, (t'.node id).parent = (t.node id).parent)
    (hname : ∀ id < n, (t'.node id).name = (t.node id).name) {id : Nat} (hid : id < n) :
    t'.names id = t.names id := by
  induction id using Nat.strongRecOn with
  | ind id ih =>
    rw [Tree.names, Tree.names, hparent id hid]
    split
    · rfl
    · next parent _ =>
      split
      · next hlt => rw [ih parent hlt (Nat.lt_trans hlt hid), hname id hid]
      · rfl

namespace WellFormed

variable (hw : WellFormed t)
include hw

/-! ### Upward -/

lemma names_of_parent {id parent : Nat} (hid : id < t.size)
    (h : (t.node id).parent = some parent) :
    t.names id = t.names parent ++ [(t.node id).name] := by
  rw [Tree.names, h]
  simp only [if_pos (hw.of_parent hid h).1]

lemma names_of_mem {dir child : Nat} (h : child ∈ (t.node dir).children) :
    t.names child = t.names dir ++ [(t.node child).name] :=
  hw.names_of_parent (hw.lt_of_mem h) (hw.parent_of_mem h)

lemma ascent {id : Nat} (hid : id < t.size) : Ascent t id (t.names id) := by
  induction id using Nat.strongRecOn with
  | ind id ih =>
    cases hparent : (t.node id).parent with
    | none =>
      rw [names_of_parent_none hparent]
      exact .root hparent
    | some parent =>
      have hlt := (hw.of_parent hid hparent).1
      rw [hw.names_of_parent hid hparent]
      exact .up hparent (ih parent hlt (Nat.lt_trans hlt hid))

/-! ### Chains -/

lemma exists_chain {id : Nat} (hid : id < t.size) : ∃ ids, Chain t ids id := by
  induction id using Nat.strongRecOn with
  | ind id ih =>
    cases hparent : (t.node id).parent with
    | none =>
      obtain rfl := hw.root_of_parent_none hid hparent
      exact ⟨_, .root⟩
    | some parent =>
      have hlt := (hw.of_parent hid hparent).1
      obtain ⟨ids, hids⟩ := ih parent hlt (Nat.lt_trans hlt hid)
      exact ⟨_, .child hids (hw.mem_of_parent hid hparent)⟩

/-- The root is on no list, so a chain to it does not go on. -/
lemma root_notMem (dir : Nat) : Tree.root ∉ (t.node dir).children := by
  intro h
  have hparent := hw.parent_of_mem h
  rw [hw.root_parent] at hparent
  cases hparent

lemma chain_unique {ids ids' : List Nat} {id : Nat} (h : Chain t ids id)
    (h' : Chain t ids' id) : ids = ids' := by
  induction h generalizing ids' with
  | root =>
    cases h' with
    | root => rfl
    | child _ hmem => exact absurd hmem (hw.root_notMem _)
  | child _ hmem ih =>
    cases h' with
    | root => exact absurd hmem (hw.root_notMem _)
    | child hchain hmem' =>
      have hdir := (hw.parent_of_mem hmem).symm.trans (hw.parent_of_mem hmem')
      obtain rfl := Option.some.inj hdir
      rw [ih hchain]

/-! ### Downward -/

/-- The search without the bound that makes it a function. -/
lemma filesBelow_eq (dir : Nat) (base : String) :
    t.filesBelow dir base = (t.node dir).children.flatMap fun child =>
      match (t.node child).entry with
      | .file content => [(base ++ "/" ++ (t.node child).name, content)]
      | .directory _ => t.filesBelow child (base ++ "/" ++ (t.node child).name) := by
  rw [Tree.filesBelow]
  refine List.flatMap_congr fun child hmem => ?_
  cases (t.node child).entry with
  | file content => rfl
  | directory children => exact dif_pos ⟨hw.lt_child hmem, hw.lt_of_mem hmem⟩

/-- Children come later, so what is below them is known before what is below their directory. -/
lemma descent (dir : Nat) (base : String) :
    Descent t (t.node dir).children base (t.filesBelow dir base) := by
  induction hn : t.size - dir using Nat.strongRecOn generalizing dir base with
  | ind n ih =>
    subst hn
    have hbelow : ∀ child ∈ (t.node dir).children, ∀ path,
        Descent t (t.node child).children path (t.filesBelow child path) := by
      intro child hmem path
      have hlt := hw.lt_child hmem
      have hsize := hw.lt_of_mem hmem
      exact ih (t.size - child) (by omega) child path rfl
    rw [hw.filesBelow_eq]
    revert hbelow
    generalize (t.node dir).children = ids
    intro hbelow
    induction ids with
    | nil => exact .nil
    | cons id ids ihs =>
      have htail := ihs fun child hmem => hbelow child (List.mem_cons_of_mem _ hmem)
      rw [List.flatMap_cons]
      split
      · next content hentry => exact .file hentry htail
      · next children hentry =>
        have hhead := hbelow id List.mem_cons_self (base ++ "/" ++ (t.node id).name)
        rw [show (t.node id).children = children by simp [Node.children, hentry]] at hhead
        exact .directory hentry hhead htail

end WellFormed

/-- However a tree has grown, its links and lists agree, each node is reached by one chain of
children, and the walks up from a node and down from it end. -/
theorem grown_wellFormed (h : Grown t) :
    WellFormed t ∧
      (∀ dir dir' child, child ∈ (t.node dir).children → child ∈ (t.node dir').children →
        dir = dir') ∧
      ∀ id < t.size, (∃! ids, Chain t ids id) ∧ Ascent t id (t.names id) ∧
        ∀ base, Descent t (t.node id).children base (t.filesBelow id base) := by
  have hw := h.wellFormed
  refine ⟨hw, ?_, ?_⟩
  · intro dir dir' child hmem hmem'
    exact Option.some.inj ((hw.parent_of_mem hmem).symm.trans (hw.parent_of_mem hmem'))
  · intro id hid
    obtain ⟨ids, hids⟩ := hw.exists_chain hid
    exact ⟨⟨ids, hids, fun _ hids' => hw.chain_unique hids' hids⟩, hw.ascent hid, hw.descent id⟩

/-- The second of two equal posts and the post of an unknown user are refused. -/
theorem grown_wellFormed_posts :
    let grown :=
      ((sampleTree.addPosts "ada" [samplePost, samplePost]).1.addPosts "bob" [samplePost]).1
    Grown grown ∧ grown.size = 7 ∧ WellFormed grown ∧ ∃! ids, Chain grown ids 6 := by
  have hgrown : Grown sampleTree := .ofSeed ofSeed_sampleSeed
  have hposts := (hgrown.addPosts "ada" [samplePost, samplePost]).addPosts "bob" [samplePost]
  have h := grown_wellFormed hposts
  exact ⟨hposts, by decide, h.1, (h.2.2 6 (by decide)).1⟩

end SeedShell.Proofs
