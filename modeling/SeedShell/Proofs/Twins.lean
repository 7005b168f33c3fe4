import Mathlib.Data.List.Nodup
import SeedShell.Proofs.Tables

/-!
# Twins

Trees with the same rows in some order are alike: a node of one has a twin in the other, with the
same segments and the same content. Names lead from twins to twins, and so does every path.
-/

namespace SeedShell.Proofs

/-! ### Two results at once -/

section Options

variable {α β γ δ : Type} {R : α → β → Prop} {S : γ → δ → Prop} {o : Option α} {o' : Option β}

lemma rel_bind {f : α → Option γ} {g : β → Option δ} (h : Option.Rel R o o')
    (hfg : ∀ x y, R x y → Option.Rel S (f x) (g y)) : Option.Rel S (o.bind f) (o'.bind g) := by
  cases h with
  | none => exact .none
  | some hxy => exact hfg _ _ hxy

lemma rel_filter {p : α → Bool} {q : β → Bool} (h : Option.Rel R o o')
    (hpq : ∀ x y, R x y → p x = q y) : Option.Rel R (o.filter p) (o'.filter q) := by
  cases h with
  | none => exact .none
  | @some x y hxy =>
    have hboth := hpq x y hxy
    cases hq : q y with
    | false =>
      rw [Option.filter_some_neg (by simp [hboth, hq]), Option.filter_some_neg (by simp [hq])]
      exact .none
    | true =>
      rw [Option.filter_some_pos (hboth.trans hq), Option.filter_some_pos hq]
      exact .some hxy

lemma rel_map {f : α → γ} {g : β → δ} (h : Option.Rel R o o')
    (hfg : ∀ x y, R x y → S (f x) (g y)) : Option.Rel S (o.map f) (o'.map g) := by
  cases h with
  | none => exact .none
  | some hxy => exact .some (hfg _ _ hxy)

lemma rel_getD {x : α} {y : β} (h : Option.Rel R o o') (hxy : R x y) :
    R (o.getD x) (o'.getD y) := by
  cases h with
  | none => exact hxy
  | some hxy' => exact hxy'

lemma isSome_eq_of_rel (h : Option.Rel R o o') : o'.isSome = o.isSome := by
  cases h <;> rfl

end Options

/-! ### Nodes by their segments -/

lemma segments_append_ne_root (t : Tree) (id : Nat) (name : String) :
    t.segments id ++ [name] ≠ ["/"] := by
  simp [Tree.segments]

namespace WellFormed

variable {t : Tree} (hw : WellFormed t)
include hw

/-- A node is the root or a child, the last of whose segments is its name. -/
lemma segments_cases {id : Nat} (hid : id < t.size) : id = Tree.root ∧ t.segments id = ["/"] ∨
    ∃ dir, t.isDirectory dir ∧ id ∈ (t.node dir).children ∧
      t.segments id = t.segments dir ++ [(t.node id).name] := by
  cases hparent : (t.node id).parent with
  | none =>
    obtain rfl := hw.root_of_parent_none hid hparent
    exact .inl ⟨rfl, hw.segments_root⟩
  | some dir =>
    have hmem := hw.mem_of_parent hid hparent
    exact .inr ⟨dir, (hw.of_parent hid hparent).2.1, hmem, hw.segments_of_mem hmem⟩

/-- Nodes differ in their segments. -/
lemma eq_of_segments {a b : Nat} (ha : a < t.size) (hb : b < t.size)
    (h : t.segments a = t.segments b) : a = b := by
  rcases hw.segments_cases ha with ⟨rfl, hroot⟩ | ⟨dir, hdir, hmem, hsegments⟩
  · rcases hw.segments_cases hb with ⟨rfl, -⟩ | ⟨dir', -, -, hsegments'⟩
    · rfl
    · exact absurd (hsegments'.symm.trans (h.symm.trans hroot))
        (segments_append_ne_root t dir' _)
  · rcases hw.segments_cases hb with ⟨rfl, hroot⟩ | ⟨dir', hdir', hmem', hsegments'⟩
    · exact absurd (hsegments.symm.trans (h.trans hroot)) (segments_append_ne_root t dir _)
    · rw [hsegments, hsegments'] at h
      obtain ⟨habove, hname⟩ := List.append_inj' h rfl
      -- the directories above have the same segments, which lead to one directory
      have hsame := hw.directoryAt?_segments hdir
      rw [habove, hw.directoryAt?_segments hdir'] at hsame
      obtain rfl := Option.some.inj hsame
      exact hw.eq_of_name hmem hmem' (List.singleton_inj.mp hname)

/-- The children of a node are those with one more segment. -/
lemma mem_children_iff {dir child : Nat} (hdir : dir < t.size) :
    child ∈ (t.node dir).children ↔
      child < t.size ∧ t.segments child = t.segments dir ++ [(t.node child).name] := by
  constructor
  · intro h
    exact ⟨hw.lt_of_mem h, hw.segments_of_mem h⟩
  · rintro ⟨hchild, h⟩
    rcases hw.segments_cases hchild with ⟨-, hroot⟩ | ⟨above, habove, hmem, hsegments⟩
    · exact absurd (h.symm.trans hroot) (segments_append_ne_root t dir _)
    · have hsame := List.append_cancel_right (hsegments.symm.trans h)
      rwa [← hw.eq_of_segments (lt_size_of_isDirectory habove) hdir hsame]

end WellFormed

/-! ### Trees with the same rows -/

/-- The trees are well-formed and have the same rows in some order. -/
structure Alike (t t' : Tree) : Prop where
  left : WellFormed t
  right : WellFormed t'
  perm : (rows t).Perm (rows t')

/-- The nodes have the same row. -/
structure Twins (t t' : Tree) (a b : Nat) : Prop where
  lt : a < t.size
  lt' : b < t'.size
  row : rowOf t a = rowOf t' b

variable {t t' : Tree} {a b : Nat}

namespace Twins

lemma symm (h : Twins t t' a b) : Twins t' t b a := ⟨h.lt', h.lt, h.row.symm⟩

variable (h : Twins t t' a b)
include h

lemma segments : t.segments a = t'.segments b := congrArg Prod.fst h.row

lemma unlinked : unlinked (t.node a) = unlinked (t'.node b) := congrArg Prod.snd h.row

lemma name : (t.node a).name = (t'.node b).name := by
  have hboth := congrArg Node.name h.unlinked
  rwa [unlinked_name, unlinked_name] at hboth

lemma isDirectory : t.isDirectory a = t'.isDirectory b := by
  have hboth := congrArg Node.isDirectory h.unlinked
  rwa [unlinked_isDirectory, unlinked_isDirectory] at hboth

end Twins

lemma Alike.symm (h : Alike t t') : Alike t' t := ⟨h.right, h.left, h.perm.symm⟩

lemma Alike.of_reordered {seed seed' : Seed} (h : Reordered seed seed')
    (hseed : Tree.ofSeed seed = .ok t) (hseed' : Tree.ofSeed seed' = .ok t') : Alike t t' where
  left := wellFormed_ofSeed hseed
  right := wellFormed_ofSeed hseed'
  perm := by
    rw [rows_ofSeed hseed, rows_ofSeed hseed']
    exact h.tableOf_perm

namespace Alike

variable (h : Alike t t')
include h

lemma exists_twin (ha : a < t.size) : ∃ b, Twins t t' a b := by
  have hmem : rowOf t a ∈ rows t' := h.perm.mem_iff.mp (mem_rows.mpr ⟨a, ha, rfl⟩)
  obtain ⟨b, hb, hrow⟩ := mem_rows.mp hmem
  exact ⟨b, ha, hb, hrow.symm⟩

lemma twins_of_segments (ha : a < t.size) (hb : b < t'.size)
    (hsegments : t.segments a = t'.segments b) : Twins t t' a b := by
  obtain ⟨b', htwins⟩ := h.exists_twin ha
  have hsame := h.right.eq_of_segments htwins.lt' hb (htwins.segments.symm.trans hsegments)
  exact hsame ▸ htwins

lemma twins_root : Twins t t' Tree.root Tree.root := by
  apply h.twins_of_segments h.left.root_lt h.right.root_lt
  rw [h.left.segments_root, h.right.segments_root]

/-! ### Names -/

lemma exists_child (htwins : Twins t t' a b) {child : Nat} (hchild : child ∈ (t.node a).children) :
    ∃ child' ∈ (t'.node b).children, Twins t t' child child' := by
  obtain ⟨child', hboth⟩ := h.exists_twin (h.left.lt_of_mem hchild)
  have hsegments : t'.segments child' = t'.segments b ++ [(t'.node child').name] := by
    rw [← hboth.segments, h.left.segments_of_mem hchild, htwins.segments, hboth.name]
  exact ⟨child', (h.right.mem_children_iff htwins.lt').mpr ⟨hboth.lt', hsegments⟩, hboth⟩

lemma exists_child? (htwins : Twins t t' a b) {name : String} {child : Nat}
    (hchild : t.child? a name = some child) :
    ∃ child', t'.child? b name = some child' ∧ Twins t t' child child' := by
  obtain ⟨hmem, hname⟩ := h.left.child?_eq_some_iff.mp hchild
  obtain ⟨child', hmem', hboth⟩ := h.exists_child htwins hmem
  exact ⟨child', h.right.child?_eq_some_iff.mpr ⟨hmem', hboth.name.symm.trans hname⟩, hboth⟩

lemma rel_child? (htwins : Twins t t' a b) (name : String) :
    Option.Rel (Twins t t') (t.child? a name) (t'.child? b name) := by
  cases hchild : t.child? a name with
  | some child =>
    obtain ⟨child', hchild', hboth⟩ := h.exists_child? htwins hchild
    rw [hchild']
    exact .some hboth
  | none =>
    cases hchild' : t'.child? b name with
    | none => exact .none
    | some child' =>
      obtain ⟨child, hback, -⟩ := h.symm.exists_child? htwins.symm hchild'
      rw [hchild] at hback
      cases hback

lemma rel_childDirectory? (htwins : Twins t t' a b) (name : String) :
    Option.Rel (Twins t t') (t.childDirectory? a name) (t'.childDirectory? b name) :=
  rel_filter (h.rel_child? htwins name) fun _ _ hboth => hboth.isDirectory

lemma rel_directoryAt? (segments : List String) :
    Option.Rel (Twins t t') (t.directoryAt? segments) (t'.directoryAt? segments) := by
  have hfold : ∀ (names : List String) {a b : Nat}, Twins t t' a b →
      Option.Rel (Twins t t') (names.foldlM t.childDirectory? a)
        (names.foldlM t'.childDirectory? b) := by
    intro names
    induction names with
    | nil => exact fun htwins => .some htwins
    | cons name names ih =>
      intro a b htwins
      rw [List.foldlM_cons, List.foldlM_cons]
      exact rel_bind (h.rel_childDirectory? htwins name) fun _ _ hboth => ih hboth
  exact hfold _ h.twins_root

end Alike

/-! ### Paths -/

/-- The places have the same segments and are at twins. -/
structure SamePlace (t t' : Tree) (p q : Place) : Prop where
  segments : p.segments = q.segments
  twins : Twins t t' p.node q.node

namespace Alike

variable (h : Alike t t')
include h

lemma rel_follow {names : List String} {p q : Place} (hplace : SamePlace t t' p q) :
    Option.Rel (SamePlace t t') (t.follow p names) (t'.follow q names) := by
  induction names generalizing p q with
  | nil => exact .some hplace
  | cons name names ih =>
    rw [Tree.follow, Tree.follow]
    by_cases hdot : name = "."
    · rw [if_pos hdot, if_pos hdot]
      exact ih hplace
    · rw [if_neg hdot, if_neg hdot]
      by_cases hdots : name = ".."
      · rw [if_pos hdots, if_pos hdots, hplace.segments]
        exact rel_bind (h.rel_directoryAt? _) fun _ _ hboth => ih ⟨rfl, hboth⟩
      · rw [if_neg hdots, if_neg hdots, hplace.segments]
        refine rel_bind (h.rel_child? hplace.twins name) fun child child' hboth => ?_
        have hnext : SamePlace t t' ⟨child, q.segments ++ [name]⟩ ⟨child', q.segments ++ [name]⟩ :=
          ⟨rfl, hboth⟩
        dsimp only
        rw [hboth.isDirectory]
        split
        · exact ih hnext
        · split
          · exact .some hnext
          · exact .none

theorem rel_resolve (cwd : List String) (user path : String) :
    Option.Rel (SamePlace t t') (t.resolve cwd user path) (t'.resolve cwd user path) := by
  rw [Tree.resolve, Tree.resolve]
  exact rel_bind (h.rel_directoryAt? _) fun _ _ hboth => h.rel_follow ⟨rfl, hboth⟩

end Alike

/-! ### Posts -/

section Attaching

variable {dir dir' : Nat} {name : String} {attributes : Attributes} {entry : Entry}

lemma Twins.attach (htwins : Twins t t' a b) :
    Twins (t.attach dir name attributes entry) (t'.attach dir' name attributes entry) a b where
  lt := by
    rw [size_attach]
    exact Nat.lt_succ_of_lt htwins.lt
  lt' := by
    rw [size_attach]
    exact Nat.lt_succ_of_lt htwins.lt'
  row := by rw [rowOf_attach htwins.lt, rowOf_attach htwins.lt', htwins.row]

lemma Alike.attach (h : Alike t t') (htwins : Twins t t' dir dir') (hdir : t.isDirectory dir)
    (hleaf : ∀ parent, (⟨name, attributes, some parent, entry⟩ : Node).children = [])
    (hnew : t.child? dir name = none) :
    Alike (t.attach dir name attributes entry) (t'.attach dir' name attributes entry) where
  left := h.left.attach hdir (hleaf dir) hnew
  right := by
    have hnew' : t'.child? dir' name = none := by
      have hsome := isSome_eq_of_rel (h.rel_child? htwins name)
      rw [hnew] at hsome
      simpa using hsome
    exact h.right.attach (htwins.isDirectory ▸ hdir) (hleaf dir') hnew'
  perm := by
    rw [rows_attach htwins.lt, rows_attach htwins.lt', htwins.segments]
    exact h.perm.append_right _

end Attaching

namespace Alike

lemma addPost (h : Alike t t') {dir dir' : Nat} (htwins : Twins t t' dir dir') (post : Post)
    (count count' : Nat) :
    Alike (Tree.addPost dir (t, count) post).1 (Tree.addPost dir' (t', count') post).1 ∧
      Twins (Tree.addPost dir (t, count) post).1 (Tree.addPost dir' (t', count') post).1
        dir dir' := by
  have htaken := isSome_eq_of_rel (h.rel_child? htwins post.name)
  unfold Tree.addPost Tree.add
  dsimp only
  rw [htaken, htwins.isDirectory]
  cases hsome : (t.child? dir post.name).isSome with
  | true => exact ⟨h, htwins⟩
  | false =>
    cases hdir : t'.isDirectory dir' with
    | false => exact ⟨h, htwins⟩
    | true =>
      have hnew : t.child? dir post.name = none := by simpa using hsome
      exact ⟨h.attach htwins (htwins.isDirectory.trans hdir) (fun _ => rfl) hnew, htwins.attach⟩

theorem addPosts (h : Alike t t') (user : String) (posts : List Post) :
    Alike (t.addPosts user posts).1 (t'.addPosts user posts).1 := by
  have hfold : ∀ {t t' : Tree} {dir dir' : Nat}, Alike t t' → Twins t t' dir dir' →
      ∀ count count', Alike (posts.foldl (Tree.addPost dir) (t, count)).1
        (posts.foldl (Tree.addPost dir') (t', count')).1 := by
    induction posts with
    | nil => exact fun h _ _ _ => h
    | cons post posts ih =>
      intro t t' dir dir' h htwins count count'
      obtain ⟨hnext, htwins'⟩ := h.addPost htwins post count count'
      rw [List.foldl_cons, List.foldl_cons]
      exact ih hnext htwins' _ _
  unfold Tree.addPosts
  have hblog := h.rel_directoryAt? (Tree.homeOf user ++ ["blog"])
  revert hblog
  generalize t.directoryAt? (Tree.homeOf user ++ ["blog"]) = dir
  generalize t'.directoryAt? (Tree.homeOf user ++ ["blog"]) = dir'
  intro hblog
  cases hblog with
  | none => exact h
  | some htwins => exact hfold h htwins 0 0

end Alike

end SeedShell.Proofs
