import SeedShell.Proofs.Descent
import SeedShell.Tree.Path

/-!
# Resolution as a walk

The resolver keeps a list of segments and looks it up again at every `..`. Here a path is walked
over node numbers instead: `..` follows the parent link and a name goes to the child of that name.
On a grown tree both lead to the same node, and the segments are those of that node.
-/

namespace SeedShell.Proofs

/-- The node under the root's `home` with the name of a user. -/
def homeNode? (t : Tree) (user : String) : Option Nat :=
  (t.childDirectory? Tree.root "home").bind (t.childDirectory? · user)

/-- Walks from a directory. A file may only be reached at the end. -/
def walk (t : Tree) : Nat → List String → Option Nat
  | here, [] => some here
  | here, name :: rest =>
    if name = "." then walk t here rest
    else if name = ".." then walk t ((t.node here).parent.getD here) rest
    else
      match t.child? here name with
      | none => none
      | some child =>
        if t.isDirectory child then walk t child rest
        else if rest = [] then some child
        else none

/-- Walks a path from the root, from a home without the tilde, or from a directory. -/
def walkPath (t : Tree) (dir : Nat) (user path : String) : Option Nat :=
  if Text.hasPrefix "/" path then walk t Tree.root (components path)
  else if path = "~" ∨ Text.hasPrefix "~/" path then
    (homeNode? t user).bind fun home => walk t home (components path).tail
  else walk t dir (components path)

/-! ### Components after a tilde -/

/-- The tilde is a component of its own. -/
lemma components_tail_of_tilde {path : String}
    (h : path = "~" ∨ Text.hasPrefix "~/" path) :
    (components path).tail = components (String.ofList (path.toList.drop 1)) := by
  obtain ⟨cs, hpath, hcs⟩ : ∃ cs, path.toList = '~' :: cs ∧ (cs = [] ∨ ∃ rest, cs = '/' :: rest) := by
    rcases h with rfl | h
    · exact ⟨[], by decide, .inl rfl⟩
    · obtain ⟨rest, hrest⟩ := List.isPrefixOf_iff_prefix.mp h
      exact ⟨'/' :: rest, hrest.symm, .inr ⟨rest, rfl⟩⟩
  have htilde : Text.splitChars (· == '/') ('~' :: cs) =
      ['~'] :: (Text.splitChars (· == '/') cs).tail := by
    rcases hcs with rfl | ⟨rest, rfl⟩ <;> simp [Text.splitChars]
  have hempty : Text.splitChars (· == '/') cs = [] :: (Text.splitChars (· == '/') cs).tail := by
    rcases hcs with rfl | ⟨rest, rfl⟩ <;> simp [Text.splitChars]
  unfold components Text.split
  rw [String.toList_ofList, hpath, List.drop_one, List.tail_cons, htilde, hempty]
  simp

/-! ### Segments and nodes -/

variable {t : Tree}

lemma directoryAt?_homeOf (user : String) :
    t.directoryAt? (Tree.homeOf user) = homeNode? t user := by
  simp [Tree.directoryAt?, Tree.homeOf, homeNode?, Option.bind_eq_bind]

namespace WellFormed

variable (hw : WellFormed t)
include hw

lemma segments_root : t.segments Tree.root = ["/"] := by
  rw [Tree.segments, names_of_parent_none hw.root_parent]

lemma segments_of_mem {dir child : Nat} (h : child ∈ (t.node dir).children) :
    t.segments child = t.segments dir ++ [(t.node child).name] := by
  rw [Tree.segments, Tree.segments, hw.names_of_mem h, List.cons_append]

lemma childDirectory?_eq_some_iff {dir child : Nat} {name : String} :
    t.childDirectory? dir name = some child ↔
      child ∈ (t.node dir).children ∧ (t.node child).name = name ∧ t.isDirectory child := by
  unfold Tree.childDirectory?
  rw [Option.filter_eq_some_iff, hw.child?_eq_some_iff, and_assoc]

/-- The segments of a directory lead to it. -/
lemma directoryAt?_segments {dir : Nat} (hdir : t.isDirectory dir) :
    t.directoryAt? (t.segments dir) = some dir := by
  unfold Tree.directoryAt? Tree.segments
  rw [List.drop_one, List.tail_cons]
  induction dir using Nat.strongRecOn with
  | ind dir ih =>
    have hlt := lt_size_of_isDirectory hdir
    cases hparent : (t.node dir).parent with
    | none =>
      rw [names_of_parent_none hparent, hw.root_of_parent_none hlt hparent]
      rfl
    | some parent =>
      obtain ⟨hbefore, hpdir, _⟩ := hw.of_parent hlt hparent
      have hchild : t.childDirectory? parent (t.node dir).name = some dir :=
        hw.childDirectory?_eq_some_iff.mpr ⟨hw.mem_of_parent hlt hparent, rfl, hdir⟩
      rw [hw.names_of_parent hlt hparent, List.foldlM_append, ih parent hbefore hpdir]
      simp [hchild]

lemma of_foldlM_childDirectory? {names : List String} {dir target : Nat}
    (hdir : t.isDirectory dir) (h : names.foldlM t.childDirectory? dir = some target) :
    t.isDirectory target ∧ t.names target = t.names dir ++ names := by
  induction names generalizing dir with
  | nil =>
    obtain rfl : dir = target := Option.some.inj h
    exact ⟨hdir, (List.append_nil _).symm⟩
  | cons name names ih =>
    rw [List.foldlM_cons] at h
    obtain ⟨child, hchild, hrest⟩ := Option.bind_eq_some_iff.mp h
    obtain ⟨hmem, hname, hcdir⟩ := hw.childDirectory?_eq_some_iff.mp hchild
    obtain ⟨htarget, hnames⟩ := ih hcdir hrest
    refine ⟨htarget, ?_⟩
    rw [hnames, hw.names_of_mem hmem, hname, List.append_assoc, List.singleton_append]

/-- Segments that lead to a directory are its own, up to the first one. -/
lemma of_directoryAt? {segments : List String} {dir : Nat}
    (h : t.directoryAt? segments = some dir) :
    t.isDirectory dir ∧ t.names dir = segments.drop 1 := by
  have hroot := names_of_parent_none hw.root_parent
  have hfold := hw.of_foldlM_childDirectory? hw.root_directory h
  rwa [hroot, List.nil_append] at hfold

lemma segments_of_directoryAt? {names : List String} {dir : Nat}
    (h : t.directoryAt? ("/" :: names) = some dir) : t.segments dir = "/" :: names := by
  rw [Tree.segments, (hw.of_directoryAt? h).2]
  rfl

/-- One segment less is the parent. -/
lemma up_segments {dir : Nat} (hdir : t.isDirectory dir) :
    Tree.up (t.segments dir) = t.segments ((t.node dir).parent.getD dir) := by
  have hlt := lt_size_of_isDirectory hdir
  cases hparent : (t.node dir).parent with
  | none =>
    rw [hw.root_of_parent_none hlt hparent, Option.getD_none, hw.segments_root]
    rfl
  | some parent =>
    rw [hw.segments_of_mem (hw.mem_of_parent hlt hparent), Option.getD_some]
    unfold Tree.up
    rw [List.dropLast_concat, if_pos (by simp [Tree.segments])]

lemma isDirectory_parent {dir : Nat} (hdir : t.isDirectory dir) :
    t.isDirectory ((t.node dir).parent.getD dir) := by
  cases hparent : (t.node dir).parent with
  | none => exact hdir
  | some parent => exact (hw.of_parent (lt_size_of_isDirectory hdir) hparent).2.1

/-! ### The two ways along a path -/

lemma follow_eq_walk {here : Nat} (hdir : t.isDirectory here) (names : List String) :
    t.follow ⟨here, t.segments here⟩ names =
      (walk t here names).map fun node => ⟨node, t.segments node⟩ := by
  induction names generalizing here with
  | nil => rfl
  | cons name rest ih =>
    rw [Tree.follow, walk]
    by_cases hstay : name = "."
    · rw [if_pos hstay, if_pos hstay, ih hdir]
    rw [if_neg hstay, if_neg hstay]
    by_cases hup : name = ".."
    · have hparent := hw.isDirectory_parent hdir
      rw [if_pos hup, if_pos hup, hw.up_segments hdir, hw.directoryAt?_segments hparent,
        ← ih hparent]
      rfl
    rw [if_neg hup, if_neg hup]
    cases hchild : t.child? here name with
    | none => rfl
    | some child =>
      obtain ⟨hmem, hname⟩ := hw.child?_eq_some_iff.mp hchild
      have hsegments : t.segments here ++ [name] = t.segments child := by
        rw [hw.segments_of_mem hmem, hname]
      simp only [hsegments, Option.bind_eq_bind, Option.bind_some]
      by_cases hcdir : t.isDirectory child
      · rw [if_pos hcdir, if_pos hcdir, ih hcdir]
      · rw [if_neg hcdir, if_neg hcdir]
        split <;> rfl

/-- Every place that a path leads to comes with the segments of its node. -/
lemma segments_of_resolve {dir : Nat} {user path : String} {place : Place}
    (h : t.resolve (t.segments dir) user path = some place) :
    t.segments place.node = place.segments := by
  obtain ⟨names, rest, hstart⟩ : ∃ names rest,
      Tree.start (t.segments dir) user path = ("/" :: names, rest) := by
    unfold Tree.start
    split
    · exact ⟨[], path, rfl⟩
    · split
      · exact ⟨["home", user], _, rfl⟩
      · exact ⟨t.names dir, path, rfl⟩
  rw [Tree.resolve, hstart] at h
  obtain ⟨here, hhere, hfollow⟩ := Option.bind_eq_some_iff.mp h
  rw [← hw.segments_of_directoryAt? hhere, hw.follow_eq_walk (hw.of_directoryAt? hhere).1]
    at hfollow
  obtain ⟨node, -, rfl⟩ := Option.map_eq_some_iff.mp hfollow
  rfl

end WellFormed

/-- From the segments of a directory of a grown tree, a path resolves exactly where the walk ends,
and to the segments of that node. -/
theorem resolve_eq_walkPath (h : Grown t) {dir : Nat} (hdir : t.isDirectory dir)
    (user path : String) : t.resolve (t.segments dir) user path =
      (walkPath t dir user path).map fun node => ⟨node, t.segments node⟩ := by
  have hw := h.wellFormed
  unfold Tree.resolve Tree.start walkPath
  by_cases hroot : Text.hasPrefix "/" path
  · have hat : t.directoryAt? ["/"] = some Tree.root := rfl
    rw [if_pos hroot, if_pos hroot, ← hw.follow_eq_walk hw.root_directory, hw.segments_root]
    simp only [hat, Option.bind_eq_bind, Option.bind_some]
  rw [if_neg hroot, if_neg hroot]
  by_cases hhome : path = "~" ∨ Text.hasPrefix "~/" path
  · rw [if_pos hhome, if_pos hhome, components_tail_of_tilde hhome, ← directoryAt?_homeOf]
    cases hat : t.directoryAt? (Tree.homeOf user) with
    | none => simp only [hat, Option.bind_eq_bind, Option.bind_none, Option.map_none]
    | some home =>
      have hsegments : t.segments home = Tree.homeOf user := hw.segments_of_directoryAt? hat
      have hfollow := hw.follow_eq_walk (hw.of_directoryAt? hat).1
      rw [hsegments] at hfollow
      simp only [hat, Option.bind_eq_bind, Option.bind_some, hfollow]
  · rw [if_neg hhome, if_neg hhome, ← hw.follow_eq_walk hdir]
    simp only [hw.directoryAt?_segments hdir, Option.bind_eq_bind, Option.bind_some]

/-- Up from the blog and down to a file beside it. -/
theorem resolve_eq_walkPath_file : Grown sampleTree ∧ sampleTree.isDirectory 3 ∧
    sampleTree.resolve ["/", "home", "ada", "blog"] "bob" ".././/a b/" =
      some ⟨4, ["/", "home", "ada", "a b"]⟩ := by
  have hgrown : Grown sampleTree := .ofSeed ofSeed_sampleSeed
  have hcwd : sampleTree.segments 3 = ["/", "home", "ada", "blog"] := by cbv
  have htarget : sampleTree.segments 4 = ["/", "home", "ada", "a b"] := by cbv
  have hwalk : walkPath sampleTree 3 "bob" ".././/a b/" = some 4 := by decide
  refine ⟨hgrown, rfl, ?_⟩
  rw [← hcwd, resolve_eq_walkPath hgrown rfl, hwalk, Option.map_some, htarget]

end SeedShell.Proofs
