import Mathlib.Data.List.FinRange
import SeedShell.Proofs.Planting
import SeedShell.Proofs.Resolution

/-!
# Posts in a blog

Posts become files at the end of a blog, in their order, except those whose name is taken by then.
The nodes that a tree has keep their numbers while it grows, so whatever could be found before is
found where it was.
-/

namespace SeedShell.Proofs

/-! ### What growth leaves alone -/

section Extending

variable {t t' : Tree} {dir : Nat} {ids : List Nat}

namespace Extends

variable (h : Extends t t' dir ids)
include h

lemma parent_eq {id : Nat} (hid : id < t.size) : (t'.node id).parent = (t.node id).parent := by
  by_cases hdir : id = dir
  · rw [hdir, h.directory]
  · rw [h.others id hid hdir]

lemma isDirectory_eq (hdir : t.isDirectory dir) {id : Nat} (hid : id < t.size) :
    t'.isDirectory id = t.isDirectory id := by
  by_cases hsame : id = dir
  · rw [hsame, h.isDirectory_dir, hdir]
  · rw [Tree.isDirectory, h.others id hid hsame, Tree.isDirectory]

lemma mem_children {id child : Nat} (hid : id < t.size) (hchild : child ∈ (t.node id).children) :
    child ∈ (t'.node id).children := by
  by_cases hdir : id = dir
  · subst hdir
    rw [h.children_dir]
    exact List.mem_append_left _ hchild
  · rwa [h.others id hid hdir]

lemma segments_eq {id : Nat} (hid : id < t.size) : t'.segments id = t.segments id := by
  have hnames : t'.names id = t.names id :=
    names_congr (fun _ hi => h.parent_eq hi) (fun _ hi => h.name_eq hi) hid
  rw [Tree.segments, Tree.segments, hnames]

variable (hdir : t.isDirectory dir) (hw : WellFormed t) (hw' : WellFormed t')
include hw hw'

lemma child?_eq {id child : Nat} {name : String} (hid : id < t.size)
    (hchild : t.child? id name = some child) : t'.child? id name = some child := by
  obtain ⟨hmem, hname⟩ := hw.child?_eq_some_iff.mp hchild
  refine hw'.child?_eq_some_iff.mpr ⟨h.mem_children hid hmem, ?_⟩
  rw [h.name_eq (hw.lt_of_mem hmem), hname]

include hdir

lemma directoryAt?_eq {segments : List String} {found : Nat}
    (hfound : t.directoryAt? segments = some found) : t'.directoryAt? segments = some found := by
  obtain ⟨hfoundDir, hnames⟩ := hw.of_directoryAt? hfound
  have hlt : found < t.size := lt_size_of_isDirectory hfoundDir
  have hat := hw'.directoryAt?_segments ((h.isDirectory_eq hdir hlt).trans hfoundDir)
  rwa [h.segments_eq hlt, Tree.directoryAt?, Tree.segments, List.drop_one, List.tail_cons,
    hnames] at hat

lemma follow_eq {names : List String} {here place : Place} (hhere : here.node < t.size)
    (hplace : t.follow here names = some place) : t'.follow here names = some place := by
  induction names generalizing here with
  | nil => exact hplace
  | cons name names ih =>
    rw [Tree.follow] at hplace ⊢
    by_cases hstay : name = "."
    · rw [if_pos hstay] at hplace ⊢
      exact ih hhere hplace
    rw [if_neg hstay] at hplace ⊢
    by_cases hup : name = ".."
    · rw [if_pos hup] at hplace ⊢
      obtain ⟨above, habove, hrest⟩ := Option.bind_eq_some_iff.mp hplace
      have hlt : above < t.size := lt_size_of_isDirectory (hw.of_directoryAt? habove).1
      exact Option.bind_eq_some_iff.mpr
        ⟨above, h.directoryAt?_eq hdir hw hw' habove, ih hlt hrest⟩
    rw [if_neg hup] at hplace ⊢
    obtain ⟨child, hchild, hrest⟩ := Option.bind_eq_some_iff.mp hplace
    have hlt : child < t.size := hw.lt_of_mem (hw.child?_eq_some_iff.mp hchild).1
    refine Option.bind_eq_some_iff.mpr ⟨child, h.child?_eq hw hw' hhere hchild, ?_⟩
    dsimp only at hrest ⊢
    rw [h.isDirectory_eq hdir hlt]
    by_cases hcdir : t.isDirectory child
    · rw [if_pos hcdir] at hrest ⊢
      exact ih hlt hrest
    · rw [if_neg hcdir] at hrest ⊢
      exact hrest

lemma resolve_eq {cwd : List String} {user path : String} {place : Place}
    (hplace : t.resolve cwd user path = some place) : t'.resolve cwd user path = some place := by
  obtain ⟨start, hstart, hfollow⟩ := Option.bind_eq_some_iff.mp hplace
  have hlt : start < t.size := lt_size_of_isDirectory (hw.of_directoryAt? hstart).1
  exact Option.bind_eq_some_iff.mpr
    ⟨start, h.directoryAt?_eq hdir hw hw' hstart, h.follow_eq hdir hw hw' hlt hfollow⟩

end Extends

end Extending

/-! ### Posts -/

/-- The name of the post at `i` is neither taken nor that of an earlier post. -/
def IsNew (taken : List String) (posts : List Post) (i : Fin posts.length) : Prop :=
  posts[i].name ∉ taken ∧ ∀ j < i, posts[j].name ≠ posts[i].name

instance (taken : List String) (posts : List Post) : DecidablePred (IsNew taken posts) :=
  fun _ => inferInstanceAs (Decidable (_ ∧ _))

/-- The posts with a name that is neither taken nor that of an earlier post. -/
def newPosts (taken : List String) (posts : List Post) : List Post :=
  ((List.finRange posts.length).filter (IsNew taken posts)).map posts.get

/-- The file of a post in a directory. -/
def fileOf (dir : Nat) (post : Post) : Node :=
  ⟨post.name, post.attributes, some dir, .file post.content⟩

section New

variable {taken : List String} {post : Post} {posts : List Post}

lemma isNew_zero_iff : IsNew taken (post :: posts) 0 ↔ post.name ∉ taken := by
  simp [IsNew]

lemma isNew_succ_iff {i : Fin posts.length} :
    IsNew taken (post :: posts) i.succ ↔ IsNew (post.name :: taken) posts i := by
  have hearlier : (∀ j < i.succ, (post :: posts)[j].name ≠ posts[i].name) ↔
      post.name ≠ posts[i].name ∧ ∀ j < i, posts[j].name ≠ posts[i].name := by
    rw [Fin.forall_fin_succ]
    simp [Fin.succ_lt_succ_iff]
  refine (and_congr_right fun _ => hearlier).trans ?_
  rw [and_left_comm, ← and_assoc, IsNew, List.mem_cons, not_or, ne_comm]
  rfl

lemma newPosts_cons : newPosts taken (post :: posts) =
    (if post.name ∈ taken then [] else [post]) ++ newPosts (post.name :: taken) posts := by
  have hrange : List.finRange (post :: posts).length =
      0 :: (List.finRange posts.length).map Fin.succ := List.finRange_succ
  have hlater : ((List.finRange posts.length).map Fin.succ).filter (IsNew taken (post :: posts)) =
      ((List.finRange posts.length).filter (IsNew (post.name :: taken) posts)).map Fin.succ := by
    rw [List.filter_map]
    congr 1
    exact List.filter_congr fun i _ => decide_eq_decide.mpr isNew_succ_iff
  rw [newPosts, hrange, List.filter_cons, hlater, newPosts]
  by_cases h : post.name ∈ taken
  · have hold : ¬decide (IsNew taken (post :: posts) 0) = true := by simpa [isNew_zero_iff] using h
    rw [if_neg hold, if_pos h, List.map_map]
    rfl
  · have hnew : decide (IsNew taken (post :: posts) 0) = true := by simpa [isNew_zero_iff] using h
    rw [if_pos hnew, if_neg h, List.map_cons, List.map_map]
    rfl

end New

/-- The posts have become files at the end of a directory. -/
structure Posted (t t' : Tree) (dir : Nat) (posts : List Post) : Prop
    extends Extends t t' dir (List.range' t.size posts.length) where
  wellFormed : WellFormed t'
  size : t'.size = t.size + posts.length
  files : (List.range' t.size posts.length).map t'.node = posts.map (fileOf dir)

section Posting

variable {t u t' : Tree} {dir : Nat} {posts : List Post}

namespace Posted

lemma nil (hw : WellFormed t) (hdir : t.isDirectory dir) : Posted t t dir [] where
  toExtends := .refl hdir
  wellFormed := hw
  size := rfl
  files := rfl

lemma cons {post : Post}
    (hadd : t.add dir post.name post.attributes (.file post.content) = .ok u)
    (h : Posted u t' dir posts) : Posted t t' dir (post :: posts) := by
  obtain ⟨-, hdir, rfl⟩ := add_eq_ok hadd
  have hlt : dir < t.size := lt_size_of_isDirectory hdir
  have hrange : List.range' t.size (post :: posts).length =
      [t.size] ++ List.range' (t.size + 1) posts.length := List.range'_succ
  have hsize : (t.attach dir post.name post.attributes (.file post.content)).size = t.size + 1 :=
    size_attach
  have hextends := (Extends.attach hdir).trans h.toExtends
  have hfiles := h.files
  rw [hsize] at hextends hfiles
  refine ⟨hrange ▸ hextends, h.wellFormed, ?_, ?_⟩
  · rw [h.size, hsize, List.length_cons]
    omega
  · rw [hrange, List.map_append, hfiles, List.map_singleton,
      h.others t.size (by omega) (Nat.ne_of_gt hlt), node_attach_new]
    rfl

end Posted

/-- The posts are added one by one. The names that are taken are those of the old children and of
all posts so far, since a post was only refused where its name was taken. -/
lemma posted_foldl (hw : WellFormed t) (hdir : t.isDirectory dir) {taken : List String}
    (htaken : ∀ name, name ∈ taken ↔ name ∈ childNames t dir) (posts : List Post) (count : Nat) :
    ∃ t', posts.foldl (Tree.addPost dir) (t, count) =
        (t', count + (newPosts taken posts).length) ∧ Posted t t' dir (newPosts taken posts) := by
  induction posts generalizing t taken count with
  | nil => exact ⟨t, rfl, .nil hw hdir⟩
  | cons post posts ih =>
    rw [List.foldl_cons, newPosts_cons, Tree.addPost]
    by_cases hknown : post.name ∈ taken
    · have hadd : ∀ t', t.add dir post.name post.attributes (.file post.content) ≠ .ok t' := by
        intro t' h
        exact ((add_eq_ok_iff hdir).mp h).1 ((htaken _).mp hknown)
      have hsame : ∀ name, name ∈ post.name :: taken ↔ name ∈ childNames t dir := by
        intro name
        rw [List.mem_cons, or_iff_right_of_imp fun h => h ▸ hknown, htaken]
      rw [if_pos hknown, List.nil_append]
      split
      · next t' h => exact absurd h (hadd t')
      · exact ih hw hdir hsame count
    · have hadd : t.add dir post.name post.attributes (.file post.content) =
          .ok (t.attach dir post.name post.attributes (.file post.content)) :=
        (add_eq_ok_iff hdir).mpr ⟨fun h => hknown ((htaken _).mpr h), rfl⟩
      have hplanted := Planted.of_file hw hadd
      have hnames : ∀ name, name ∈ post.name :: taken ↔
          name ∈ childNames (t.attach dir post.name post.attributes (.file post.content)) dir := by
        intro name
        rw [hplanted.childNames_eq hw, List.mem_append, List.mem_cons, htaken, or_comm]
        simp [Seed.name]
      obtain ⟨t', hfold, hposted⟩ :=
        ih hplanted.wellFormed hplanted.isDirectory_dir hnames (count + 1)
      rw [if_neg hknown, hadd, List.singleton_append, List.length_cons]
      refine ⟨t', ?_, hposted.cons hadd⟩
      rw [hfold, Nat.add_assoc, Nat.add_comm 1]

end Posting

/-- What a tree has become, and the count beside it, when posts were appended to a blog. Every
sequence of segments and every path that led to a node before leads to it still. -/
structure Appended (t : Tree) (blog : Nat) (posts : List Post) (grown : Tree × Nat) : Prop
    extends Posted t grown.1 blog posts where
  count : grown.2 = posts.length
  segments : ∀ id < t.size, grown.1.segments id = t.segments id
  directories : ∀ segments dir, t.directoryAt? segments = some dir →
    grown.1.directoryAt? segments = some dir
  paths : ∀ cwd user path place, t.resolve cwd user path = some place →
    grown.1.resolve cwd user path = some place

/-- Where a user has no blog nothing changes. Otherwise exactly those posts are appended to it whose
name is neither that of an old child nor that of an earlier post. -/
theorem addPosts_appends {t : Tree} (hw : WellFormed t) (user : String) (posts : List Post) :
    ((∀ dir, t.isDirectory dir → t.segments dir ≠ Tree.homeOf user ++ ["blog"]) →
      t.addPosts user posts = (t, 0)) ∧
    ∀ blog, t.isDirectory blog → t.segments blog = Tree.homeOf user ++ ["blog"] →
      Appended t blog (newPosts (childNames t blog) posts) (t.addPosts user posts) := by
  constructor
  · intro hnone
    have hat : t.directoryAt? (Tree.homeOf user ++ ["blog"]) = none := by
      rw [Option.eq_none_iff_forall_ne_some]
      intro dir hdir
      exact hnone dir (hw.of_directoryAt? hdir).1 (hw.segments_of_directoryAt? hdir)
    rw [Tree.addPosts, hat]
  · intro blog hblog hsegments
    have hat : t.directoryAt? (Tree.homeOf user ++ ["blog"]) = some blog := by
      rw [← hsegments, hw.directoryAt?_segments hblog]
    obtain ⟨t', hfold, h⟩ := posted_foldl hw hblog (fun _ => Iff.rfl) posts 0
    have hgrown : t.addPosts user posts = (t', (newPosts (childNames t blog) posts).length) := by
      rw [Tree.addPosts, hat]
      dsimp only
      rw [hfold, Nat.zero_add]
    rw [hgrown]
    exact
      { h with
        count := rfl
        segments := fun _ hid => h.segments_eq hid
        directories := fun _ _ hdir => h.directoryAt?_eq hblog hw h.wellFormed hdir
        paths := fun _ _ _ _ hplace => h.resolve_eq hblog hw h.wellFormed hplace }

/-- A post is new to a blog that has another one already, and new only once. A user without a blog
gets none. -/
theorem addPosts_appends_once :
    let posted := (sampleTree.addPosts "ada" [samplePost]).1
    let second : Post := { samplePost with name := "second.md" }
    WellFormed posted ∧ posted.isDirectory 3 ∧
      posted.segments 3 = ["/", "home", "ada", "blog"] ∧
      Appended posted 3 [second]
        (posted.addPosts "ada" [samplePost, second, { second with content := [] }]) ∧
      posted.addPosts "bob" [second] = (posted, 0) := by
  intro posted second
  have hw : WellFormed posted := (wellFormed_ofSeed ofSeed_sampleSeed).addPosts "ada" [samplePost]
  have hdir : posted.isDirectory 3 := by decide
  have hsegments : posted.segments 3 = ["/", "home", "ada", "blog"] := by cbv
  have hnew : newPosts (childNames posted 3) [samplePost, second, { second with content := [] }] =
      [second] := by decide
  have happended := (addPosts_appends hw "ada"
    [samplePost, second, { second with content := [] }]).2 3 hdir hsegments
  rw [hnew] at happended
  refine ⟨hw, hdir, hsegments, happended, ?_⟩
  refine (addPosts_appends hw "bob" [second]).1 fun dir hdir hblog => ?_
  have hat := hw.directoryAt?_segments hdir
  have hnone : posted.directoryAt? (Tree.homeOf "bob" ++ ["blog"]) = none := by decide
  rw [hblog, hnone] at hat
  cases hat

end SeedShell.Proofs
