import SeedShell.Proofs.Paths
import SeedShell.Proofs.ScriptRuns

/-!
# Where a session stands

In every reachable session the current directory is one of the tree, whatever was stored before
the start. It is shown in three ways: with a slash at its end, with a tilde for the home of the
user, and as the path of its node. In a tree whose names can stand in a path, each of them leads
back to it.
-/

namespace SeedShell.Proofs

open Session

/-! ### Names in paths -/

/-- A name that can stand between the slashes of a path for the entry that has it. -/
structure IsPathName (name : String) : Prop where
  nonempty : name ≠ ""
  slash : '/' ∉ name.toList
  ne_dot : name ≠ "."
  ne_dots : name ≠ ".."

instance (name : String) : Decidable (IsPathName name) :=
  decidable_of_iff (name ≠ "" ∧ '/' ∉ name.toList ∧ name ≠ "." ∧ name ≠ "..")
    ⟨fun ⟨h₁, h₂, h₃, h₄⟩ => ⟨h₁, h₂, h₃, h₄⟩, fun ⟨h₁, h₂, h₃, h₄⟩ => ⟨h₁, h₂, h₃, h₄⟩⟩

/-- Every name but that of the root can stand in a path. -/
def PathNames (t : Tree) : Prop :=
  ∀ id < t.size, id ≠ Tree.root → IsPathName (t.node id).name

instance (t : Tree) : Decidable (PathNames t) :=
  inferInstanceAs (Decidable (∀ id < t.size, _ → _))

/-- A slash ends one component and begins another. -/
lemma components_slash (a b : String) :
    components (a ++ "/" ++ b) = components a ++ components b := by
  have hchars : a ++ "/" ++ b = String.ofList (a.toList ++ '/' :: b.toList) := by
    rw [← String.toList_inj]
    simp
  rw [hchars, components_append_slash, String.ofList_toList, String.ofList_toList]

lemma IsPathName.components_eq {name : String} (h : IsPathName name) :
    components name = [name] := by
  have hchars : name.toList ≠ [] := by
    intro hnil
    apply h.nonempty
    rw [← String.toList_inj, hnil]
    rfl
  have hname := components_name h.slash hchars
  rwa [String.ofList_toList] at hname

/-- Names that are joined by slashes are the components again. -/
lemma components_join {names : List String} (h : ∀ name ∈ names, IsPathName name) :
    components (Text.join "/" names) = names := by
  induction names with
  | nil => rfl
  | cons name names ih =>
    have hname : components name = [name] := (h name List.mem_cons_self).components_eq
    have htail : ∀ other ∈ names, IsPathName other := by
      intro other hother
      exact h other (List.mem_cons_of_mem name hother)
    cases names with
    | nil => exact hname
    | cons next rest =>
      have hjoin : Text.join "/" (name :: next :: rest) =
          name ++ "/" ++ Text.join "/" (next :: rest) := String.intercalate_cons_cons
      rw [hjoin, components_slash, hname, ih htail]
      rfl

/-! ### From the root to a node -/

section Trees

variable {t : Tree} {cwd : List String} {user : String}

lemma resolve_absolute (text : String) :
    t.resolve cwd user ("/" ++ text) = t.follow ⟨Tree.root, ["/"]⟩ (components text) := by
  have hchars : "/" ++ text = String.ofList ('/' :: text.toList) := by
    rw [← String.toList_inj]
    simp
  rw [hchars, resolve_of_root, String.ofList_toList]

namespace WellFormed

variable (hw : WellFormed t)
include hw

lemma isPathName_of_mem_names (hnames : PathNames t) {id : Nat} (hid : id < t.size) :
    ∀ name ∈ t.names id, IsPathName name := by
  induction id using Nat.strongRecOn with
  | ind id ih =>
    intro name hname
    cases hparent : (t.node id).parent with
    | none =>
      rw [names_of_parent_none hparent] at hname
      cases hname
    | some parent =>
      have hlt : parent < id := (hw.of_parent hid hparent).1
      rw [hw.names_of_parent hid hparent] at hname
      rcases List.mem_append.mp hname with habove | hlast
      · exact ih parent hlt (Nat.lt_trans hlt hid) name habove
      · obtain rfl := List.mem_singleton.mp hlast
        have hroot : id ≠ Tree.root := Nat.ne_of_gt (Nat.zero_lt_of_lt hlt)
        exact hnames id hid hroot

/-- The names of a node lead from the root to it. -/
lemma follow_names {id : Nat} (hid : id < t.size)
    (hnames : ∀ name ∈ t.names id, IsPathName name) :
    t.follow ⟨Tree.root, ["/"]⟩ (t.names id) = some ⟨id, t.segments id⟩ := by
  induction id using Nat.strongRecOn with
  | ind id ih =>
    cases hparent : (t.node id).parent with
    | none =>
      obtain rfl := hw.root_of_parent_none hid hparent
      rw [names_of_parent_none hparent, hw.segments_root, Tree.follow]
    | some parent =>
      obtain ⟨hlt, hdir, -⟩ := hw.of_parent hid hparent
      have hmem : id ∈ (t.node parent).children := hw.mem_of_parent hid hparent
      have heq : t.names id = t.names parent ++ [(t.node id).name] :=
        hw.names_of_parent hid hparent
      rw [heq] at hnames
      have habove : ∀ name ∈ t.names parent, IsPathName name := by
        intro name hname
        exact hnames name (List.mem_append_left _ hname)
      have hlast : IsPathName (t.node id).name := by
        apply hnames
        exact List.mem_append_right _ List.mem_cons_self
      have hchild : t.child? parent (t.node id).name = some id :=
        hw.child?_eq_some_iff.mpr ⟨hmem, rfl⟩
      have hfirst := ih parent hlt (Nat.lt_trans hlt hid) habove
      rw [heq, hw.follow_append hw.root_directory, hfirst, Option.bind_some, onward, if_pos hdir,
        follow_singleton hlast.ne_dot hlast.ne_dots, hchild, hw.segments_of_mem hmem]
      rfl

/-- The names below a directory lead from there to a node. -/
lemma follow_names_below {dir id : Nat} (hdir : t.isDirectory dir) (hid : id < t.size)
    (hnames : ∀ name ∈ t.names id, IsPathName name) {below : List String}
    (h : t.names id = t.names dir ++ below) :
    t.follow ⟨dir, t.segments dir⟩ below = some ⟨id, t.segments id⟩ := by
  have habove : ∀ name ∈ t.names dir, IsPathName name := by
    intro name hname
    apply hnames
    rw [h]
    exact List.mem_append_left _ hname
  have hwhole := hw.follow_names hid hnames
  rw [h, hw.follow_append hw.root_directory,
    hw.follow_names (lt_size_of_isDirectory hdir) habove, Option.bind_some, onward,
    if_pos hdir] at hwhole
  exact hwhole

/-- The path of a node leads to it from wherever one stands. -/
lemma resolve_path {id : Nat} (hid : id < t.size)
    (hnames : ∀ name ∈ t.names id, IsPathName name) :
    t.resolve cwd user (t.path id) = some ⟨id, t.segments id⟩ := by
  rw [Tree.path, resolve_absolute, components_join hnames]
  exact hw.follow_names hid hnames

/-- A tilde stands for the home of the user, and what is behind it for the names below that. -/
lemma resolve_below_home {id : Nat} (hid : id < t.size) (hdir : t.isDirectory id)
    (hnames : ∀ name ∈ t.names id, IsPathName name) {below : List String}
    (h : t.names id = "home" :: user :: below) :
    t.resolve cwd user (if below = [] then "~" else "~/" ++ Text.join "/" below) =
      some ⟨id, t.segments id⟩ := by
  obtain ⟨home, hhome⟩ : ∃ home, t.directoryAt? (Tree.homeOf user) = some home := by
    have hat := hw.directoryAt?_segments hdir
    have hnamesOf : (t.segments id).drop 1 = ["home", user] ++ below := h
    rw [Tree.directoryAt?, hnamesOf, List.foldlM_append] at hat
    obtain ⟨home, hhome, -⟩ := Option.bind_eq_some_iff.mp hat
    exact ⟨home, hhome⟩
  obtain ⟨hhomeDir, hhomeNames⟩ := hw.of_directoryAt? hhome
  have hsegments : t.segments home = Tree.homeOf user := hw.segments_of_directoryAt? hhome
  have hbelow : t.follow ⟨home, Tree.homeOf user⟩ below = some ⟨id, t.segments id⟩ := by
    rw [← hsegments]
    apply hw.follow_names_below hhomeDir hid hnames
    rw [h, hhomeNames]
    rfl
  have hcomponents : components (Text.join "/" below) = below := by
    apply components_join
    intro name hname
    apply hnames
    rw [h]
    exact List.mem_cons_of_mem _ (List.mem_cons_of_mem _ hname)
  split
  · next hnil =>
    rw [hnil] at hbelow
    rw [Tree.resolve, start_of_tilde]
    simp only [hhome, Option.bind_eq_bind, Option.bind_some]
    exact hbelow
  · have hchars : "~/" ++ Text.join "/" below =
        String.ofList ('~' :: '/' :: (Text.join "/" below).toList) := by
      rw [← String.toList_inj]
      simp
    have hrest : components (String.ofList ('/' :: (Text.join "/" below).toList)) = below := by
      have hslash := components_append_slash [] (Text.join "/" below).toList
      rwa [List.nil_append, components_nil, List.nil_append, String.ofList_toList,
        hcomponents] at hslash
    rw [hchars, Tree.resolve, start_of_home]
    simp only [hhome, hrest, Option.bind_eq_bind, Option.bind_some]
    exact hbelow

end WellFormed

end Trees

/-! ### The current directory as it is shown -/

section Showing

variable {σ : Type} {s : Session σ} {names : List String}

lemma pwd_of_cwd (hcwd : s.cwd = "/" :: names) :
    s.pwd = if names = [] then "/" else "/" ++ (Text.join "/" names ++ "/" ++ "") := by
  rw [pwd, hcwd]
  cases names with
  | nil => rfl
  | cons name rest => simp [String.append_assoc]

lemma shownPath_of_not_home (hcwd : s.cwd = "/" :: names)
    (hhome : names.take 2 ≠ ["home", s.user]) :
    s.shownPath = "/" ++ Text.join "/" names := by
  rw [shownPath, hcwd]
  cases names with
  | nil => rfl
  | cons name rest => rw [if_neg (by simp), List.drop_one, List.tail_cons, if_neg hhome]

lemma shownPath_below_home {below : List String} (hcwd : s.cwd = "/" :: "home" :: s.user :: below) :
    s.shownPath = if below = [] then "~" else "~/" ++ Text.join "/" below := by
  rw [shownPath, hcwd]
  cases below with
  | nil => simp
  | cons name rest => simp

end Showing

/-! ### Back from what is shown -/

section Sessions

variable {σ : Type} [KeyValueStore σ] {s : Session σ} (hs : Reachable s)
include hs

lemma Reachable.segments_cwdNode : s.tree.segments s.cwdNode = s.cwd := by
  obtain ⟨dir, hdir, hcwd⟩ := hs.wellFormed.isPlace_iff.mp hs.grown_and_isPlace.2
  have hat := hs.directoryAt?_cwd
  rw [← hcwd, hs.wellFormed.directoryAt?_segments hdir] at hat
  rw [← Option.some.inj hat, hcwd]

section Names

variable (hnames : PathNames s.tree)
include hnames

lemma Reachable.isPathName_of_mem_names :
    ∀ name ∈ s.tree.names s.cwdNode, IsPathName name :=
  hs.wellFormed.isPathName_of_mem_names hnames (lt_size_of_isDirectory hs.isDirectory_cwdNode)

lemma Reachable.resolve?_path : s.resolve? (s.tree.path s.cwdNode) = some s.cwdNode := by
  have hlt : s.cwdNode < s.tree.size := lt_size_of_isDirectory hs.isDirectory_cwdNode
  rw [resolve?, hs.wellFormed.resolve_path hlt (hs.isPathName_of_mem_names hnames),
    Option.map_some]

/-- A slash at the end adds no component. -/
lemma Reachable.resolve?_pwd : s.resolve? s.pwd = some s.cwdNode := by
  have hcwd : s.cwd = "/" :: s.tree.names s.cwdNode := hs.segments_cwdNode.symm
  have hpath := hs.resolve?_path hnames
  have hjoin := components_join (hs.isPathName_of_mem_names hnames)
  rw [Tree.path, resolve?, resolve_absolute, hjoin] at hpath
  rw [pwd_of_cwd hcwd]
  split
  · next hnil =>
    rw [hnil] at hpath
    exact hpath
  · rw [resolve?, resolve_absolute, components_slash, hjoin]
    have hempty : components "" = [] := rfl
    rwa [hempty, List.append_nil]

lemma Reachable.resolve?_shownPath : s.resolve? s.shownPath = some s.cwdNode := by
  have hcwd : s.cwd = "/" :: s.tree.names s.cwdNode := hs.segments_cwdNode.symm
  by_cases hhome : (s.tree.names s.cwdNode).take 2 = ["home", s.user]
  · obtain ⟨below, hbelow⟩ : ∃ below, s.tree.names s.cwdNode = "home" :: s.user :: below := by
      refine ⟨(s.tree.names s.cwdNode).drop 2, ?_⟩
      have hsplit := List.take_append_drop 2 (s.tree.names s.cwdNode)
      rw [hhome] at hsplit
      exact hsplit.symm
    have hlt : s.cwdNode < s.tree.size := lt_size_of_isDirectory hs.isDirectory_cwdNode
    have hpathNames := hs.isPathName_of_mem_names hnames
    rw [hbelow] at hcwd
    rw [shownPath_below_home hcwd, resolve?,
      hs.wellFormed.resolve_below_home hlt hs.isDirectory_cwdNode hpathNames hbelow,
      Option.map_some]
  · rw [shownPath_of_not_home hcwd hhome]
    exact hs.resolve?_path hnames

end Names

/-- A session stands in a directory of its tree, the one whose segments it holds, and where names
can stand in paths each way to show that directory leads back to it. -/
theorem shown_place_leads_back :
    s.cwd.head? = some "/" ∧ s.tree.directoryAt? s.cwd = some s.cwdNode ∧
      s.cwdNode < s.tree.size ∧ s.tree.isDirectory s.cwdNode ∧
      s.tree.segments s.cwdNode = s.cwd ∧
      (PathNames s.tree → s.resolve? s.pwd = some s.cwdNode ∧
        s.resolve? s.shownPath = some s.cwdNode ∧
        s.resolve? (s.tree.path s.cwdNode) = some s.cwdNode) := by
  have hhead : s.cwd.head? = some "/" := by
    rw [← hs.segments_cwdNode]
    rfl
  refine ⟨hhead, hs.directoryAt?_cwd, lt_size_of_isDirectory hs.isDirectory_cwdNode,
    hs.isDirectory_cwdNode, hs.segments_cwdNode, fun hnames => ⟨?_, ?_, ?_⟩⟩
  · exact hs.resolve?_pwd hnames
  · exact hs.resolve?_shownPath hnames
  · exact hs.resolve?_path hnames

end Sessions

/-- The tilde is gone once the user is another one, and both ways to write the place lead to it. -/
theorem shown_place_leads_back_switched :
    let inside : Session Memory :=
      (after (.ofSession scriptSession) [.submit "cd docs"]).session
    let switched : Session Memory :=
      (after (.ofSession scriptSession) [.submit "cd docs", .submit "su - bob"]).session
    (Reachable inside ∧ PathNames inside.tree ∧
      inside.shownPath = "~/docs" ∧ inside.resolve? "~/docs" = some 4) ∧
    Reachable switched ∧ PathNames switched.tree ∧
      switched.shownPath = "/home/ada/docs" ∧ switched.resolve? "/home/ada/docs" = some 4 ∧
      switched.resolve? "~/docs" = none := by
  intro inside switched
  have hreachable : ∀ ops, Reachable (after (.ofSession scriptSession) ops).session := fun ops =>
    ⟨{ defaultUser := "ada" }, scriptSeed, [], .empty, id, .ofSession scriptSession, ops,
      boot_eq_ok_iff.mpr ⟨scriptTree, ofSeed_scriptSeed, rfl⟩, rfl⟩
  have hinside : inside.shownPath = "~/docs" := by decide +kernel
  have hswitched : switched.shownPath = "/home/ada/docs" := by decide +kernel
  have hnames : PathNames inside.tree := by decide +kernel
  have hnames' : PathNames switched.tree := by decide +kernel
  obtain ⟨-, -, -, -, -, hback⟩ := shown_place_leads_back (hreachable [.submit "cd docs"])
  obtain ⟨-, -, -, -, -, hback'⟩ :=
    shown_place_leads_back (hreachable [.submit "cd docs", .submit "su - bob"])
  obtain ⟨-, hshown, -⟩ := hback hnames
  obtain ⟨-, hshown', -⟩ := hback' hnames'
  have hnode : inside.cwdNode = 4 := by decide +kernel
  have hnode' : switched.cwdNode = 4 := by decide +kernel
  refine ⟨⟨hreachable _, hnames, hinside, ?_⟩, hreachable _, hnames', hswitched, ?_,
    by decide +kernel⟩
  · rw [← hinside, hshown, hnode]
  · rw [← hswitched, hshown', hnode']

end SeedShell.Proofs
