import Mathlib.Data.Set.Function
import SeedShell.Proofs.Entering
import SeedShell.Proofs.Places
import SeedShell.Proofs.Twins

/-!
# Paths and what they lead to

A path of two parts with a slash between them leads where the second part leads from the end of the
first. So directories are entered step by step as they are entered at once, and `..` undoes the
step into a child. The segments of a node belong to no other node, and lead back to it where it is
a directory; its path does so if its names can stand in a path.
-/

namespace SeedShell.Proofs

open Session

/-! ### Paths of two parts -/

/-- Where a path leads from a place. From a file only a path without components leads anywhere. -/
def resolveFrom (t : Tree) (user : String) (place : Place) (path : String) : Option Place :=
  if t.isDirectory place.node then t.resolve place.segments user path
  else if components path = [] then some place
  else none

section Trees

variable {t : Tree} {user p q : String}

lemma toList_join (p q : String) :
    p ++ "/" ++ q = String.ofList (p.toList ++ '/' :: q.toList) := by
  rw [← String.toList_inj]
  simp

namespace WellFormed

variable (hw : WellFormed t)
include hw

lemma resolve_relative {dir : Nat} (hdir : t.isDirectory dir) (user : String)
    (hp : IsRelative p.toList) :
    t.resolve (t.segments dir) user p = t.follow ⟨dir, t.segments dir⟩ (components p) := by
  have hchars : t.resolve (t.segments dir) user (String.ofList p.toList) =
      t.follow ⟨dir, t.segments dir⟩ (components (String.ofList p.toList)) :=
    resolve_of_isRelative hp (hw.directoryAt?_segments hdir)
  rwa [String.ofList_toList] at hchars

lemma onward_eq_resolveFrom {place : Place} (hplace : t.segments place.node = place.segments)
    (hq : IsRelative q.toList) : onward t place (components q) = resolveFrom t user place q := by
  rw [onward, resolveFrom, ← hplace]
  by_cases hdir : t.isDirectory place.node
  · rw [if_pos hdir, if_pos hdir, hw.resolve_relative hdir user hq, hplace]
  · rw [if_neg hdir, if_neg hdir]

lemma resolve_join {dir : Nat} (hp : p ≠ "") (hq : IsRelative q.toList) :
    t.resolve (t.segments dir) user (p ++ "/" ++ q) =
      (t.resolve (t.segments dir) user p).bind (resolveFrom t user · q) := by
  have hempty : p.toList ≠ [] := by
    intro hnil
    apply hp
    rw [← String.toList_inj, hnil]
    rfl
  rw [toList_join, hw.resolve_append_slash hempty, String.ofList_toList, String.ofList_toList]
  cases hplace : t.resolve (t.segments dir) user p with
  | none => rfl
  | some place => exact hw.onward_eq_resolveFrom (hw.segments_of_resolve hplace) hq

/-- The way up from a child leads to its directory. -/
lemma resolve_up {dir child : Nat} (hdir : t.isDirectory dir) (hchild : t.isDirectory child)
    (hmem : child ∈ (t.node dir).children) :
    t.resolve (t.segments child) user ".." = some ⟨dir, t.segments dir⟩ := by
  have hup : Tree.up (t.segments child) = t.segments dir := by
    rw [hw.up_segments hchild, hw.parent_of_mem hmem, Option.getD_some]
  have hrelative : IsRelative "..".toList := by decide
  have hcomponents : components ".." = [".."] := by decide
  rw [hw.resolve_relative hchild user hrelative, hcomponents, follow_dots, hup,
    hw.directoryAt?_segments hdir, Option.map_some]

/-- The name of a child leads to it, be it a directory or a file. -/
lemma resolve_child {dir child : Nat} (hdir : t.isDirectory dir)
    (hmem : child ∈ (t.node dir).children) (hname : IsPathName (t.node child).name)
    (htilde : (t.node child).name ≠ "~") :
    t.resolve (t.segments dir) user (t.node child).name = some ⟨child, t.segments child⟩ := by
  have hrelative : IsRelative (t.node child).name.toList := by
    have hhead : ∀ rest : List Char, '/' ∈ '~' :: '/' :: rest := by simp
    refine ⟨fun ⟨rest, h⟩ => hname.slash ?_, fun h => htilde ?_, fun ⟨rest, h⟩ => hname.slash ?_⟩
    · rw [← h]
      exact List.mem_cons_self
    · rw [← String.toList_inj, h]
      rfl
    · rw [← h]
      exact hhead rest
  rw [hw.resolve_relative hdir user hrelative, hname.components_eq,
    follow_singleton hname.ne_dot hname.ne_dots, hw.child?_eq_some_iff.mpr ⟨hmem, rfl⟩,
    hw.segments_of_mem hmem, Option.map_some]

end WellFormed

end Trees

/-! ### Steps of a session -/

section Sessions

variable {σ : Type}

/-- The session stands in a directory of its tree. -/
structure StandsIn (s : Session σ) (dir : Nat) : Prop where
  directory : s.tree.isDirectory dir
  cwd : s.cwd = s.tree.segments dir

variable [KeyValueStore σ] {s s₁ s₂ : Session σ} {dir : Nat} {p q : String}

lemma Reachable.standsIn (hs : Reachable s) : StandsIn s s.cwdNode :=
  ⟨hs.isDirectory_cwdNode, hs.segments_cwdNode.symm⟩

lemma enter_eq_ok_iff : s.enter p = (.ok dir, s₁) ↔ ∃ segments,
    s.tree.resolve s.cwd s.user p = some ⟨dir, segments⟩ ∧ s.tree.isDirectory dir ∧
      s₁ = s.setPlace segments := by
  rw [Session.enter]
  cases hplace : s.tree.resolve s.cwd s.user p with
  | none => simp
  | some place =>
    dsimp only
    by_cases hdir : s.tree.isDirectory place.node
    · rw [if_pos hdir]
      constructor
      · intro h
        cases h
        exact ⟨place.segments, rfl, hdir, rfl⟩
      · rintro ⟨segments, hsame, -, rfl⟩
        cases hsame
        rfl
    · rw [if_neg hdir]
      constructor
      · intro h
        cases h
      · rintro ⟨segments, hsame, hdir', -⟩
        cases hsame
        exact absurd hdir' hdir

lemma enter_congr (htree : s₁.tree = s.tree)
    (h : s₁.tree.resolve s₁.cwd s₁.user q = s.tree.resolve s.cwd s.user p) :
    (s₁.enter q).1 = (s.enter p).1 := by
  rw [Session.enter, Session.enter, h, htree]
  split
  · rfl
  · split <;> rfl

lemma enter_error (h : ∀ place, s.tree.resolve s.cwd s.user p = some place →
    s.tree.isDirectory place.node = false) : ∃ reason, s.enter p = (.error reason, s) := by
  rw [Session.enter]
  split
  · exact ⟨_, rfl⟩
  · next place hplace =>
    rw [h place hplace]
    exact ⟨_, rfl⟩

lemma not_isDirectory_of_enter_error {reason : EntryError} (h : (s.enter p).1 = .error reason)
    {place : Place} (hplace : s.tree.resolve s.cwd s.user p = some place) :
    s.tree.isDirectory place.node = false := by
  cases hdir : s.tree.isDirectory place.node with
  | false => rfl
  | true =>
    rw [enter_eq_ok_iff.mpr ⟨place.segments, hplace, hdir, rfl⟩] at h
    cases h

lemma StandsIn.of_enter (hs : StandsIn s dir) (hw : WellFormed s.tree) {last : Nat}
    (h : s.enter p = (.ok last, s₁)) : StandsIn s₁ last := by
  obtain ⟨segments, hplace, hlast, rfl⟩ := enter_eq_ok_iff.mp h
  rw [hs.cwd] at hplace
  exact ⟨hlast, (hw.segments_of_resolve hplace).symm⟩

/-- A directory is entered in two steps as it is entered in one. The sessions at the end differ in
their stores alone, where each step was written down. Where the first step fails the whole path
fails too. -/
structure EntersInSteps (s : Session σ) (p q : String) : Prop where
  answer : ∀ mid s₁, s.enter p = (.ok mid, s₁) → (s₁.enter q).1 = (s.enter (p ++ "/" ++ q)).1
  place : ∀ mid s₁ last s₂, s.enter p = (.ok mid, s₁) → s₁.enter q = (.ok last, s₂) →
    StandsIn s₂ last ∧ ∃ s₃, s.enter (p ++ "/" ++ q) = (.ok last, s₃) ∧
      s₂ = { s₃ with store := s₂.store }
  refused : ∀ reason, (s.enter p).1 = .error reason →
    ∃ reason', s.enter (p ++ "/" ++ q) = (.error reason', s)

namespace StandsIn

variable (hs : StandsIn s dir) (hw : WellFormed s.tree)
include hs hw

omit [KeyValueStore σ] in
lemma resolve_join (hp : p ≠ "") (hq : IsRelative q.toList) :
    s.tree.resolve s.cwd s.user (p ++ "/" ++ q) =
      (s.tree.resolve s.cwd s.user p).bind (resolveFrom s.tree s.user · q) := by
  rw [hs.cwd]
  exact hw.resolve_join hp hq

lemma resolve_after (hp : p ≠ "") (hq : IsRelative q.toList) {mid : Nat}
    (h : s.enter p = (.ok mid, s₁)) : s₁.tree.resolve s₁.cwd s₁.user q =
      s.tree.resolve s.cwd s.user (p ++ "/" ++ q) := by
  obtain ⟨segments, hplace, hmid, rfl⟩ := enter_eq_ok_iff.mp h
  rw [hs.resolve_join hw hp hq, hplace, Option.bind_some, resolveFrom, if_pos hmid]
  rfl

lemma entersInSteps (hp : p ≠ "") (hq : IsRelative q.toList) : EntersInSteps s p q where
  answer mid s₁ h := by
    refine enter_congr ?_ (hs.resolve_after hw hp hq h)
    obtain ⟨segments, -, -, rfl⟩ := enter_eq_ok_iff.mp h
    rfl
  place mid s₁ last s₂ h h' := by
    have hmid := hs.of_enter hw h
    have hresolve := hs.resolve_after hw hp hq h
    obtain ⟨segments, -, -, rfl⟩ := enter_eq_ok_iff.mp h
    refine ⟨hmid.of_enter hw h', ?_⟩
    obtain ⟨there, hplace, hlast, rfl⟩ := enter_eq_ok_iff.mp h'
    rw [hresolve] at hplace
    exact ⟨_, enter_eq_ok_iff.mpr ⟨there, hplace, hlast, rfl⟩, rfl⟩
  refused reason h := by
    refine enter_error fun place hplace => ?_
    rw [hs.resolve_join hw hp hq] at hplace
    obtain ⟨mid, hmid, hfrom⟩ := Option.bind_eq_some_iff.mp hplace
    have hfile := not_isDirectory_of_enter_error h hmid
    -- behind a file there is nothing but the file itself
    rw [resolveFrom, hfile, if_neg (by simp)] at hfrom
    split at hfrom
    · cases hfrom
      exact hfile
    · cases hfrom

lemma enter_child {child : Nat} (hmem : child ∈ (s.tree.node dir).children)
    (hchild : s.tree.isDirectory child) (hname : IsPathName (s.tree.node child).name)
    (htilde : (s.tree.node child).name ≠ "~") :
    ∃ s₁, s.enter (s.tree.node child).name = (.ok child, s₁) := by
  have hplace : s.tree.resolve s.cwd s.user (s.tree.node child).name =
      some ⟨child, s.tree.segments child⟩ := by
    rw [hs.cwd, hw.resolve_child hs.directory hmem hname htilde]
  exact ⟨_, enter_eq_ok_iff.mpr ⟨_, hplace, hchild, rfl⟩⟩

lemma enter_up {child : Nat} (h : s.enter p = (.ok child, s₁))
    (hmem : child ∈ (s.tree.node dir).children) :
    ∃ s₂, s₁.enter ".." = (.ok dir, s₂) ∧ s₂ = { s with store := s₂.store } := by
  have hthere := hs.of_enter hw h
  obtain ⟨segments, -, hchild, rfl⟩ := enter_eq_ok_iff.mp h
  have hup : s.tree.resolve segments s.user ".." = some ⟨dir, s.cwd⟩ := by
    have hcwd : segments = s.tree.segments child := hthere.cwd
    rw [hcwd, hs.cwd, hw.resolve_up hs.directory hchild hmem]
  exact ⟨_, enter_eq_ok_iff.mpr ⟨_, hup, hs.directory, rfl⟩, rfl⟩

end StandsIn

/-- A path of two parts resolves as its second part does from the end of the first, and directories
are entered accordingly. A child can be entered by its name, and `..` leads back from a child by
whatever path it was entered. -/
theorem joined_path_is_two_steps (hgrown : Grown s.tree) (hs : StandsIn s dir) :
    (∀ p q, p ≠ "" → IsRelative q.toList →
      s.tree.resolve s.cwd s.user (p ++ "/" ++ q) =
        (s.tree.resolve s.cwd s.user p).bind (resolveFrom s.tree s.user · q) ∧
      EntersInSteps s p q) ∧
    (∀ child ∈ (s.tree.node dir).children, s.tree.isDirectory child →
      IsPathName (s.tree.node child).name → (s.tree.node child).name ≠ "~" →
      ∃ s₁, s.enter (s.tree.node child).name = (.ok child, s₁)) ∧
    ∀ path child s₁, s.enter path = (.ok child, s₁) → child ∈ (s.tree.node dir).children →
      ∃ s₂, s₁.enter ".." = (.ok dir, s₂) ∧ s₂ = { s with store := s₂.store } := by
  have hw := hgrown.wellFormed
  refine ⟨fun p q hp hq => ⟨hs.resolve_join hw hp hq, hs.entersInSteps hw hp hq⟩, ?_, ?_⟩
  · intro child hmem hchild hname htilde
    exact hs.enter_child hw hmem hchild hname htilde
  · intro path child s₁ h hmem
    exact hs.enter_up hw h hmem

end Sessions

/-- A file behind a name with a blank at its end, the way around by the directory beside it, and a
step into that directory and back. -/
theorem joined_path_is_two_steps_blank : Grown blankSession.tree ∧ StandsIn blankSession 2 ∧
    blankSession.tree.resolve blankSession.cwd blankSession.user ("docs " ++ "/" ++ "note") =
      some ⟨5, ["/", "home", "ada", "docs ", "note"]⟩ ∧
    EntersInSteps blankSession "docs" "../docs " ∧
    ∃ s₁ s₂ : Session Memory, blankSession.enter "docs " = (.ok 4, s₁) ∧
      s₁.enter ".." = (.ok 2, s₂) ∧ s₂ = { blankSession with store := s₂.store } := by
  have hgrown : Grown blankSession.tree := reachable_blankSession.grown_and_isPlace.1
  have hnode : blankSession.cwdNode = 2 := by decide +kernel
  have hstands : StandsIn blankSession 2 := hnode ▸ reachable_blankSession.standsIn
  obtain ⟨hjoin, hchild, hup⟩ := joined_path_is_two_steps hgrown hstands
  obtain ⟨hresolve, -⟩ := hjoin "docs " "note" (by decide) (by decide)
  obtain ⟨-, hsteps⟩ := hjoin "docs" "../docs " (by decide) (by decide)
  have hmem : 4 ∈ (blankSession.tree.node 2).children := by decide +kernel
  have hname : (blankSession.tree.node 4).name = "docs " := by decide +kernel
  obtain ⟨s₁, hs₁⟩ := hchild 4 hmem (by decide +kernel) (by rw [hname]; decide)
    (by rw [hname]; decide)
  rw [hname] at hs₁
  obtain ⟨s₂, hs₂⟩ := hup "docs " 4 s₁ hs₁ hmem
  refine ⟨hgrown, hstands, ?_, hsteps, s₁, s₂, hs₁, hs₂⟩
  rw [hresolve]
  decide +kernel

/-! ### Nodes and their addresses -/

/-- The segments of a directory lead to it whatever its name is, no two nodes have the same
segments, and the path of a node leads to it from everywhere if the names in it can stand there. -/
theorem address_leads_back {t : Tree} (h : Grown t) :
    (∀ dir, t.isDirectory dir → t.directoryAt? (t.segments dir) = some dir) ∧
    Set.InjOn t.segments {id | id < t.size} ∧
    ∀ id < t.size, (∀ name ∈ t.names id, IsPathName name) →
      ∀ cwd user, t.resolve cwd user (t.path id) = some ⟨id, t.segments id⟩ := by
  have hw := h.wellFormed
  refine ⟨fun dir hdir => hw.directoryAt?_segments hdir, ?_, ?_⟩
  · intro a ha b hb hsegments
    exact hw.eq_of_segments ha hb hsegments
  · intro id hid hnames cwd user
    exact hw.resolve_path hid hnames

/-- Directories whose names cannot stand in a path. -/
def oddSeed : Seed :=
  .directory "/" ⟨"", "", "", ""⟩
    [.directory ".." ⟨"", "", "", ""⟩ [.directory "a/b" ⟨"", "", "", ""⟩ []],
      .directory "a" ⟨"", "", "", ""⟩ [.directory "b" ⟨"", "", "", ""⟩ []]]

def oddTree : Tree :=
  ⟨#[⟨"/", ⟨"", "", "", ""⟩, none, .directory [1, 3]⟩,
    ⟨"..", ⟨"", "", "", ""⟩, some 0, .directory [2]⟩,
    ⟨"a/b", ⟨"", "", "", ""⟩, some 1, .directory []⟩,
    ⟨"a", ⟨"", "", "", ""⟩, some 0, .directory [4]⟩,
    ⟨"b", ⟨"", "", "", ""⟩, some 3, .directory []⟩]⟩

lemma ofSeed_oddSeed : Tree.ofSeed oddSeed = .ok oddTree := rfl

/-- Segments tell apart what a path does not: the path of the one directory leads to the other. -/
theorem address_leads_back_odd : Grown oddTree ∧ oddTree.segments 2 = ["/", "..", "a/b"] ∧
    oddTree.directoryAt? ["/", "..", "a/b"] = some 2 ∧ oddTree.segments 2 ≠ oddTree.segments 4 ∧
    oddTree.resolve ["gone"] "ada" "/a/b" = some ⟨4, ["/", "a", "b"]⟩ ∧
    oddTree.resolve ["/"] "ada" (oddTree.path 2) = some ⟨4, ["/", "a", "b"]⟩ := by
  have hgrown : Grown oddTree := .ofSeed ofSeed_oddSeed
  obtain ⟨hat, hinj, hpath⟩ := address_leads_back hgrown
  have hsegments : oddTree.segments 2 = ["/", "..", "a/b"] := by cbv
  have hnames : oddTree.names 4 = ["a", "b"] := by cbv
  have hstraight : oddTree.path 4 = "/a/b" := by cbv
  have hodd : oddTree.path 2 = "/../a/b" := by cbv
  have hback := hpath 4 (by decide) (by rw [hnames]; decide) ["gone"] "ada"
  have hplace : oddTree.segments 4 = ["/", "a", "b"] := by cbv
  rw [hstraight, hplace] at hback
  refine ⟨hgrown, hsegments, ?_, ?_, hback, ?_⟩
  · rw [← hsegments]
    exact hat 2 rfl
  · intro hsame
    exact absurd (hinj (by decide) (by decide) hsame) (by decide)
  · rw [hodd]
    decide +kernel

end SeedShell.Proofs
