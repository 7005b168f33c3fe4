import SeedShell.Proofs.Soundness
import SeedShell.Proofs.Texts

/-!
# Paths taken apart

A path with a slash in it is walked in two stretches: to where the text up to the slash leads, and
on from there. So the last name of a path is looked up in the directory that the text before it
leads to. Only the slash at the very front is not a divider, since it is what makes a path start at
the root.
-/

namespace SeedShell.Proofs

open Session

/-! ### Components -/

lemma components_nil : components (String.ofList []) = [] := rfl

lemma components_append_slash (as bs : List Char) :
    components (String.ofList (as ++ '/' :: bs)) =
      components (String.ofList as) ++ components (String.ofList bs) := by
  simp only [components, Text.split, String.toList_ofList]
  rw [splitChars_append_sep (by decide), List.map_append, List.filter_append]

lemma components_name {name : List Char} (hslash : '/' ∉ name) (hempty : name ≠ []) :
    components (String.ofList name) = [String.ofList name] := by
  have hsep : ∀ c ∈ name, ¬(c == '/') = true := by
    intro c hc heq
    exact hslash (beq_iff_eq.mp heq ▸ hc)
  have hne : String.ofList name ≠ "" := by simpa using hempty
  simp only [components, Text.split, String.toList_ofList]
  rw [splitChars_of_forall_not hsep]
  simp [hne]

/-! ### Where a path starts -/

/-- A path that starts at the current directory: neither at the root nor at a home. -/
def IsRelative (path : List Char) : Prop :=
  ¬['/'] <+: path ∧ path ≠ ['~'] ∧ ¬['~', '/'] <+: path

instance (path : List Char) : Decidable (IsRelative path) :=
  inferInstanceAs (Decidable (_ ∧ _ ∧ _))

section Starting

variable {cwd : List String} {user : String}

lemma hasPrefix_ofList_iff {start : String} {path : List Char} :
    Text.hasPrefix start (String.ofList path) = true ↔ start.toList <+: path := by
  rw [Text.hasPrefix, String.toList_ofList, List.isPrefixOf_iff_prefix]

lemma start_of_root (path : List Char) :
    Tree.start cwd user (String.ofList ('/' :: path)) =
      (["/"], String.ofList ('/' :: path)) := by
  rw [Tree.start, if_pos (by simp [Text.hasPrefix])]

lemma start_of_tilde : Tree.start cwd user "~" = (Tree.homeOf user, "") := by
  rw [Tree.start, if_neg (by decide), if_pos (.inl rfl)]
  rfl

lemma start_of_home (path : List Char) :
    Tree.start cwd user (String.ofList ('~' :: '/' :: path)) =
      (Tree.homeOf user, String.ofList ('/' :: path)) := by
  rw [Tree.start, if_neg (by simp [Text.hasPrefix]), if_pos (.inr (by simp [Text.hasPrefix])),
    String.toList_ofList, List.drop_one, List.tail_cons]

lemma start_of_isRelative {path : List Char} (h : IsRelative path) :
    Tree.start cwd user (String.ofList path) = (cwd, String.ofList path) := by
  obtain ⟨hroot, htilde, hhome⟩ := h
  have hchars : String.ofList path ≠ "~" := by
    intro heq
    have hpath := congrArg String.toList heq
    rw [String.toList_ofList] at hpath
    exact htilde hpath
  have hslash : ¬Text.hasPrefix "/" (String.ofList path) = true := by
    rwa [hasPrefix_ofList_iff]
  have hbelow : ¬Text.hasPrefix "~/" (String.ofList path) = true := by
    rwa [hasPrefix_ofList_iff]
  rw [Tree.start, if_neg hslash, if_neg (not_or_intro hchars hbelow)]

lemma IsRelative.append_slash {as : List Char} (h : IsRelative as) (hempty : as ≠ [])
    (bs : List Char) : IsRelative (as ++ '/' :: bs) := by
  obtain ⟨hroot, htilde, hhome⟩ := h
  rcases as with _ | ⟨a, _ | ⟨b, as⟩⟩
  · exact absurd rfl hempty
  · have ha : a ≠ '~' := fun heq => htilde (by rw [heq])
    simpa [IsRelative, Ne.symm ha] using hroot
  · simpa [IsRelative] using And.intro hroot hhome

lemma not_isRelative_cases {path : List Char} (h : ¬IsRelative path) :
    (∃ rest, path = '/' :: rest) ∨ path = ['~'] ∨ ∃ rest, path = '~' :: '/' :: rest := by
  by_cases hroot : ['/'] <+: path
  · obtain ⟨rest, hrest⟩ := hroot
    exact .inl ⟨rest, hrest.symm⟩
  by_cases htilde : path = ['~']
  · exact .inr (.inl htilde)
  by_cases hhome : ['~', '/'] <+: path
  · obtain ⟨rest, hrest⟩ := hhome
    exact .inr (.inr ⟨rest, hrest.symm⟩)
  exact absurd ⟨hroot, htilde, hhome⟩ h

variable (cwd user) in
/-- What stands behind a slash has no say in where a path starts. -/
lemma start_append_slash {as : List Char} (hempty : as ≠ []) (bs : List Char) :
    ∃ segments rest, Tree.start cwd user (String.ofList as) = (segments, String.ofList rest) ∧
      Tree.start cwd user (String.ofList (as ++ '/' :: bs)) =
        (segments, String.ofList (rest ++ '/' :: bs)) := by
  by_cases hrelative : IsRelative as
  · exact ⟨cwd, as, start_of_isRelative hrelative,
      start_of_isRelative (hrelative.append_slash hempty bs)⟩
  · rcases not_isRelative_cases hrelative with ⟨rest, rfl⟩ | rfl | ⟨rest, rfl⟩
    · exact ⟨_, '/' :: rest, start_of_root _, start_of_root _⟩
    · exact ⟨_, [], start_of_tilde, start_of_home bs⟩
    · exact ⟨_, '/' :: rest, start_of_home _, start_of_home _⟩

end Starting

/-! ### Two stretches of a path -/

/-- Goes on along components from where a path leads. There is no way on from a file. -/
def onward (t : Tree) (place : Place) (names : List String) : Option Place :=
  if t.isDirectory place.node then t.follow place names
  else if names = [] then some place
  else none

section Following

variable {t : Tree} {cwd : List String} {user : String}

lemma onward_nil (place : Place) : onward t place [] = some place := by
  rw [onward, if_pos rfl, Tree.follow, ite_self]

lemma follow_dots (here : Place) : t.follow here [".."] =
    (t.directoryAt? (Tree.up here.segments)).map fun dir => ⟨dir, Tree.up here.segments⟩ := by
  rw [Tree.follow, if_neg (by decide), if_pos rfl]
  cases t.directoryAt? (Tree.up here.segments) with
  | none => rfl
  | some dir => rfl

lemma follow_singleton {name : String} (hstay : name ≠ ".") (hup : name ≠ "..") (here : Place) :
    t.follow here [name] =
      (t.child? here.node name).map fun child => ⟨child, here.segments ++ [name]⟩ := by
  rw [Tree.follow, if_neg hstay, if_neg hup]
  cases t.child? here.node name with
  | none => rfl
  | some child =>
    simp only [Option.bind_eq_bind, Option.bind_some, Option.map_some, Tree.follow, ite_true,
      ite_self]

lemma node_follow_singleton {name : String} (hstay : name ≠ ".") (hup : name ≠ "..")
    (here : Place) : (t.follow here [name]).map Place.node = t.child? here.node name := by
  rw [follow_singleton hstay hup, Option.map_map]
  exact Option.map_id'

lemma node_onward_singleton {name : String} (hstay : name ≠ ".") (hup : name ≠ "..")
    (place : Place) : (onward t place [name]).map Place.node =
      if t.isDirectory place.node then t.child? place.node name else none := by
  rw [onward]
  split
  · exact node_follow_singleton hstay hup place
  · rfl

lemma WellFormed.isDirectory_of_onward (hw : WellFormed t) {place last : Place} {name : String}
    (hname : name = "." ∨ name = "..") (h : onward t place [name] = some last) :
    t.isDirectory last.node := by
  unfold onward at h
  split at h
  · next hdir =>
    rcases hname with rfl | rfl
    · rw [Tree.follow, if_pos rfl, Tree.follow] at h
      obtain rfl := Option.some.inj h
      exact hdir
    · rw [follow_dots, Option.map_eq_some_iff] at h
      obtain ⟨dir, hat, rfl⟩ := h
      exact (hw.of_directoryAt? hat).1
  · simp at h

lemma WellFormed.follow_append (hw : WellFormed t) {here : Place}
    (hdir : t.isDirectory here.node) (names rest : List String) :
    t.follow here (names ++ rest) = (t.follow here names).bind (onward t · rest) := by
  induction names generalizing here with
  | nil => rw [List.nil_append, Tree.follow, Option.bind_some, onward, if_pos hdir]
  | cons name names ih =>
    rw [List.cons_append, Tree.follow, Tree.follow]
    by_cases hstay : name = "."
    · rw [if_pos hstay, if_pos hstay, ih hdir]
    rw [if_neg hstay, if_neg hstay]
    by_cases hup : name = ".."
    · rw [if_pos hup, if_pos hup]
      cases hat : t.directoryAt? (Tree.up here.segments) with
      | none => rfl
      | some dir => exact ih (hw.of_directoryAt? hat).1
    rw [if_neg hup, if_neg hup]
    cases t.child? here.node name with
    | none => rfl
    | some child =>
      simp only [Option.bind_eq_bind, Option.bind_some]
      by_cases hchild : t.isDirectory child
      · rw [if_pos hchild, if_pos hchild]
        exact ih hchild
      -- a file ends the first stretch, and the second one goes nowhere
      rw [if_neg hchild, if_neg hchild]
      cases names with
      | nil => simp only [List.nil_append, ite_true, Option.bind_some, onward, if_neg hchild]
      | cons next names => simp

lemma resolve_of_root (path : List Char) :
    t.resolve cwd user (String.ofList ('/' :: path)) =
      t.follow ⟨Tree.root, ["/"]⟩ (components (String.ofList path)) := by
  have hpath := components_append_slash [] path
  rw [List.nil_append, components_nil, List.nil_append] at hpath
  rw [Tree.resolve, start_of_root, ← hpath]
  rfl

lemma resolve_of_isRelative {path : List Char} (h : IsRelative path) {dir : Nat}
    (hcwd : t.directoryAt? cwd = some dir) : t.resolve cwd user (String.ofList path) =
      t.follow ⟨dir, cwd⟩ (components (String.ofList path)) := by
  rw [Tree.resolve, start_of_isRelative h]
  simp only [hcwd, Option.bind_eq_bind, Option.bind_some]

lemma WellFormed.resolve_append_slash (hw : WellFormed t) {as : List Char} (hempty : as ≠ [])
    (bs : List Char) : t.resolve cwd user (String.ofList (as ++ '/' :: bs)) =
      (t.resolve cwd user (String.ofList as)).bind
        (onward t · (components (String.ofList bs))) := by
  obtain ⟨segments, rest, has, hbs⟩ := start_append_slash cwd user hempty bs
  rw [Tree.resolve, hbs, Tree.resolve, has]
  simp only [Option.bind_eq_bind]
  cases hat : t.directoryAt? segments with
  | none => rfl
  | some dir =>
    rw [Option.bind_some, Option.bind_some, components_append_slash]
    exact hw.follow_append (hw.of_directoryAt? hat).1 _ _

end Following

/-! ### Directories and the names in them -/

section Entries

variable {σ : Type} {s : Session σ}

/-- The directory that a path leads to. -/
def directoryOn? (s : Session σ) (path : List Char) : Option Nat :=
  (s.resolve? (String.ofList path)).filter s.tree.isDirectory

variable (hw : WellFormed s.tree)
include hw

lemma resolve?_slash {path : List Char} (hempty : path ≠ []) :
    s.resolve? (String.ofList (path ++ ['/'])) = s.resolve? (String.ofList path) := by
  have honward : (onward s.tree · []) = some := funext onward_nil
  rw [resolve?, resolve?, hw.resolve_append_slash hempty, components_nil, honward,
    Option.bind_fun_some]

lemma directoryOn?_slash {path : List Char} (hempty : path ≠ []) :
    directoryOn? s (path ++ ['/']) = directoryOn? s path := by
  rw [directoryOn?, directoryOn?, resolve?_slash hw hempty]

lemma directoryOn?_root : directoryOn? s ['/'] = some Tree.root := by
  have hroot : s.resolve? (String.ofList ['/']) = some Tree.root := by
    rw [resolve?, resolve_of_root, components_nil]
    rfl
  rw [directoryOn?, hroot, Option.filter_some, if_pos hw.root_directory]

/-- The last name of a path is that of an entry of the directory before it. -/
lemma resolve?_append_slash (directory : List Char) {rest : List Char} {name : String}
    (hrest : components (String.ofList rest) = [name]) (hstay : name ≠ ".") (hup : name ≠ "..") :
    s.resolve? (String.ofList (directory ++ '/' :: rest)) =
      (directoryOn? s (directory ++ ['/'])).bind (s.tree.child? · name) := by
  by_cases hempty : directory = []
  · subst hempty
    rw [List.nil_append, List.nil_append, directoryOn?_root hw, Option.bind_some, resolve?,
      resolve_of_root, hrest]
    exact node_follow_singleton hstay hup _
  · rw [directoryOn?_slash hw hempty, directoryOn?, resolve?, resolve?,
      hw.resolve_append_slash hempty, hrest, Option.map_bind]
    cases s.tree.resolve s.cwd s.user (String.ofList directory) with
    | none => rfl
    | some place =>
      rw [Option.bind_some, Option.map_some, Option.filter_some, Function.comp_apply]
      refine (node_onward_singleton hstay hup place).trans ?_
      split <;> rfl

/-- A path that ends in a dot or two leads to no file. -/
lemma isDirectory_of_resolve?_dots {directory rest : List Char} (hempty : directory ≠ [])
    (hrest : rest = ['.'] ∨ rest = ['.', '.']) {id : Nat}
    (h : s.resolve? (String.ofList (directory ++ '/' :: rest)) = some id) :
    s.tree.isDirectory id := by
  have hname : ∃ name, components (String.ofList rest) = [name] ∧ (name = "." ∨ name = "..") := by
    rcases hrest with rfl | rfl
    · exact ⟨".", by decide, .inl rfl⟩
    · exact ⟨"..", by decide, .inr rfl⟩
  obtain ⟨name, hcomponents, hname⟩ := hname
  rw [resolve?, hw.resolve_append_slash hempty, hcomponents] at h
  obtain ⟨last, hlast, rfl⟩ := Option.map_eq_some_iff.mp h
  obtain ⟨place, -, honward⟩ := Option.bind_eq_some_iff.mp hlast
  exact hw.isDirectory_of_onward hname honward

omit hw in
/-- A name alone is that of an entry of the current directory. -/
lemma resolve?_of_isRelative (hcwd : s.tree.directoryAt? s.cwd = some s.cwdNode)
    {rest : List Char} (hrelative : IsRelative rest) {name : String}
    (hrest : components (String.ofList rest) = [name]) (hstay : name ≠ ".") (hup : name ≠ "..") :
    s.resolve? (String.ofList rest) = s.tree.child? s.cwdNode name := by
  rw [resolve?, resolve_of_isRelative hrelative hcwd, hrest]
  exact node_follow_singleton hstay hup _

end Entries

end SeedShell.Proofs
