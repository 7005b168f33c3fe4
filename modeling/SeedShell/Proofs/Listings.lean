import Mathlib.Algebra.Ring.Nat
import SeedShell.Proofs.SiblingOrder

/-!
# Listings of directories

A listing of a directory has a line or a row for each child that is not hidden, once, and the sizes
in the rows add up to the total above them. The order is that of the names, directories first, and
in a blog that of the dates. Either way it is the only one with its property, as children with the
same date stay in the order in which they are stored.
-/

namespace SeedShell.Proofs

open Session Command

/-! ### Stable sorting -/

section Sorting

variable {α β : Type}

/-- Items that are all in order stay in the order that they have. -/
lemma filter_mergeSort {le : α → α → Bool}
    (htrans : ∀ a b c, le a b = true → le b c = true → le a c = true)
    (htotal : ∀ a b, (le a b || le b a) = true) {p : α → Bool}
    (hp : ∀ a b, p a = true → p b = true → le a b = true) (xs : List α) :
    (xs.mergeSort le).filter p = xs.filter p := by
  have hpairwise : (xs.filter p).Pairwise (fun a b => le a b = true) := by
    rw [List.pairwise_filter]
    exact List.pairwise_of_forall fun a b ha hb => hp a b ha hb
  have hsub : (xs.filter p).Sublist ((xs.mergeSort le).filter p) := by
    have hsorted := List.sublist_mergeSort htrans htotal hpairwise List.filter_sublist
    simpa only [List.filter_filter, Bool.and_self] using hsorted.filter p
  have hlength := ((List.mergeSort_perm xs le).filter p).length_eq
  exact (hsub.eq_of_length hlength.symm).symm

/-- A list in order is determined by the order of those items that share a key. -/
lemma eq_of_pairwise_of_filter_eq [DecidableEq β] {key : α → β} {r : α → α → Prop}
    (hkey : ∀ a b, r a b → r b a → key a = key b) {xs ys : List α} (hxs : xs.Pairwise r)
    (hys : ys.Pairwise r)
    (h : ∀ k, xs.filter (fun a => key a = k) = ys.filter (fun a => key a = k)) : xs = ys := by
  induction xs generalizing ys with
  | nil =>
    cases ys with
    | nil => rfl
    | cons y ys => simpa using h (key y)
  | cons x xs ih =>
    cases ys with
    | nil => simpa using h (key x)
    | cons y ys =>
      rw [List.pairwise_cons] at hxs hys
      have hsame : key x = key y := by
        by_contra hne
        -- each of the two stands behind the other
        have hx : x ∈ ys := by
          have hmem : x ∈ (y :: ys).filter (fun a => key a = key x) := by
            rw [← h]
            simp
          simpa [Ne.symm hne] using hmem
        have hy : y ∈ xs := by
          have hmem : y ∈ (x :: xs).filter (fun a => key a = key y) := by
            rw [h]
            simp
          simpa [hne] using hmem
        exact hne (hkey x y (hxs.1 y hy) (hys.1 x hx))
      have hhead := h (key x)
      rw [List.filter_cons_of_pos (by simp), List.filter_cons_of_pos (by simp [hsame])] at hhead
      obtain ⟨rfl, -⟩ := List.cons.inj hhead
      congr 1
      refine ih hxs.2 hys.2 fun k => ?_
      have hrest := h k
      by_cases hk : key x = k
      · simpa [hk] using hrest
      · simpa [hk] using hrest

end Sorting

/-! ### The two orders -/

section Orders

lemma stamp_le_refl (x : Stamp) : x.le x = true := by
  rw [Stamp.le, Bool.not_eq_true', List.lex_eq_false_iff_ge]
  exact List.le_refl x.key

lemma stamp_le_trans {x y z : Stamp} (hxy : x.le y = true) (hyz : y.le z = true) :
    x.le z = true := by
  rw [Stamp.le, Bool.not_eq_true', List.lex_eq_false_iff_ge] at hxy hyz ⊢
  exact List.le_trans hxy hyz

lemma stamp_le_total (x y : Stamp) : x.le y = true ∨ y.le x = true := by
  rw [Stamp.le, Stamp.le, Bool.not_eq_true', Bool.not_eq_true', List.lex_eq_false_iff_ge,
    List.lex_eq_false_iff_ge]
  exact List.le_total x.key y.key

lemma stamp_le_antisymm {x y : Stamp} (hxy : x.le y = true) (hyx : y.le x = true) : x = y := by
  rw [Stamp.le, Bool.not_eq_true', List.lex_eq_false_iff_ge] at hxy hyx
  have hkey : x.key = y.key := List.le_antisymm hxy hyx
  rcases x with ⟨_, _, _, _, _, _⟩
  rcases y with ⟨_, _, _, _, _, _⟩
  simpa [Stamp.key, Int.natCast_inj] using hkey

/-- Whatever the date behind is, the one in front is not earlier. -/
def DatedBefore (a b : Node) : Prop :=
  ∀ y, b.stamp? = some y → ∃ x, a.stamp? = some x ∧ y.le x = true

lemma newestFirst_eq_true {a b : Node} : newestFirst a b = true ↔ DatedBefore a b := by
  unfold newestFirst DatedBefore
  cases a.stamp? <;> cases b.stamp? <;> simp

lemma newestFirst_trans (a b c : Node) (hab : newestFirst a b = true)
    (hbc : newestFirst b c = true) : newestFirst a c = true := by
  rw [newestFirst_eq_true] at hab hbc ⊢
  intro z hz
  obtain ⟨y, hy, hzy⟩ := hbc z hz
  obtain ⟨x, hx, hyx⟩ := hab y hy
  exact ⟨x, hx, stamp_le_trans hzy hyx⟩

lemma newestFirst_total (a b : Node) : (newestFirst a b || newestFirst b a) = true := by
  unfold newestFirst
  cases a.stamp? with
  | none => cases b.stamp? <;> rfl
  | some x =>
    cases b.stamp? with
    | none => rfl
    | some y => exact (Bool.or_eq_true ..).mpr (stamp_le_total y x)

lemma newestFirst_of_stamp?_eq {a b : Node} (h : a.stamp? = b.stamp?) : newestFirst a b = true := by
  rw [newestFirst_eq_true]
  exact fun y hy => ⟨y, h.trans hy, stamp_le_refl y⟩

lemma DatedBefore.stamp?_eq {a b : Node} (hab : DatedBefore a b) (hba : DatedBefore b a) :
    a.stamp? = b.stamp? := by
  cases ha : a.stamp? with
  | none =>
    cases hb : b.stamp? with
    | none => rfl
    | some y =>
      obtain ⟨x, hx, -⟩ := hab y hb
      cases ha.symm.trans hx
  | some x =>
    obtain ⟨y, hy, hxy⟩ := hba x ha
    obtain ⟨x', hx', hyx⟩ := hab y hy
    obtain rfl : x = x' := Option.some.inj (ha.symm.trans hx')
    rw [hy, stamp_le_antisymm hxy hyx]

/-- A directory in front of a file, or two of a kind with ascending names. -/
def NamedBefore (a b : Node) : Prop :=
  (a.isDirectory = true ∧ b.isDirectory = false) ∨
    (a.isDirectory = b.isDirectory ∧ a.name < b.name)

lemma NamedBefore.asymm {a b : Node} (hab : NamedBefore a b) : ¬NamedBefore b a := by
  rintro (⟨hb, ha⟩ | ⟨hkind, hlt⟩) <;> rcases hab with ⟨ha', hb'⟩ | ⟨hkind', hlt'⟩
  · cases ha.symm.trans ha'
  · cases ha.symm.trans (hkind'.trans hb)
  · cases hb'.symm.trans (hkind.trans ha')
  · exact String.lt_asymm hlt hlt'

lemma namedBefore_of_kindThenName {a b : Node} (h : kindThenName a b = true)
    (hne : a.name ≠ b.name) : NamedBefore a b := by
  rcases kindThenName_eq_true.mp h with ⟨hkind, hle⟩ | hkinds
  · exact .inr ⟨hkind, String.not_le.mp fun hge => hne (String.le_antisymm hle hge)⟩
  · exact .inl hkinds

end Orders

/-! ### The entries of a listing -/

variable {σ : Type}

/-- The target is a blog, or the session stands in one. -/
def GoesByDate (s : Session σ) (dir : Nat) : Prop :=
  (s.tree.node dir).name = "blog" ∨ Text.hasSuffix "/blog" s.shownPath = true

instance (s : Session σ) (dir : Nat) : Decidable (GoesByDate s dir) :=
  inferInstanceAs (Decidable (_ ∨ _))

/-- The children of a directory that are listed, by number and in the order of the listing. Names
decide the order, or dates, and children with the same date stand as they are stored. -/
structure EntriesInOrder (s : Session σ) (dir : Nat) (all : Bool) (ids : List Nat) : Prop where
  nodup : ids.Nodup
  mem_iff : ∀ id, id ∈ ids ↔ id ∈ (s.tree.node dir).children ∧
    (all = true ∨ Text.hasPrefix "." (s.tree.node id).name = false)
  named : ¬GoesByDate s dir →
    ids.Pairwise fun a b => NamedBefore (s.tree.node a) (s.tree.node b)
  dated : GoesByDate s dir →
    ids.Pairwise fun a b => DatedBefore (s.tree.node a) (s.tree.node b)
  stored : GoesByDate s dir → ∀ stamp? : Option Stamp,
    (ids.filter fun id => (s.tree.node id).stamp? = stamp?) =
      (s.tree.node dir).children.filter fun id => id ∈ ids ∧ (s.tree.node id).stamp? = stamp?

section Entries

variable {s : Session σ} {dir : Nat} {all : Bool} {ids ids' : List Nat}

lemma EntriesInOrder.unique (h : EntriesInOrder s dir all ids)
    (h' : EntriesInOrder s dir all ids') : ids = ids' := by
  have hmem : ∀ id, id ∈ ids ↔ id ∈ ids' := fun id => by rw [h.mem_iff, h'.mem_iff]
  by_cases hdate : GoesByDate s dir
  · have hstamp : ∀ a b, DatedBefore (s.tree.node a) (s.tree.node b) →
        DatedBefore (s.tree.node b) (s.tree.node a) →
        (s.tree.node a).stamp? = (s.tree.node b).stamp? := fun _ _ => DatedBefore.stamp?_eq
    refine eq_of_pairwise_of_filter_eq hstamp (h.dated hdate) (h'.dated hdate) fun k => ?_
    rw [h.stored hdate, h'.stored hdate]
    simp only [hmem]
  · have hperm : ids.Perm ids' := (List.perm_ext_iff_of_nodup h.nodup h'.nodup).mpr hmem
    refine hperm.eq_of_pairwise ?_ (h.named hdate) (h'.named hdate)
    exact fun a b _ _ hab hba => absurd hba hab.asymm

/-- The comparison of entries that a listing sorts by. -/
def entryOrder (s : Session σ) (dir a b : Nat) : Bool :=
  (if inBlogOrder s dir then newestFirst else kindThenName) (s.tree.node a) (s.tree.node b)

lemma entryOrder_of_goesByDate (h : GoesByDate s dir) (a b : Nat) :
    entryOrder s dir a b = newestFirst (s.tree.node a) (s.tree.node b) := by
  have hblog : inBlogOrder s dir = true := by simpa [inBlogOrder, GoesByDate] using h
  rw [entryOrder, if_pos hblog]

lemma entryOrder_of_not_goesByDate (h : ¬GoesByDate s dir) (a b : Nat) :
    entryOrder s dir a b = kindThenName (s.tree.node a) (s.tree.node b) := by
  have hblog : ¬inBlogOrder s dir = true := by simpa [inBlogOrder, GoesByDate] using h
  rw [entryOrder, if_neg hblog]

lemma entryOrder_trans (s : Session σ) (dir a b c : Nat) (hab : entryOrder s dir a b = true)
    (hbc : entryOrder s dir b c = true) : entryOrder s dir a c = true := by
  by_cases hdate : GoesByDate s dir
  · rw [entryOrder_of_goesByDate hdate] at hab hbc ⊢
    exact newestFirst_trans _ _ _ hab hbc
  · rw [entryOrder_of_not_goesByDate hdate] at hab hbc ⊢
    exact kindThenName_trans _ _ _ hab hbc

lemma entryOrder_total (s : Session σ) (dir a b : Nat) :
    (entryOrder s dir a b || entryOrder s dir b a) = true := by
  by_cases hdate : GoesByDate s dir
  · rw [entryOrder_of_goesByDate hdate, entryOrder_of_goesByDate hdate]
    exact newestFirst_total _ _
  · rw [entryOrder_of_not_goesByDate hdate, entryOrder_of_not_goesByDate hdate]
    exact kindThenName_total _ _

/-- The children that are not hidden, sorted. -/
def sortedEntries (s : Session σ) (dir : Nat) (all : Bool) : List Nat :=
  ((s.tree.node dir).children.filter fun id => all || !isHidden (s.tree.node id)).mergeSort
    (entryOrder s dir)

lemma listed_eq_map (hdir : s.tree.isDirectory dir) (all : Bool) :
    listed s dir all = (sortedEntries s dir all).map s.tree.node := by
  rw [listed_eq_mergeSort, shown_of_isDirectory hdir, List.filter_map, sortedEntries,
    List.map_mergeSort]
  · rfl
  · exact fun _ _ _ _ => rfl

lemma mem_sortedEntries {id : Nat} : id ∈ sortedEntries s dir all ↔
    id ∈ (s.tree.node dir).children ∧
      (all = true ∨ Text.hasPrefix "." (s.tree.node id).name = false) := by
  rw [sortedEntries, List.mem_mergeSort, List.mem_filter, Bool.or_eq_true, Bool.not_eq_true',
    isHidden]

lemma pairwise_sortedEntries (s : Session σ) (dir : Nat) (all : Bool) :
    (sortedEntries s dir all).Pairwise fun a b => entryOrder s dir a b = true :=
  List.pairwise_mergeSort (entryOrder_trans s dir) (entryOrder_total s dir) _

lemma entriesInOrder_sortedEntries (hw : WellFormed s.tree) :
    EntriesInOrder s dir all (sortedEntries s dir all) := by
  have hnames := hw.names_nodup dir
  have hnodup : (sortedEntries s dir all).Nodup :=
    (List.mergeSort_perm _ _).nodup_iff.mpr (hnames.of_map.filter _)
  have hsorted := pairwise_sortedEntries s dir all
  refine ⟨hnodup, fun id => mem_sortedEntries, fun hdate => ?_, fun hdate => ?_,
    fun hdate stamp? => ?_⟩
  · refine (hsorted.and hnodup).imp_of_mem fun {a b} ha hb ⟨hab, hne⟩ => ?_
    rw [entryOrder_of_not_goesByDate hdate] at hab
    refine namedBefore_of_kindThenName hab fun hname => hne ?_
    exact List.inj_on_of_nodup_map hnames (mem_sortedEntries.mp ha).1
      (mem_sortedEntries.mp hb).1 hname
  · refine hsorted.imp fun {a b} hab => ?_
    rwa [entryOrder_of_goesByDate hdate, newestFirst_eq_true] at hab
  · have hsame : ∀ a b, decide ((s.tree.node a).stamp? = stamp?) = true →
        decide ((s.tree.node b).stamp? = stamp?) = true → entryOrder s dir a b = true := by
      intro a b ha hb
      rw [entryOrder_of_goesByDate hdate]
      exact newestFirst_of_stamp?_eq ((of_decide_eq_true ha).trans (of_decide_eq_true hb).symm)
    rw [sortedEntries, filter_mergeSort (entryOrder_trans s dir) (entryOrder_total s dir) hsame,
      List.filter_filter]
    refine List.filter_congr fun id hid => ?_
    simp [List.mem_mergeSort, hid, Bool.and_comm]

end Entries

/-! ### The lines of a listing -/

/-- What stands before and behind the size in the row of an entry. -/
def besideSize (long : Bool) (n : Node) : String × String :=
  if long then
    (n.attributes.permissions ++ " 1 " ++ n.attributes.owner ++ " " ++ n.attributes.group ++ " ",
      n.attributes.date ++ " " ++ n.displayName)
  else ("", n.name)

/-- Lines for entries: their names on one line, or the total of their sizes and a row for each. -/
structure ShowsEntries (t : Tree) (flags : ListingFlags) (ids : List Nat) (lines : List String) :
    Prop where
  names : flags.long = false → flags.sizes = false →
    lines = [Text.join "  " (ids.map fun id => (t.node id).displayName)]
  rows : flags.long = true ∨ flags.sizes = true →
    lines = ("total " ++ Nat.repr (ids.map fun id => (t.node id).size).sum) ::
      ids.map fun id => (besideSize flags.long (t.node id)).1 ++
        Text.padLeft 6 (Nat.repr (t.node id).size) ++ " " ++ (besideSize flags.long (t.node id)).2

lemma totalSize_eq_sum (nodes : List Node) : totalSize nodes = (nodes.map Node.size).sum := by
  rw [totalSize, List.sum, List.foldr_map]

lemma longRow_eq (n : Node) : longRow n = (besideSize true n).1 ++
    Text.padLeft 6 (Nat.repr n.size) ++ " " ++ (besideSize true n).2 := by
  simp only [longRow, besideSize, if_true, String.append_assoc]

lemma sizeRow_eq (n : Node) : sizeRow n = (besideSize false n).1 ++
    Text.padLeft 6 (Nat.repr n.size) ++ " " ++ (besideSize false n).2 := by
  simp [sizeRow, besideSize]

lemma showsEntries_listingLines (t : Tree) (flags : ListingFlags) (ids : List Nat) :
    ShowsEntries t flags ids (listingLines flags (ids.map t.node)) where
  names hlong hsizes := by
    simp [listingLines, hlong, hsizes, Function.comp_def]
  rows hrows := by
    have hflags : (flags.long || flags.sizes) = true := by simpa using hrows
    rw [listingLines, if_pos hflags, totalSize_eq_sum, List.map_map, List.map_map]
    cases hlong : flags.long with
    | true =>
      rw [if_pos rfl, funext longRow_eq]
      rfl
    | false =>
      rw [if_neg Bool.false_ne_true, funext sizeRow_eq]
      rfl

/-! ### Targets -/

/-- The arguments that are no flags. -/
def pathArgs (args : List String) : List String := args.filter (!Text.hasPrefix "-" ·)

/-- What the arguments ask for, and the header above it: the current directory if there is no path,
and what a path leads to, under the path if there are several. -/
inductive Asks (s : Session σ) (args : List String) : List String → Nat → Prop
  | here : pathArgs args = [] → Asks s args [] s.cwdNode
  | path {path : String} {target : Nat} : path ∈ pathArgs args → s.resolve? path = some target →
    Asks s args (if 1 < (pathArgs args).length then [path ++ ":"] else []) target

/-- Lines before and behind a block, which are there only among several blocks, and a blank line
between. -/
structure Around (blocks : Nat) (front back : List String) : Prop where
  alone : blocks ≤ 1 → front = [] ∧ back = []
  front_ends : front = [] ∨ front.getLast? = some ""
  back_begins : back = [] ∨ back.head? = some ""

lemma intercalate_append_cons (sep block : List String) (before behind : List (List String)) :
    sep.intercalate (before ++ block :: behind) =
      before.flatMap (· ++ sep) ++ block ++ behind.flatMap (sep ++ ·) := by
  induction before with
  | nil =>
    induction behind generalizing block with
    | nil => simp
    | cons next behind ih =>
      have hrest := ih next
      simp only [List.nil_append, List.flatMap_nil] at hrest ⊢
      rw [List.intercalate_cons_cons, hrest, List.flatMap_cons]
      simp only [List.append_assoc]
  | cons first before ih =>
    obtain ⟨next, rest, hrest⟩ := List.exists_cons_of_ne_nil
      (List.append_ne_nil_of_right_ne_nil before (List.cons_ne_nil block behind))
    rw [List.cons_append, hrest, List.intercalate_cons_cons, ← hrest, ih, List.flatMap_cons]
    simp only [List.append_assoc]

lemma exists_intercalate {blocks : List (List String)} {block : List String}
    (h : block ∈ blocks) : ∃ front back, [""].intercalate blocks = front ++ block ++ back ∧
      Around blocks.length front back := by
  obtain ⟨before, behind, rfl⟩ := List.append_of_mem h
  refine ⟨_, _, intercalate_append_cons [""] block before behind, fun hone => ?_, ?_, ?_⟩
  · simp only [List.length_append, List.length_cons] at hone
    obtain rfl : before = [] := List.eq_nil_of_length_eq_zero (by omega)
    obtain rfl : behind = [] := List.eq_nil_of_length_eq_zero (by omega)
    exact ⟨rfl, rfl⟩
  · rcases List.eq_nil_or_concat before with rfl | ⟨others, last, rfl⟩
    · exact .inl rfl
    · right
      simp [List.flatMap_append, ← List.append_assoc]
  · cases behind with
    | nil => exact .inl rfl
    | cons next behind => exact .inr rfl

section Targets

variable {s : Session σ} {args : List String}

lemma list_of_pathArgs_ne_nil (h : pathArgs args ≠ []) : Command.list s args =
    (.ok (.lines ([""].intercalate ((pathArgs args).map
      (listingBlock s (.ofArgs args) (1 < (pathArgs args).length))))), s) := by
  obtain ⟨path, paths, hpaths⟩ := List.exists_cons_of_ne_nil h
  have hfilter : args.filter (!Text.hasPrefix "-" ·) = path :: paths := hpaths
  simp only [Command.list, query, hfilter, hpaths]

lemma Asks.exists_list {header : List String} {target : Nat} (h : Asks s args header target) :
    ∃ front back, Command.list s args =
        (.ok (.lines (front ++ (header ++ listing s (.ofArgs args) target) ++ back)), s) ∧
      Around (pathArgs args).length front back := by
  cases h with
  | here hnone =>
    refine ⟨[], [], ?_, fun _ => ⟨rfl, rfl⟩, .inl rfl, .inl rfl⟩
    have hfilter : args.filter (!Text.hasPrefix "-" ·) = [] := hnone
    simp [Command.list, query, hfilter]
  | @path path target hpath htarget =>
    have hblock := List.mem_map_of_mem
      (f := listingBlock s (.ofArgs args) (1 < (pathArgs args).length)) hpath
    obtain ⟨front, back, hlines, haround⟩ := exists_intercalate hblock
    rw [List.length_map] at haround
    refine ⟨front, back, ?_, haround⟩
    rw [list_of_pathArgs_ne_nil (List.ne_nil_of_mem hpath), hlines, listingBlock, htarget]
    simp

end Targets

/-- A listing shows each child of a directory that is not hidden once, in the only order that the
names or the dates allow, and the sizes in its rows add up to its total. -/
theorem listing_is_complete_and_ordered {s : Session σ} (hw : WellFormed s.tree)
    {args header : List String} {target : Nat} (hasked : Asks s args header target)
    (hdir : s.tree.isDirectory target) :
    ∃ ids lines front back,
      EntriesInOrder s target (ListingFlags.ofArgs args).all ids ∧
      (∀ ids', EntriesInOrder s target (ListingFlags.ofArgs args).all ids' → ids' = ids) ∧
      ShowsEntries s.tree (.ofArgs args) ids lines ∧
      Command.list s args = (.ok (.lines (front ++ (header ++ lines) ++ back)), s) ∧
      Around (pathArgs args).length front back := by
  obtain ⟨front, back, hlist, haround⟩ := hasked.exists_list
  have hentries : EntriesInOrder s target (ListingFlags.ofArgs args).all
      (sortedEntries s target (ListingFlags.ofArgs args).all) := entriesInOrder_sortedEntries hw
  refine ⟨_, _, front, back, hentries, fun ids' h => h.unique hentries,
    showsEntries_listingLines s.tree _ _, ?_, haround⟩
  rw [hlist, listing, listed_eq_map hdir]

/-- An old post, a new one, a hidden one and one without a date. -/
def datedPosts : List Post :=
  [⟨"old.md", ⟨"-rw-r--r--", "", "", "2020-01-02"⟩, ["# Old"]⟩,
    ⟨"new.md", ⟨"-rw-r--r--", "", "", "2024-11-04 00:43"⟩, ["# New", "text"]⟩,
    ⟨".draft.md", ⟨"-rw-r--r--", "", "", "2024-11-05"⟩, ["# Draft"]⟩,
    ⟨"note.md", ⟨"-rw-r--r--", "", "", "soon"⟩, ["# Note"]⟩]

/-- A blog with posts of each of these kinds is listed with the sizes of its posts. -/
theorem listing_is_complete_and_ordered_blog :
    let s : Session Memory := started { defaultUser := "ada" } sampleTree datedPosts .empty id
    WellFormed s.tree ∧ Asks s ["-s", "~/blog"] [] 3 ∧ s.tree.isDirectory 3 ∧ GoesByDate s 3 ∧
    ∃ ids lines, EntriesInOrder s 3 false ids ∧ ShowsEntries s.tree ⟨false, false, true⟩ ids lines ∧
      Command.list s ["-s", "~/blog"] = (.ok (.lines lines), s) := by
  intro s
  have hw : WellFormed s.tree := wellFormed_started (wellFormed_ofSeed ofSeed_sampleSeed)
  have htarget : s.resolve? "~/blog" = some 3 := by decide +kernel
  have hasked : Asks s ["-s", "~/blog"] [] 3 := .path (by decide) htarget
  have hdir : s.tree.isDirectory 3 := by decide +kernel
  have hflags : ListingFlags.ofArgs ["-s", "~/blog"] = ⟨false, false, true⟩ := by decide
  obtain ⟨ids, lines, front, back, hentries, -, hshows, hlist, haround⟩ :=
    listing_is_complete_and_ordered hw hasked hdir
  obtain ⟨rfl, rfl⟩ := haround.alone (by decide)
  rw [hflags] at hentries hshows
  exact ⟨hw, hasked, hdir, by decide +kernel, ids, lines, hentries, hshows, by simpa using hlist⟩

end SeedShell.Proofs
