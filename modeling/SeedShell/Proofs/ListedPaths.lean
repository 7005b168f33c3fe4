import Mathlib.Data.List.Forall2
import SeedShell.Proofs.Listings

/-!
# Listings of paths

A listing of several paths is made of blocks with a blank line between. Each block is the listing
of its path alone, under a header if the path leads anywhere. Of the flags only the letters count,
wherever they stand. A path that leads to a file lists this file, but the rule that hides the names
with a dot in front is applied to it as if it were an entry of a directory.
-/

namespace SeedShell.Proofs

open Session Command

variable {σ : Type} {s : Session σ} {args args' : List String} {path : String}

/-! ### Flags -/

/-- The arguments that begin with a hyphen. -/
def dashArgs (args : List String) : List String := args.filter (Text.hasPrefix "-")

/-- The letter stands in an argument that begins with a hyphen. -/
def Flagged (args : List String) (letter : Char) : Prop :=
  ∃ arg ∈ dashArgs args, letter ∈ arg.toList

instance (args : List String) (letter : Char) : Decidable (Flagged args letter) :=
  inferInstanceAs (Decidable (∃ arg ∈ dashArgs args, letter ∈ arg.toList))

/-- The arguments give the same of the letters that have a meaning. -/
def SameFlags (args args' : List String) : Prop :=
  ∀ letter ∈ ['a', 'l', 's'], Flagged args letter ↔ Flagged args' letter

instance (args args' : List String) : Decidable (SameFlags args args') :=
  List.decidableBAll (fun letter => Flagged args letter ↔ Flagged args' letter) ['a', 'l', 's']

section Flags

lemma mem_flagLetters {letter : Char} (h : letter ≠ '-') :
    letter ∈ flagLetters args ↔ Flagged args letter := by
  rw [flagLetters, List.mem_flatMap]
  refine exists_congr fun arg => and_congr_right fun harg => ?_
  have hprefix : Text.hasPrefix "-" arg = true := (List.mem_filter.mp harg).2
  rw [Text.hasPrefix, List.isPrefixOf_iff_prefix] at hprefix
  obtain ⟨rest, hrest⟩ := hprefix
  have hchars : arg.toList = '-' :: rest := hrest.symm
  simp [hchars, h]

lemma ofArgs_eq_of_sameFlags (h : SameFlags args args') :
    ListingFlags.ofArgs args = .ofArgs args' := by
  have hletter : ∀ letter ∈ ['a', 'l', 's'],
      (flagLetters args).contains letter = (flagLetters args').contains letter := by
    intro letter hmem
    have hdash : letter ≠ '-' := by
      rintro rfl
      simp at hmem
    rw [Bool.eq_iff_iff, List.contains_iff_mem, List.contains_iff_mem, mem_flagLetters hdash,
      mem_flagLetters hdash]
    exact h letter hmem
  simp only [ListingFlags.ofArgs, ListingFlags.mk.injEq]
  exact ⟨hletter 'a' (by decide), hletter 'l' (by decide), hletter 's' (by decide)⟩

lemma list_congr (hpaths : pathArgs args = pathArgs args')
    (hflags : ListingFlags.ofArgs args = .ofArgs args') :
    Command.list s args = Command.list s args' := by
  unfold pathArgs at hpaths
  simp only [Command.list, query, hpaths, hflags]

/-- A path beside the flags of other arguments. -/
lemma ofArgs_dashArgs_append (h : path ∈ pathArgs args) :
    ListingFlags.ofArgs (dashArgs args ++ [path]) = .ofArgs args := by
  have hpath : Text.hasPrefix "-" path = false := by
    simpa using (List.mem_filter.mp h).2
  have hdashes : dashArgs (dashArgs args ++ [path]) = dashArgs args := by
    simp [dashArgs, List.filter_append, List.filter_filter, hpath]
  have hletters : flagLetters (dashArgs args ++ [path]) = flagLetters args := by
    simp only [flagLetters]
    exact congrArg (List.flatMap fun arg : String => arg.toList.drop 1) hdashes
  simp only [ListingFlags.ofArgs, hletters]

lemma pathArgs_dashArgs_append (h : path ∈ pathArgs args) :
    pathArgs (dashArgs args ++ [path]) = [path] := by
  have hpath : Text.hasPrefix "-" path = false := by
    simpa using (List.mem_filter.mp h).2
  simp [pathArgs, dashArgs, List.filter_append, List.filter_filter, hpath]

end Flags

/-! ### Several paths -/

lemma list_of_pathArgs_singleton (h : pathArgs args = [path]) :
    Command.list s args = (.ok (.lines (listingBlock s (.ofArgs args) false path)), s) := by
  have hne : pathArgs args ≠ [] := by simp [h]
  rw [list_of_pathArgs_ne_nil hne, h]
  simp

/-- The block of a path: a header and what is listed for the path alone with the same flags, or the
one line that says that there is no such path. -/
inductive Block (s : Session σ) (args : List String) (path : String) : List String → Prop
  | found {target : Nat} {lines : List String} : s.resolve? path = some target →
    Command.list s (dashArgs args ++ [path]) = (.ok (.lines lines), s) →
    Block s args path ((path ++ ":") :: lines)
  | missing {line : String} : s.resolve? path = none →
    line = "ls: cannot access '" ++ path ++ "': No such file or directory" →
    Command.list s (dashArgs args ++ [path]) = (.ok (.lines [line]), s) →
    Block s args path [line]

lemma block_listingBlock (h : path ∈ pathArgs args) :
    Block s args path (listingBlock s (.ofArgs args) true path) := by
  have halone := list_of_pathArgs_singleton (s := s) (pathArgs_dashArgs_append h)
  rw [ofArgs_dashArgs_append h] at halone
  unfold listingBlock at halone ⊢
  cases hresolve : s.resolve? path with
  | none =>
    rw [hresolve] at halone
    exact .missing hresolve rfl halone
  | some target =>
    rw [hresolve] at halone
    exact .found hresolve halone

/-- Several paths are listed block by block, with a blank line between two blocks and none at the
end. What is listed depends on the flags only through the letters that are given. -/
theorem paths_are_listed_apart (s : Session σ) {args : List String}
    (hseveral : 2 ≤ (pathArgs args).length) :
    (∃ blocks, List.Forall₂ (Block s args) (pathArgs args) blocks ∧
      Command.list s args = (.ok (.lines ([""].intercalate blocks)), s)) ∧
    ∀ args', pathArgs args' = pathArgs args → SameFlags args' args →
      Command.list s args' = Command.list s args := by
  have hne : pathArgs args ≠ [] := by
    rintro hnil
    simp [hnil] at hseveral
  have hheader : decide (1 < (pathArgs args).length) = true := decide_eq_true hseveral
  refine ⟨⟨(pathArgs args).map (listingBlock s (.ofArgs args) true), ?_, ?_⟩, ?_⟩
  · rw [List.forall₂_map_right_iff, List.forall₂_same]
    exact fun path hpath => block_listingBlock hpath
  · rw [list_of_pathArgs_ne_nil hne, hheader]
  · intro args' hpaths hflags
    exact list_congr hpaths (ofArgs_eq_of_sameFlags hflags)

/-- A session with posts of every kind in the blog. -/
def datedSession : Session Memory :=
  started { defaultUser := "ada" } sampleTree datedPosts .empty id

lemma reachable_datedSession : Reachable datedSession :=
  ⟨{ defaultUser := "ada" }, sampleSeed, datedPosts, .empty, id, .ofSession datedSession, [],
    boot_eq_ok_iff.mpr ⟨sampleTree, ofSeed_sampleSeed, rfl⟩, rfl⟩

/-- A path that leads nowhere between two directories, with flags in several places. -/
theorem paths_are_listed_apart_missing :
    2 ≤ (pathArgs ["-s", "~/blog", "nope", "-la", "/home"]).length ∧
    (∃ blog home,
      Command.list datedSession ["-s", "-la", "~/blog"] = (.ok (.lines blog), datedSession) ∧
      Command.list datedSession ["-s", "-la", "/home"] = (.ok (.lines home), datedSession) ∧
      Command.list datedSession ["-s", "~/blog", "nope", "-la", "/home"] =
        (.ok (.lines ("~/blog:" :: blog ++ "" ::
          "ls: cannot access 'nope': No such file or directory" :: "" :: "/home:" :: home)),
          datedSession)) ∧
    Command.list datedSession ["~/blog", "-als", "nope", "/home", "-l"] =
      Command.list datedSession ["-s", "~/blog", "nope", "-la", "/home"] := by
  have hseveral : 2 ≤ (pathArgs ["-s", "~/blog", "nope", "-la", "/home"]).length := by decide
  have hpaths : pathArgs ["-s", "~/blog", "nope", "-la", "/home"] =
      ["~/blog", "nope", "/home"] := by
    decide
  have hblog : datedSession.resolve? "~/blog" = some 3 := by decide +kernel
  have hnope : datedSession.resolve? "nope" = none := by decide +kernel
  have hhome : datedSession.resolve? "/home" = some 1 := by decide +kernel
  obtain ⟨⟨blocks, hblocks, hlist⟩, hflags⟩ := paths_are_listed_apart datedSession hseveral
  rw [hpaths] at hblocks
  obtain _ | ⟨hfirst, _ | ⟨hsecond, _ | ⟨hthird, _ | _⟩⟩⟩ := hblocks
  refine ⟨hseveral, ?_, hflags _ (by decide) (by decide)⟩
  cases hfirst with
  | missing hnone => cases hblog.symm.trans hnone
  | @found _ blog _ hblog =>
    cases hsecond with
    | found hsome => cases hnope.symm.trans hsome
    | missing _ hline _ =>
      cases hthird with
      | missing hnone => cases hhome.symm.trans hnone
      | @found _ home _ hhome =>
        refine ⟨blog, home, hblog, hhome, ?_⟩
        rw [hlist, hline]
        simp

/-! ### Files -/

/-- Lines for one file: its name alone, or its size as the total and the one row of it. -/
structure ShowsFile (flags : ListingFlags) (n : Node) (lines : List String) : Prop where
  name : flags.long = false → flags.sizes = false → lines = [n.name]
  row : flags.long = true ∨ flags.sizes = true →
    lines = ["total " ++ Nat.repr n.size, (besideSize flags.long n).1 ++
      Text.padLeft 6 (Nat.repr n.size) ++ " " ++ (besideSize flags.long n).2]

section Files

variable {file : Nat}

lemma listed_of_file (hfile : s.tree.isDirectory file = false) (all : Bool) :
    listed s file all =
      if all = true ∨ Text.hasPrefix "." (s.tree.node file).name = false then [s.tree.node file]
      else [] := by
  rw [listed_eq_mergeSort, shown_of_file hfile]
  cases all <;> cases hhidden : Text.hasPrefix "." (s.tree.node file).name <;>
    simp [isHidden, hhidden]

lemma ShowsEntries.showsFile {flags : ListingFlags} {lines : List String}
    (hfile : s.tree.isDirectory file = false) (h : ShowsEntries s.tree flags [file] lines) :
    ShowsFile flags (s.tree.node file) lines where
  name hlong hsizes := by
    have hname : (s.tree.node file).displayName = (s.tree.node file).name := if_neg (by
      simpa [Tree.isDirectory] using hfile)
    rw [h.names hlong hsizes, List.map_singleton, hname]
    rfl
  row hrows := by
    simpa using h.rows hrows

/-- Lines that show no entry do not show a file with a name. -/
lemma ShowsEntries.not_showsFile {flags : ListingFlags} {lines : List String}
    (hname : (s.tree.node file).name ≠ "") (h : ShowsEntries s.tree flags [] lines) :
    ¬ShowsFile flags (s.tree.node file) lines := by
  intro hshows
  by_cases hrows : flags.long = true ∨ flags.sizes = true
  · have htotal := h.rows hrows
    rw [hshows.row hrows] at htotal
    simp at htotal
  · simp only [not_or, Bool.not_eq_true] at hrows
    have hline := h.names hrows.1 hrows.2
    rw [hshows.name hrows.1 hrows.2] at hline
    exact hname (List.singleton_injective hline)

lemma list_of_file (hpath : pathArgs args = [path]) (hresolve : s.resolve? path = some file)
    (hfile : s.tree.isDirectory file = false) :
    Command.list s args = (.ok (.lines (listingLines (.ofArgs args)
      (if (ListingFlags.ofArgs args).all = true ∨
          Text.hasPrefix "." (s.tree.node file).name = false then [s.tree.node file]
        else []))), s) := by
  have hlines : listingBlock s (.ofArgs args) false path = listing s (.ofArgs args) file := by
    simp [listingBlock, hresolve]
  rw [list_of_pathArgs_singleton hpath, hlines, listing, listed_of_file hfile]

/-- A file under a path is listed if its name does not begin with a dot or all names are asked for.
Otherwise nothing is, as if the path led to an empty directory. -/
theorem named_file_is_listed_iff (hpath : pathArgs args = [path])
    (hresolve : s.resolve? path = some file) (hfile : s.tree.isDirectory file = false) :
    ∃ lines, Command.list s args = (.ok (.lines lines), s) ∧
      (ShowsFile (.ofArgs args) (s.tree.node file) lines ↔
        (ListingFlags.ofArgs args).all = true ∨
          Text.hasPrefix "." (s.tree.node file).name = false) ∧
      (¬ShowsFile (.ofArgs args) (s.tree.node file) lines →
        ShowsEntries s.tree (.ofArgs args) [] lines) := by
  refine ⟨_, list_of_file hpath hresolve hfile, ?_⟩
  have hshows := showsEntries_listingLines s.tree (ListingFlags.ofArgs args)
  split
  · next hshown =>
    have hboth := (hshows [file]).showsFile hfile
    exact ⟨iff_of_true hboth hshown, absurd hboth⟩
  · next hhidden =>
    have hname : (s.tree.node file).name ≠ "" := by
      intro hempty
      exact hhidden (.inr (by rw [hempty]; rfl))
    exact ⟨iff_of_false ((hshows []).not_showsFile hname) hhidden, fun _ => hshows []⟩

end Files

lemma resolve?_draft : datedSession.resolve? "~/blog/.draft.md" = some 8 := by decide +kernel

/-- A hidden file is listed if all names are asked for. -/
theorem named_file_is_listed_iff_hidden :
    pathArgs ["-a", "~/blog/.draft.md", "-l"] = ["~/blog/.draft.md"] ∧
    datedSession.resolve? "~/blog/.draft.md" = some 8 ∧
    datedSession.tree.isDirectory 8 = false ∧ (datedSession.tree.node 8).name = ".draft.md" ∧
    ∃ lines, Command.list datedSession ["-a", "~/blog/.draft.md", "-l"] =
        (.ok (.lines lines), datedSession) ∧
      ShowsFile ⟨true, true, false⟩ (datedSession.tree.node 8) lines := by
  have hpath : pathArgs ["-a", "~/blog/.draft.md", "-l"] = ["~/blog/.draft.md"] := by decide
  have hfile : datedSession.tree.isDirectory 8 = false := by decide +kernel
  obtain ⟨lines, hlist, hshown, -⟩ := named_file_is_listed_iff hpath resolve?_draft hfile
  have hall : (ListingFlags.ofArgs ["-a", "~/blog/.draft.md", "-l"]).all = true := by decide
  exact ⟨hpath, resolve?_draft, hfile, by decide +kernel, lines, hlist, hshown.mpr (.inl hall)⟩

/-- Without that, the line for it is empty. -/
theorem named_hidden_file_is_not_listed : Reachable datedSession ∧
    datedSession.resolve? "~/blog/.draft.md" = some 8 ∧
    datedSession.tree.isDirectory 8 = false ∧
    Command.list datedSession ["~/blog/.draft.md"] = (.ok (.lines [""]), datedSession) ∧
    ¬ShowsFile (.ofArgs ["~/blog/.draft.md"]) (datedSession.tree.node 8) [""] := by
  have hfile : datedSession.tree.isDirectory 8 = false := by decide +kernel
  have hlist : Command.list datedSession ["~/blog/.draft.md"] =
      (.ok (.lines [""]), datedSession) := by
    rw [list_of_file (by decide) resolve?_draft hfile, if_neg (by decide +kernel)]
    rfl
  refine ⟨reachable_datedSession, resolve?_draft, hfile, hlist, fun h => ?_⟩
  have hname := h.name (by decide) (by decide)
  exact absurd hname (by decide +kernel)

end SeedShell.Proofs
