import Mathlib.Data.List.Basic
import SeedShell.Proofs.Soundness
import SeedShell.Store.Memory

/-!
# Entering directories

`cd` asks the resolver about its argument without the blanks at the two ends, while every other
command asks about the argument itself. So `cd` ends where the resolver says if, and only if, the
blanks make no difference to what the argument leads to.
-/

namespace SeedShell.Proofs

open Session

variable {σ : Type}

/-! ### What the resolver says -/

/-- The directory that a path leads to, or why there is none to enter. -/
def landing (s : Session σ) (path : String) : Except EntryError Nat :=
  match s.resolve? path with
  | none => .error .missing
  | some id => if s.tree.isDirectory id then .ok id else .error .notDirectory

section Landing

variable {s : Session σ} {path : String}

lemma landing_of_none (h : s.tree.resolve s.cwd s.user path = none) :
    landing s path = .error .missing := by
  rw [landing, resolve?, h, Option.map_none]

lemma landing_of_some {place : Place} (h : s.tree.resolve s.cwd s.user path = some place) :
    landing s path =
      if s.tree.isDirectory place.node then .ok place.node else .error .notDirectory := by
  rw [landing, resolve?, h, Option.map_some]

lemma resolve?_of_landing {dir : Nat} (h : landing s path = .ok dir) :
    s.resolve? path = some dir := by
  unfold landing at h
  split at h
  · cases h
  · next id hid =>
    split at h
    · cases h
      exact hid
    · cases h

end Landing

variable [KeyValueStore σ]

/-! ### What `cd` does -/

/-- `cd` is refused for a reason, and the session stays. -/
def Refused (s : Session σ) (ran : Ran σ) (reason : String) : Prop :=
  ∃ problem path, ran = (.error problem, s) ∧ problem.message = "cd: " ++ path ++ reason

/-- `ls` with some arguments lists a directory. -/
def Lists (s : Session σ) (args : List String) (dir : Nat) : Prop :=
  Run.runWords .standard s ("ls" :: args) =
    (.ok (.lines (Command.listing s (.ofArgs []) dir)), s)

/-- A run of `cd` ends in the directory of a path, and `ls` lists there the entries that it lists for
the path from outside, unless it takes that for flags. -/
structure Entered (s : Session σ) (path : String) (dir : Nat) (ran : Ran σ) : Prop where
  answer : ran.1 = .ok .none
  cwdNode : ran.2.cwdNode = dir
  cwd : ran.2.cwd = s.tree.segments dir
  inside : Lists ran.2 [] dir
  outside : ¬Text.hasPrefix "-" path → Lists s [path] dir
  entries : (Command.listed ran.2 dir false).Perm (Command.listed s dir false)

/-- `cd` with an argument does what the resolver says about a path. -/
inductive EntersAs (s : Session σ) (arg path : String) : Prop
  | directory {dir : Nat} : landing s path = .ok dir →
    Entered s path dir (Run.runWords .standard s ["cd", arg]) → EntersAs s arg path
  | file : landing s path = .error .notDirectory →
    Refused s (Run.runWords .standard s ["cd", arg]) ": Not a directory" → EntersAs s arg path
  | missing : landing s path = .error .missing →
    Refused s (Run.runWords .standard s ["cd", arg]) ": No such directory" → EntersAs s arg path

/-- A word that is no path to a script runs the command of its name. -/
lemma runWords_of_get? {s : Session σ} {name : String} {command : Command σ} (args : List String)
    (hroot : ¬['/'] <+: name.toList) (hhere : ¬['.', '/'] <+: name.toList)
    (hget : (Registry.standard : Registry σ).get? name = some command) :
    Run.runWords .standard s (name :: args) = command s args := by
  generalize hwords : name :: args = words
  fun_cases Run.runWords .standard s words with
  | case1 => cases hwords
  | case2 _ _ path hname =>
    cases hwords
    exact absurd (hname ▸ List.prefix_append ['/'] path) hroot
  | case3 _ _ path hname =>
    cases hwords
    exact absurd (hname ▸ List.prefix_append ['.', '/'] path) hhere
  | case4 =>
    cases hwords
    rw [Registry.dispatch, hget]

lemma runWords_ls (s : Session σ) (args : List String) :
    Run.runWords .standard s ("ls" :: args) = Command.list s args :=
  runWords_of_get? args (by decide) (by decide) rfl

lemma runWords_cd (s : Session σ) (arg : String) :
    Run.runWords .standard s ["cd", arg] = Command.changeDirectory s [arg] :=
  runWords_of_get? [arg] (by decide) (by decide) rfl

/-! ### Listing -/

section Listing

variable {s : Session σ} {path : String} {dir : Nat}

lemma lists_cwdNode (s : Session σ) : Lists s [] s.cwdNode := runWords_ls s []

lemma lists_of_resolve? (hflags : ¬Text.hasPrefix "-" path) (h : s.resolve? path = some dir) :
    Lists s [path] dir := by
  have hpaths : [path].filter (!Text.hasPrefix "-" ·) = [path] := by simp [hflags]
  have hletters : Command.flagLetters [path] = Command.flagLetters [] := by
    simp [Command.flagLetters, hflags]
  rw [Lists, runWords_ls]
  simp only [Command.list, Command.query, hpaths, Command.ListingFlags.ofArgs, hletters,
    List.map_singleton, Command.listingBlock, h]
  rfl

omit [KeyValueStore σ] in
/-- The order of a listing may depend on where one stands, the entries do not. -/
lemma listed_perm {s' : Session σ} (htree : s'.tree = s.tree) (all : Bool) :
    (Command.listed s' dir all).Perm (Command.listed s dir all) := by
  unfold Command.listed
  rw [htree]
  exact (List.mergeSort_perm _ _).trans (List.mergeSort_perm _ _).symm

end Listing

/-! ### The argument of `cd` -/

section Arguments

variable {s : Session σ}

lemma Reachable.entered (hs : Reachable s) {path : String} {place : Place}
    (h : s.tree.resolve s.cwd s.user path = some place) (hdir : s.tree.isDirectory place.node) :
    Entered s path place.node (.ok .none, s.setPlace place.segments) := by
  have hw := hs.wellFormed
  obtain ⟨here, -, hcwd⟩ := hw.isPlace_iff.mp hs.grown_and_isPlace.2
  have hsegments : s.tree.segments place.node = place.segments := by
    rw [← hcwd] at h
    exact hw.segments_of_resolve h
  have hnode : (s.setPlace place.segments).cwdNode = place.node := by
    have hat : s.tree.directoryAt? place.segments = some place.node := by
      rw [← hsegments, hw.directoryAt?_segments hdir]
    have hcwdNode : (s.setPlace place.segments).cwdNode =
        (s.tree.directoryAt? place.segments).getD Tree.root := rfl
    rw [hcwdNode, hat, Option.getD_some]
  have htree : (s.setPlace place.segments).tree = s.tree := rfl
  refine ⟨rfl, hnode, hsegments.symm, ?_, ?_, listed_perm htree false⟩
  · have hinside := lists_cwdNode (s.setPlace place.segments)
    rwa [hnode] at hinside
  · intro hflags
    refine lists_of_resolve? hflags ?_
    rw [resolve?, h, Option.map_some]

/-- `cd` does what the resolver says about its argument without the blanks around it. -/
lemma Reachable.entersAs_trim (hs : Reachable s) (arg : String) :
    EntersAs s arg (Text.trim arg) := by
  have hran : Run.runWords .standard s ["cd", arg] = Command.changeDirectory s [arg] :=
    runWords_cd s arg
  have hdestination : Command.destination [arg] = Text.trim arg := rfl
  rw [Command.changeDirectory, hdestination, Session.enter] at hran
  cases hplace : s.tree.resolve s.cwd s.user (Text.trim arg) with
  | none =>
    rw [hplace] at hran
    exact .missing (landing_of_none hplace) ⟨_, Text.trim arg, hran, rfl⟩
  | some place =>
    have hlanding := landing_of_some hplace
    rw [hplace] at hran
    by_cases hdir : s.tree.isDirectory place.node
    · simp only [hdir, if_true] at hran hlanding
      refine .directory hlanding ?_
      rw [hran]
      exact hs.entered hplace hdir
    · simp only [hdir] at hran hlanding
      exact .file hlanding ⟨_, Text.trim arg, hran, rfl⟩

omit [KeyValueStore σ] in
lemma Refused.not_missing {ran : Ran σ} (h : Refused s ran ": Not a directory") :
    ¬Refused s ran ": No such directory" := by
  rintro ⟨problem, path, hran, hmessage⟩
  obtain ⟨problem', path', hran', hmessage'⟩ := h
  obtain rfl : problem = problem' := by
    rw [hran] at hran'
    exact Except.error.inj (congrArg Prod.fst hran')
  -- the last fifteen characters of the two messages
  have hchars := congrArg String.toList (hmessage'.symm.trans hmessage)
  have hfile : ": Not a directory".toList = ": ".toList ++ "Not a directory".toList := by decide
  have hmissing : ": No such directory".toList = ": No".toList ++ " such directory".toList := by
    decide
  simp only [String.toList_append, hfile, hmissing] at hchars
  rw [← List.append_assoc, ← List.append_assoc] at hchars
  have hlast := List.append_inj_right' hchars (by decide)
  exact absurd hlast (by decide)

lemma Entered.not_refused {path : String} {dir : Nat} {ran : Ran σ} (h : Entered s path dir ran)
    (reason : String) : ¬Refused s ran reason := by
  rintro ⟨problem, -, hran, -⟩
  have hanswer := h.answer
  rw [hran] at hanswer
  cases hanswer

/-- What `cd` does tells what the resolver says. -/
lemma EntersAs.landing_eq {arg path path' : String} (h : EntersAs s arg path)
    (h' : EntersAs s arg path') : landing s path = landing s path' := by
  cases h with
  | directory hsaid hentered =>
    cases h' with
    | directory hsaid' hentered' => rw [hsaid, hsaid', ← hentered.cwdNode, ← hentered'.cwdNode]
    | file _ hrefused => exact absurd hrefused (hentered.not_refused _)
    | missing _ hrefused => exact absurd hrefused (hentered.not_refused _)
  | file hsaid hrefused =>
    cases h' with
    | directory _ hentered => exact absurd hrefused (hentered.not_refused _)
    | file hsaid' _ => rw [hsaid, hsaid']
    | missing _ hmissing => exact absurd hmissing hrefused.not_missing
  | missing hsaid hrefused =>
    cases h' with
    | directory _ hentered => exact absurd hrefused (hentered.not_refused _)
    | file _ hfile => exact absurd hrefused hfile.not_missing
    | missing hsaid' _ => rw [hsaid, hsaid']

lemma EntersAs.congr {arg path path' : String} (h : EntersAs s arg path)
    (hpath : landing s path = landing s path') : EntersAs s arg path' := by
  cases h with
  | directory hsaid hentered =>
    rw [hpath] at hsaid
    refine .directory hsaid { hentered with outside := fun hflags => ?_ }
    exact lists_of_resolve? hflags (resolve?_of_landing hsaid)
  | file hsaid hrefused => exact .file (hpath ▸ hsaid) hrefused
  | missing hsaid hrefused => exact .missing (hpath ▸ hsaid) hrefused

/-- `cd` does what the resolver says about its argument without the blanks around it. So it does
what the resolver says about the argument itself if, and only if, both are said to be the same. -/
theorem cd_enters_as_resolved_iff (hs : Reachable s) (arg : String) :
    EntersAs s arg (Text.trim arg) ∧
      (EntersAs s arg arg ↔ landing s (Text.trim arg) = landing s arg) := by
  have htrim := hs.entersAs_trim arg
  refine ⟨htrim, fun h => ?_, fun hsame => ?_⟩
  · exact htrim.landing_eq h
  · exact htrim.congr hsame

end Arguments

/-! ### A name with a blank at its end -/

/-- A home with two directories whose names differ in a blank. -/
def blankSeed : Seed :=
  .directory "/" ⟨"drwxr-xr-x", "", "", ""⟩
    [.directory "home" ⟨"drwxr-xr-x", "", "", ""⟩
      [.directory "ada" ⟨"drwxr-xr-x", "", "", ""⟩
        [.directory "docs" ⟨"drwxr-xr-x", "", "", ""⟩ [],
          .directory "docs " ⟨"drwxr-xr-x", "", "", ""⟩
            [.file "note" ⟨"-rw-r--r--", "", "", ""⟩ ["text"]]]]]

def blankTree : Tree :=
  ⟨#[⟨"/", ⟨"drwxr-xr-x", "", "", ""⟩, none, .directory [1]⟩,
    ⟨"home", ⟨"drwxr-xr-x", "", "", ""⟩, some 0, .directory [2]⟩,
    ⟨"ada", ⟨"drwxr-xr-x", "", "", ""⟩, some 1, .directory [3, 4]⟩,
    ⟨"docs", ⟨"drwxr-xr-x", "", "", ""⟩, some 2, .directory []⟩,
    ⟨"docs ", ⟨"drwxr-xr-x", "", "", ""⟩, some 2, .directory [5]⟩,
    ⟨"note", ⟨"-rw-r--r--", "", "", ""⟩, some 4, .file ["text"]⟩]⟩

lemma ofSeed_blankSeed : Tree.ofSeed blankSeed = .ok blankTree := rfl

/-- A session in the home with the two directories. -/
def blankSession : Session Memory := started { defaultUser := "ada" } blankTree [] .empty id

lemma reachable_blankSession : Reachable blankSession :=
  ⟨{ defaultUser := "ada" }, blankSeed, [], .empty, id, .ofSession blankSession, [],
    boot_eq_ok_iff.mpr ⟨blankTree, ofSeed_blankSeed, rfl⟩, rfl⟩

/-- Blanks inside a path do no harm. -/
theorem cd_enters_as_resolved_inside : Words.ofLine "cd 'docs /.'" = ["cd", "docs /."] ∧
    EntersAs blankSession "docs /." "docs /." ∧
    (Run.runWords .standard blankSession ["cd", "docs /."]).2.cwd = ["/", "home", "ada", "docs "] := by
  have hlanding : landing blankSession (Text.trim "docs /.") = landing blankSession "docs /." := by
    decide +kernel
  obtain ⟨-, hsame⟩ := cd_enters_as_resolved_iff reachable_blankSession "docs /."
  exact ⟨by decide +kernel, hsame.mpr hlanding, by decide +kernel⟩

/-- The directory with the blank at its end is listed, but the other one is entered. -/
theorem cd_enters_other : Reachable blankSession ∧ Words.ofLine "cd docs\\ " = ["cd", "docs "] ∧
    blankSession.resolve? "docs " = some 4 ∧ blankSession.tree.isDirectory 4 ∧
    Lists blankSession ["docs "] 4 ∧
    (Run.runWords .standard blankSession ["cd", "docs "]).2.cwdNode = 3 ∧
    ¬EntersAs blankSession "docs " "docs " := by
  have hresolve : blankSession.resolve? "docs " = some 4 := by decide +kernel
  have hnode : (Run.runWords .standard blankSession ["cd", "docs "]).2.cwdNode = 3 := by
    decide +kernel
  have hlanding : landing blankSession "docs " = .ok 4 := by decide +kernel
  refine ⟨reachable_blankSession, by decide +kernel, hresolve, by decide,
    lists_of_resolve? (by decide) hresolve, hnode, fun h => ?_⟩
  cases h with
  | directory hsaid hentered =>
    rw [hlanding, Except.ok.injEq] at hsaid
    have hentered := hentered.cwdNode
    rw [hnode, ← hsaid] at hentered
    exact absurd hentered (by decide)
  | file hsaid _ => cases hlanding.symm.trans hsaid
  | missing hsaid _ => cases hlanding.symm.trans hsaid

end SeedShell.Proofs
