import SeedShell.Proofs.Entering
import SeedShell.Proofs.Paths
import SeedShell.Proofs.TypedWords

/-!
# Launches stay in the blog

Whatever text a page is opened with, what is left of it after cleaning is one name: it holds no
slash, no dot and no mark, and its spaces are escaped. So the command of a launch has two words,
and shows one entry of one directory.
-/

namespace SeedShell.Proofs

open Completion Words Session

/-! ### Names -/

/-- A parameter and the name in it, without one extension. -/
inductive Names : String → String → Prop
  | extended (name : String) : Names (name ++ ".md") name
  | plain {name : String} : (∀ stem, name ≠ stem ++ ".md") → Names name name

/-- What a name is cleaned to: its letters, digits, hyphens and spaces. -/
def lettersOf (name : String) : String :=
  String.ofList (name.toList.filter fun c => c.isAlphanum || c == '-' || c == ' ')

section Characters

variable {c : Char}

lemma isNameChar_eq (c : Char) :
    Launch.isNameChar c = (c.isAlphanum || c == '-' || c == ' ') := by
  have hupper : c.isUpper = ('A' ≤ c && c ≤ 'Z') := Bool.decide_and _ _
  have hlower : c.isLower = ('a' ≤ c && c ≤ 'z') := rfl
  have hdigit : c.isDigit = ('0' ≤ c && c ≤ '9') := rfl
  have halphanum : c.isAlphanum = (c.isUpper || c.isLower || c.isDigit) := rfl
  rw [Launch.isNameChar, halphanum, hupper, hlower, hdigit,
    Bool.or_comm ('A' ≤ c && c ≤ 'Z' : Bool)]

/-- The code points of the characters that a name may keep. -/
lemma toNat_of_isNameChar (h : Launch.isNameChar c) :
    97 ≤ c.toNat ∧ c.toNat ≤ 122 ∨ 65 ≤ c.toNat ∧ c.toNat ≤ 90 ∨
      48 ≤ c.toNat ∧ c.toNat ≤ 57 ∨ c.toNat = 45 ∨ c.toNat = 32 := by
  simp only [Launch.isNameChar, Bool.or_eq_true, Bool.and_eq_true, decide_eq_true_eq,
    beq_iff_eq, Char.le_def, UInt32.le_iff_toNat_le] at h
  rcases h with (((h | h) | h) | rfl) | rfl
  · exact .inl h
  · exact .inr (.inl h)
  · exact .inr (.inr (.inl h))
  · exact .inr (.inr (.inr (.inl rfl)))
  · exact .inr (.inr (.inr (.inr rfl)))

lemma isLiteral_of_isNameChar (h : Launch.isNameChar c) : isLiteral c ∨ c = ' ' := by
  by_cases hspace : c = ' '
  · exact .inr hspace
  have hrange := toNat_of_isNameChar h
  have hother : c.toNat ≠ 32 := fun heq => hspace (Char.ext (UInt32.toNat_inj.mp heq))
  have hbackslash : c ≠ '\\' := by
    rintro rfl
    cases h
  have hquote : isQuote c = false := by
    refine Bool.eq_false_iff.mpr fun hquote => ?_
    rcases eq_of_isQuote hquote with rfl | rfl <;> cases h
  have hblank : Text.isBlank c = false := by
    simp only [Text.isBlank, Bool.or_eq_false_iff, Bool.and_eq_false_iff,
      decide_eq_false_iff_not, beq_eq_false_iff_ne]
    omega
  exact .inl (by simp [isLiteral, hbackslash, hquote, hblank])

end Characters

section Cleaning

variable (name : String)

lemma clean_eq : Launch.clean name = lettersOf name := by
  have hchars : Launch.isNameChar = fun c => c.isAlphanum || c == '-' || c == ' ' :=
    funext isNameChar_eq
  rw [Launch.clean, lettersOf, hchars]

lemma clean_clean : Launch.clean (Launch.clean name) = Launch.clean name := by
  rw [Launch.clean, Launch.clean, String.toList_ofList, List.filter_filter]
  simp

variable {name} in
lemma isNameChar_of_mem_clean {c : Char} (h : c ∈ (Launch.clean name).toList) :
    Launch.isNameChar c := by
  rw [Launch.clean, String.toList_ofList] at h
  exact (List.mem_filter.mp h).2

lemma notMem_clean {c : Char} (h : Launch.isNameChar c = false) :
    c ∉ (Launch.clean name).toList := by
  intro hmem
  rw [isNameChar_of_mem_clean hmem] at h
  cases h

lemma names_iff {decoded name : String} :
    Names decoded name ↔ Launch.withoutExtension decoded = name := by
  constructor
  · rintro (stem | hplain)
    · rw [Launch.withoutExtension, dropSuffix?_eq_some_iff.mpr rfl, Option.getD_some]
    · have hnone : Text.dropSuffix? ".md" decoded = none :=
        Option.eq_none_iff_forall_ne_some.mpr fun stem hstem =>
          hplain stem (dropSuffix?_eq_some_iff.mp hstem)
      rw [Launch.withoutExtension, hnone, Option.getD_none]
  · rintro rfl
    unfold Launch.withoutExtension
    cases hname : Text.dropSuffix? ".md" decoded with
    | some name =>
      obtain rfl := dropSuffix?_eq_some_iff.mp hname
      exact .extended name
    | none =>
      refine .plain fun stem hstem => ?_
      rw [dropSuffix?_eq_some_iff.mpr hstem] at hname
      cases hname

/-- A name that is clean has no dot, so no extension either. -/
lemma withoutExtension_clean : Launch.withoutExtension (Launch.clean name) = Launch.clean name := by
  unfold Launch.withoutExtension
  cases hstem : Text.dropSuffix? ".md" (Launch.clean name) with
  | none => rfl
  | some stem =>
    have hdot : '.' ∈ (Launch.clean name).toList := by
      rw [dropSuffix?_eq_some_iff.mp hstem]
      simp
    exact absurd hdot (notMem_clean name (by decide))

end Cleaning

/-! ### Commands -/

/-- The path of a post in the blog. -/
def postPath (settings : Settings) (name : String) : String :=
  settings.blogDirectory ++ "/" ++ name ++ ".md"

lemma ofLine_cat {path : String} (h : ∀ c ∈ path.toList, isLiteral c ∨ c = ' ')
    (hempty : path ≠ "") : ofLine ("cat " ++ Words.escape path) = ["cat", path] := by
  have hstart : EndsBetweenWords "cat ".toList := ⟨["cat".toList], by decide⟩
  have hchars : unescape (escapeChars path.toList) ≠ [] := by
    rw [unescape_escapeChars]
    simpa using hempty
  have hread := ofLine_append_token hstart (token_escapeChars h) hchars
  rw [String.ofList_append, unescape_escapeChars, String.ofList_toList, String.ofList_toList]
    at hread
  exact hread

section Posts

variable {settings : Settings} (hdirectory : ∀ c ∈ settings.blogDirectory.toList, isLiteral c)
  (name : String)

include hdirectory in
lemma command_eq : "cat " ++ settings.blogDirectory ++ "/" ++ Words.escape name ++ ".md" =
    "cat " ++ Words.escape (postPath settings name) := by
  have hslash : escapeChars "/".toList = "/".toList := by decide
  have hextension : escapeChars ".md".toList = ".md".toList := by decide
  rw [← String.toList_inj]
  simp only [Words.escape, postPath, String.toList_append, String.toList_ofList,
    escapeChars_append, escapeChars_of_isLiteral hdirectory, hslash, hextension,
    List.append_assoc]

include hdirectory in
lemma isLiteral_of_mem_postPath {c : Char}
    (h : c ∈ (postPath settings (Launch.clean name)).toList) : isLiteral c ∨ c = ' ' := by
  simp only [postPath, String.toList_append, List.mem_append] at h
  rcases h with ((h | h) | h) | h
  · exact .inl (hdirectory c h)
  · obtain rfl : c = '/' := by simpa using h
    exact .inl (by decide)
  · exact isLiteral_of_isNameChar (isNameChar_of_mem_clean h)
  · have hc : c = '.' ∨ c = 'm' ∨ c = 'd' := by simpa using h
    rcases hc with rfl | rfl | rfl <;> exact .inl (by decide)

lemma trim_command : Text.trim ("cat " ++ settings.blogDirectory ++ "/" ++ Words.escape name ++
    ".md") = "cat " ++ settings.blogDirectory ++ "/" ++ Words.escape name ++ ".md" := by
  have hchars : "cat " ++ settings.blogDirectory ++ "/" ++ Words.escape name ++ ".md" =
      String.ofList ('c' :: (("at ".toList ++ settings.blogDirectory.toList ++ "/".toList ++
        (Words.escape name).toList ++ ".m".toList) ++ ['d'])) := by
    rw [← String.toList_inj]
    simp
  rw [hchars]
  exact trim_of_not_blank (by decide) (by decide) _

end Posts

/-! ### What a launch shows -/

/-- The directory from which posts are launched: where the setting leads, or the root if it is
empty. -/
def launchDirectory? {σ : Type} (s : Session σ) (settings : Settings) : Option Nat :=
  if settings.blogDirectory = "" then some Tree.root
  else (s.resolve? settings.blogDirectory).filter s.tree.isDirectory

/-- What is shown for a node under a path: the rendered content of a file, and for anything else
that there is none. -/
def shownPost {σ : Type} (s : Session σ) (path : String) (post : Option Nat) : Event :=
  match post with
  | none => .line ("cat: " ++ path ++ ": No such file")
  | some id =>
    match (s.tree.node id).content? with
    | none => .line ("cat: " ++ path ++ ": Is a directory")
    | some content => .rich (s.render (Text.join "\n" content))

section Showing

variable {σ : Type} {s : Session σ}

lemma resolve?_postPath (hw : WellFormed s.tree) (settings : Settings) {name : String}
    (hname : '/' ∉ name.toList) : s.resolve? (postPath settings name) =
      (launchDirectory? s settings).bind (s.tree.child? · (name ++ ".md")) := by
  have hpath : postPath settings name =
      String.ofList (settings.blogDirectory.toList ++ '/' :: (name ++ ".md").toList) := by
    rw [postPath, ← String.toList_inj]
    simp
  have hcomponents : components (String.ofList (name ++ ".md").toList) = [name ++ ".md"] := by
    rw [components_name (by simpa using hname) (by simp), String.ofList_toList]
  have hlast : (name ++ ".md").toList.getLast? = some 'd' := by simp
  have hstay : name ++ ".md" ≠ "." := by
    intro heq
    rw [heq] at hlast
    cases hlast
  have hup : name ++ ".md" ≠ ".." := by
    intro heq
    rw [heq] at hlast
    cases hlast
  rw [hpath, resolve?_append_slash hw _ hcomponents hstay hup, launchDirectory?]
  by_cases hempty : settings.blogDirectory = ""
  · rw [if_pos hempty, hempty]
    exact congrArg (Option.bind · _) (directoryOn?_root hw)
  · rw [if_neg hempty, directoryOn?_slash hw (by simpa using hempty), directoryOn?,
      String.ofList_toList]

lemma events_ofProblem {problem : Problem} (h : '\n' ∉ problem.message.toList) :
    (Output.ofProblem problem).events = [.line problem.message] := by
  rw [Output.ofProblem, Output.events, lines_of_notMem h, List.map_singleton]

lemma events_showFile {path : String} (hline : '\n' ∉ path.toList)
    (hname : ∀ id, s.resolve? path = some id → Text.hasSuffix ".md" (s.tree.node id).name) :
    (Output.ofResult (Command.showFile s [path]).1).events =
      [shownPost s path (s.resolve? path)] := by
  unfold Command.showFile Command.query shownPost
  dsimp only
  cases hresolve : s.resolve? path with
  | none =>
    have hproblem : '\n' ∉ (Problem.noFile path).message.toList := by
      change '\n' ∉ ("cat: " ++ path ++ ": No such file").toList
      simp [hline]
    exact events_ofProblem hproblem
  | some id =>
    dsimp only
    cases hcontent : (s.tree.node id).content? with
    | none =>
      have hproblem : '\n' ∉ (Problem.isDirectory path).message.toList := by
        change '\n' ∉ ("cat: " ++ path ++ ": Is a directory").toList
        simp [hline]
      exact events_ofProblem hproblem
    | some content =>
      dsimp only
      rw [Output.ofResult, Command.fileOutput, if_pos (hname id hresolve), Output.events]

lemma execute_cat [KeyValueStore σ] (sh : Shell σ) {line path : String}
    (htrim : Text.trim line = line) (hwords : ofLine line = ["cat", path]) :
    sh.execute line = (.line (sh.prompt ++ line) ::
      (Output.ofResult (Command.showFile sh.session [path]).1).events, sh) := by
  have hempty : line ≠ "" := by
    rintro rfl
    cases hwords
  have hran : Run.runWords .standard sh.session ["cat", path] =
      Command.showFile sh.session [path] :=
    runWords_of_get? [path] (by decide) (by decide) rfl
  unfold Shell.execute
  simp only [htrim, if_neg hempty, Run.runLine, hwords, hran]
  rfl

lemma launch_eq [KeyValueStore σ] (sh : Shell σ) {raw : String} {launch : Launch}
    (h : Launch.ofRaw? sh.session.settings raw = some launch) : sh.launch raw =
      (launch.notice.toList.map .line ++ (sh.execute launch.command).1,
        (sh.execute launch.command).2) := by
  rw [Shell.launch, h]

end Showing

/-! ### Launches -/

/-- A launch for a name that is cleaned: the script with the list of posts, or one post of the
blog. -/
structure Opens (settings : Settings) (name cleaned : String) (launch : Launch) : Prop where
  notice : launch.notice =
    if cleaned ≠ name ∧ cleaned ≠ "list" then some "Invalid blog post name." else none
  list : cleaned = "list" → launch.command = settings.listScript
  words : cleaned ≠ "list" → ofLine launch.command = ["cat", postPath settings cleaned]
  shown : cleaned ≠ "list" → ∀ {σ : Type} [KeyValueStore σ] (sh : Shell σ),
    WellFormed sh.session.tree → sh.execute launch.command =
      ([.line (sh.prompt ++ launch.command), shownPost sh.session (postPath settings cleaned)
        ((launchDirectory? sh.session settings).bind
          (sh.session.tree.child? · (cleaned ++ ".md")))], sh)

section Launching

variable {settings : Settings} (hdirectory : ∀ c ∈ settings.blogDirectory.toList, isLiteral c)
include hdirectory

lemma opens_ofDecoded (decoded : String) :
    Opens settings (Launch.withoutExtension decoded)
      (Launch.clean (Launch.withoutExtension decoded)) (Launch.ofDecoded settings decoded) := by
  generalize hname : Launch.withoutExtension decoded = name
  have hpath : ∀ c ∈ (postPath settings (Launch.clean name)).toList, isLiteral c ∨ c = ' ' :=
    fun c hc => isLiteral_of_mem_postPath hdirectory name hc
  have hcommand : Launch.clean name ≠ "list" → (Launch.ofDecoded settings decoded).command =
      "cat " ++ settings.blogDirectory ++ "/" ++ Words.escape (Launch.clean name) ++ ".md" := by
    intro hlist
    simp only [Launch.ofDecoded, hname]
    exact if_neg hlist
  have hwords : Launch.clean name ≠ "list" → ofLine (Launch.ofDecoded settings decoded).command =
      ["cat", postPath settings (Launch.clean name)] := by
    intro hlist
    rw [hcommand hlist, command_eq hdirectory]
    refine ofLine_cat hpath ?_
    simp [postPath]
  refine ⟨?_, fun hlist => ?_, hwords, fun hlist σ _ sh hw => ?_⟩
  · simp only [Launch.ofDecoded, hname]
    rfl
  · simp only [Launch.ofDecoded, hname]
    exact if_pos hlist
  · have htrim : Text.trim (Launch.ofDecoded settings decoded).command =
        (Launch.ofDecoded settings decoded).command := by
      rw [hcommand hlist, trim_command]
    have hslash : '/' ∉ (Launch.clean name).toList := notMem_clean name (by decide)
    have hline : '\n' ∉ (postPath settings (Launch.clean name)).toList := by
      intro hmem
      rcases hpath _ hmem with hliteral | hspace
      · exact absurd hliteral (by decide)
      · exact absurd hspace (by decide)
    have hresolve := resolve?_postPath hw settings hslash
    rw [execute_cat sh htrim (hwords hlist), events_showFile hline, hresolve]
    -- what is found has the extension in its name, so it is rendered
    intro id hid
    rw [hresolve] at hid
    obtain ⟨dir, -, hchild⟩ := Option.bind_eq_some_iff.mp hid
    rw [(hw.child?_eq_some_iff.mp hchild).2]
    simp [Text.hasSuffix]

/-- Nothing but the empty parameter launches nothing. Any other launch opens what is left of the
name in it, under every way to decode it, and what is left opens the same post without a
notice. -/
theorem launch_stays_in_blog (decode : String → String) (raw : String) :
    (Launch.ofRaw? settings raw decode = none ↔ raw = "") ∧
      ∀ launch, Launch.ofRaw? settings raw decode = some launch →
        ∃ name cleaned, Names (decode raw) name ∧ cleaned = lettersOf name ∧
          Opens settings name cleaned launch ∧
          (cleaned ≠ "" → ('%' ∉ cleaned.toList → decode cleaned = cleaned) →
            Launch.ofRaw? settings cleaned decode = some { launch with notice := none }) := by
  refine ⟨by simp [Launch.ofRaw?], fun launch hlaunch => ?_⟩
  obtain ⟨-, rfl⟩ : raw ≠ "" ∧ Launch.ofDecoded settings (decode raw) = launch := by
    simpa [Launch.ofRaw?] using hlaunch
  generalize hname : Launch.withoutExtension (decode raw) = name
  have hopens := opens_ofDecoded hdirectory (decode raw)
  have hnames := names_iff.mpr hname
  rw [hname] at hopens
  refine ⟨name, Launch.clean name, hnames, clean_eq name, hopens, fun hne hdecode => ?_⟩
  have hpercent : '%' ∉ (Launch.clean name).toList := notMem_clean name (by decide)
  rw [Launch.ofRaw?, if_neg hne, hdecode hpercent, Option.some.injEq]
  simp only [Launch.ofDecoded, hname, withoutExtension_clean, clean_clean, ne_eq,
    not_true_eq_false, false_and, if_false]

end Launching

/-! ### A blog in a home, and a file outside of it -/

/-- A tree with a post in a blog and a post in the root. -/
def blogSeed : Seed :=
  .directory "/" ⟨"drwxr-xr-x", "", "", ""⟩
    [.file "x.md" ⟨"-rw-r--r--", "", "", ""⟩ ["# Outside"],
      .directory "home" ⟨"drwxr-xr-x", "", "", ""⟩
        [.directory "ada" ⟨"drwxr-xr-x", "", "", ""⟩
          [.directory "blog" ⟨"drwxr-xr-x", "", "", ""⟩
            [.file "a b.md" ⟨"-rw-r--r--", "", "", ""⟩ ["# Post"]]]]]

def blogTree : Tree :=
  ⟨#[⟨"/", ⟨"drwxr-xr-x", "", "", ""⟩, none, .directory [1, 2]⟩,
    ⟨"x.md", ⟨"-rw-r--r--", "", "", ""⟩, some 0, .file ["# Outside"]⟩,
    ⟨"home", ⟨"drwxr-xr-x", "", "", ""⟩, some 0, .directory [3]⟩,
    ⟨"ada", ⟨"drwxr-xr-x", "", "", ""⟩, some 2, .directory [4]⟩,
    ⟨"blog", ⟨"drwxr-xr-x", "", "", ""⟩, some 3, .directory [5]⟩,
    ⟨"a b.md", ⟨"-rw-r--r--", "", "", ""⟩, some 4, .file ["# Post"]⟩]⟩

lemma ofSeed_blogSeed : Tree.ofSeed blogSeed = .ok blogTree := rfl

/-- A session in the home, with the blog at a path. -/
def blogSession (blogDirectory : String) : Session Memory :=
  started { defaultUser := "ada", blogDirectory } blogTree [] .empty id

lemma reachable_blogSession (blogDirectory : String) : Reachable (blogSession blogDirectory) :=
  ⟨{ defaultUser := "ada", blogDirectory }, blogSeed, [], .empty, id,
    .ofSession (blogSession blogDirectory), [],
    boot_eq_ok_iff.mpr ⟨blogTree, ofSeed_blogSeed, rfl⟩, rfl⟩

/-- Marks, a slash and dots are dropped, and a space is kept in the name. -/
theorem launch_stays_in_blog_quotes :
    (∀ c ∈ "~/blog".toList, isLiteral c) ∧
      ofLine "cat ~/blog/a\\ b.md" = ["cat", "~/blog/a b.md"] ∧
      (Shell.ofSession (blogSession "~/blog")).launch "..%2F%22a%20b%22.md" =
        ([.line "Invalid blog post name.", .line "ada@hera:~$ cat ~/blog/a\\ b.md",
          .rich "# Post"], .ofSession (blogSession "~/blog")) := by
  have hdirectory : ∀ c ∈ (blogSession "~/blog").settings.blogDirectory.toList, isLiteral c :=
    List.all_eq_true.mp (by decide +kernel)
  have hlaunch : Launch.ofRaw? (blogSession "~/blog").settings "..%2F%22a%20b%22.md" =
      some ⟨some "Invalid blog post name.", "cat ~/blog/a\\ b.md"⟩ := by
    decide +kernel
  obtain ⟨name, cleaned, hname, rfl, hopens, -⟩ :=
    (launch_stays_in_blog hdirectory Percent.decode "..%2F%22a%20b%22.md").2 _ hlaunch
  obtain rfl := names_iff.mp hname
  have hcleaned : lettersOf (Launch.withoutExtension (Percent.decode "..%2F%22a%20b%22.md")) =
      "a b" := by
    decide +kernel
  have hpath : postPath (blogSession "~/blog").settings "a b" = "~/blog/a b.md" := by decide
  have hpost : (launchDirectory? (blogSession "~/blog") (blogSession "~/blog").settings).bind
      ((blogSession "~/blog").tree.child? · "a b.md") = some 5 := by
    decide +kernel
  rw [hcleaned] at hopens
  have hwords := hopens.words (by decide)
  have hshown := hopens.shown (by decide) (.ofSession (blogSession "~/blog"))
    (reachable_blogSession "~/blog").wellFormed
  rw [hpath] at hwords hshown
  have hevents : [.line "Invalid blog post name.",
      .line ((Shell.ofSession (blogSession "~/blog")).prompt ++ "cat ~/blog/a\\ b.md"),
      shownPost (blogSession "~/blog") "~/blog/a b.md" (some 5)] =
        [.line "Invalid blog post name.", .line "ada@hera:~$ cat ~/blog/a\\ b.md",
          Event.rich "# Post"] := by
    decide +kernel
  rw [← hpost] at hevents
  refine ⟨hdirectory, hwords, ?_⟩
  rw [launch_eq (.ofSession (blogSession "~/blog")) hlaunch, hshown]
  simp only [Option.toList_some, List.map_cons, List.map_nil, List.singleton_append]
  exact congrArg (Prod.mk · _) hevents

/-- An empty path to the blog leads to the current directory, but posts are then looked for in the
root. -/
theorem launch_leaves_empty_blog :
    Reachable (blogSession "") ∧ (∀ c ∈ "".toList, isLiteral c) ∧
      (blogSession "").resolve? "" = some 3 ∧ (blogSession "").tree.isDirectory 3 ∧
      (blogSession "").tree.child? 3 "x.md" = none ∧
      (Shell.ofSession (blogSession "")).launch "x" =
        ([.line "ada@hera:~$ cat /x.md", .rich "# Outside"], .ofSession (blogSession "")) := by
  refine ⟨reachable_blogSession "", by simp, by decide +kernel, by decide, by decide +kernel, ?_⟩
  have hlaunch : Launch.ofRaw? (blogSession "").settings "x" = some ⟨none, "cat /x.md"⟩ := by
    decide +kernel
  have htrim : Text.trim "cat /x.md" = "cat /x.md" := by decide +kernel
  have hwords : ofLine "cat /x.md" = ["cat", "/x.md"] := by decide +kernel
  have hshown := execute_cat (.ofSession (blogSession "")) htrim hwords
  have hevents : .line ((Shell.ofSession (blogSession "")).prompt ++ "cat /x.md") ::
      (Output.ofResult (Command.showFile (blogSession "") ["/x.md"]).1).events =
        [.line "ada@hera:~$ cat /x.md", Event.rich "# Outside"] := by
    decide +kernel
  rw [launch_eq (.ofSession (blogSession "")) hlaunch, hshown]
  simp only [Option.toList_none, List.map_nil, List.nil_append]
  exact congrArg (Prod.mk · _) hevents

end SeedShell.Proofs
