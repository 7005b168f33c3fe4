import SeedShell.Proofs.Completing

/-!
# Scripts run by a relative path

A word that begins with `./` names a script. What stands behind that is divided at its last slash
and the part before the slash is a path of its own, so it may well start elsewhere than the whole
word does: `.//x/y` starts at the root and `./~/y` at a home. Where it does not, and the last name
is one that an entry can bear, the script that runs is the one that the word leads to.
-/

namespace SeedShell.Proofs

open Session Completion

variable {σ : Type} {r : Registry σ} {s : Session σ} {line : String}
  {path directory name : List Char}

/-! ### The file that is named -/

/-- A last name that is looked up as it is. -/
def IsOrdinary (name : List Char) : Prop := name ≠ [] ∧ name ≠ ['.'] ∧ name ≠ ['.', '.']

instance (name : List Char) : Decidable (IsOrdinary name) :=
  inferInstanceAs (Decidable (_ ∧ _ ∧ _))

lemma ofList_ne_ofList {as bs : List Char} (h : as ≠ bs) : String.ofList as ≠ String.ofList bs :=
  fun heq => h (String.ofList_injective heq)

lemma IsOrdinary.resolve?_append (hname : IsOrdinary name) (hw : WellFormed s.tree)
    (hslash : '/' ∉ name) (front : List Char) :
    s.resolve? (String.ofList (front ++ '/' :: name)) =
      (directoryOn? s (front ++ ['/'])).bind (s.tree.child? · (String.ofList name)) := by
  obtain ⟨hempty, hstay, hup⟩ := hname
  exact resolve?_append_slash hw front (components_name hslash hempty) (ofList_ne_ofList hstay)
    (ofList_ne_ofList hup)

/-- The entry that a path after `./` names, divided into a directory and a name in it. -/
def named? (s : Session σ) (directory name : List Char) : Option Nat :=
  (directoryOn? s directory.dropLast).bind (s.tree.child? · (String.ofList name))

section Locating

variable [KeyValueStore σ] (hs : Reachable s)
include hs

lemma directoryOn?_nil : directoryOn? s [] = some s.cwdNode := by
  have hcwd : s.resolve? (String.ofList []) = some s.cwdNode := by
    rw [resolve?, resolve_of_isRelative (by decide) hs.directoryAt?_cwd, components_nil,
      Tree.follow, Option.map_some]
  rw [directoryOn?, hcwd, Option.filter_some, if_pos hs.isDirectory_cwdNode]

/-- A dot in front of a relative path stays where that starts. -/
lemma directoryOn?_stay (hrelative : IsRelative path) :
    directoryOn? s ('.' :: '/' :: path) = directoryOn? s path := by
  have hdot : components (String.ofList ('.' :: '/' :: path)) =
      "." :: components (String.ofList path) := components_append_slash ['.'] path
  have hstart : IsRelative ('.' :: '/' :: path) := by simp [IsRelative]
  rw [directoryOn?, directoryOn?, resolve?, resolve?,
    resolve_of_isRelative hstart hs.directoryAt?_cwd,
    resolve_of_isRelative hrelative hs.directoryAt?_cwd, hdot, Tree.follow, if_pos rfl]

variable (hcut : Text.cutAfterLast '/' path = (directory, name))
include hcut

lemma relativeFile?_eq :
    Run.relativeFile? s path = (named? s directory name).filter (!s.tree.isDirectory ·) := by
  have hlocate : Run.locate s path =
      (directoryOn? s directory.dropLast, String.ofList name) := by
    unfold Run.locate
    rw [hcut]
    split
    · next heq =>
      cases heq
      rw [List.dropLast_nil, directoryOn?_nil hs]
    · next heq =>
      cases heq
      rfl
  simp only [Run.relativeFile?, hlocate, Option.bind_eq_bind]
  rw [← Option.bind_assoc, ← named?]
  cases named? s directory name with
  | none => rfl
  | some id =>
    rw [Option.bind_some, Option.filter_some]
    cases s.tree.isDirectory id <;> rfl

lemma relativeFile?_of_absent
    (habsent : ∀ id < s.tree.size, (s.tree.node id).name ≠ String.ofList name) :
    Run.relativeFile? s path = none := by
  have hnamed : named? s directory name = none := by
    refine Option.bind_eq_none_iff.mpr fun dir _ => ?_
    refine Option.eq_none_iff_forall_ne_some.mpr fun child hchild => ?_
    obtain ⟨hmem, hname⟩ := hs.wellFormed.child?_eq_some_iff.mp hchild
    exact habsent child (hs.wellFormed.lt_of_mem hmem) hname
  rw [relativeFile?_eq hs hcut, hnamed, Option.filter_none]

lemma resolve?_of_relative (hname : IsOrdinary name) (hrelative : IsRelative directory.dropLast) :
    s.resolve? (String.ofList ('.' :: '/' :: path)) = named? s directory name := by
  have hw := hs.wellFormed
  obtain ⟨hslash, hparts⟩ := of_cutAfterLast hcut
  unfold named?
  rcases hparts with ⟨rfl, rfl⟩ | ⟨front, rfl, rfl⟩
  · rw [List.dropLast_nil, ← directoryOn?_stay hs (by decide)]
    exact hname.resolve?_append hw hslash ['.']
  · rw [List.dropLast_concat] at hrelative ⊢
    rw [← directoryOn?_stay hs hrelative, ← directoryOn?_slash hw (List.cons_ne_nil _ _)]
    exact hname.resolve?_append hw hslash ('.' :: '/' :: front)

lemma resolve?_of_not_relative (hname : IsOrdinary name)
    (hrelative : ¬IsRelative directory.dropLast) :
    s.resolve? (String.ofList path) = named? s directory name := by
  have hw := hs.wellFormed
  obtain ⟨hslash, ⟨rfl, -⟩ | ⟨front, rfl, rfl⟩⟩ := of_cutAfterLast hcut
  · exact absurd (by decide : IsRelative []) hrelative
  · rw [List.dropLast_concat] at hrelative
    have hfront : front ≠ [] := by
      rintro rfl
      exact hrelative (by decide)
    rw [named?, List.dropLast_concat, ← directoryOn?_slash hw hfront]
    exact hname.resolve?_append hw hslash front

/-- A word that ends in a dot or two leads to no file. -/
lemma filter_resolve?_dots (hname : name = ['.'] ∨ name = ['.', '.']) :
    (s.resolve? (String.ofList ('.' :: '/' :: path))).filter (!s.tree.isDirectory ·) = none := by
  refine Option.filter_eq_none_iff.mpr fun id hid => ?_
  have hdir : s.tree.isDirectory id := by
    obtain ⟨-, ⟨-, rfl⟩ | ⟨front, -, rfl⟩⟩ := of_cutAfterLast hcut
    · exact isDirectory_of_resolve?_dots hs.wellFormed (List.cons_ne_nil '.' []) hname hid
    · exact isDirectory_of_resolve?_dots hs.wellFormed (List.cons_ne_nil '.' ('/' :: front)) hname
        hid
  simp [hdir]

end Locating

/-! ### The script that runs -/

/-- A line runs the script at a node, and runs nothing and changes nothing if there is none. -/
structure RunsScriptAt (r : Registry σ) (s : Session σ) (line : String) (target : Option Nat) :
    Prop where
  runs : ∀ file body, target = some file → IsScript s file body →
    Run.runLine r s line =
      (Script.gather (Script.runAll r s (body.filterMap Script.command?)).1,
        (Script.runAll r s (body.filterMap Script.command?)).2)
  refuses : (∀ file body, target = some file → ¬IsScript s file body) →
    ∃ problem, Run.runLine r s line = (.ofResult (.error problem), s)

section Running

lemma isFile_of_isScript {file : Nat} {body : List String} (h : IsScript s file body) :
    (s.tree.node file).isFile = true := by
  obtain ⟨first, hentry, -⟩ := h.content
  simp [Node.isFile, Node.isDirectory, hentry]

lemma runFile_some {file : Nat} {word : String} (hfile : (s.tree.node file).isFile = true)
    (hexecutable : (s.tree.node file).isExecutable = true) :
    Run.runFile r s word (some file) = Script.run r s file := by
  simp [Run.runFile, hfile, hexecutable]

lemma runFile_of_not_isScript (word : String) {target : Option Nat}
    (h : ∀ file body, target = some file → ¬IsScript s file body) :
    ∃ problem, Run.runFile r s word target = (.error problem, s) := by
  cases target with
  | none => exact ⟨.noScript word, rfl⟩
  | some file =>
    by_cases hruns : (s.tree.node file).isFile && (s.tree.node file).isExecutable
    · obtain ⟨hfile, hexecutable⟩ := Bool.and_eq_true_iff.mp hruns
      rw [runFile_some hfile hexecutable]
      exact ⟨_, run_of_not_isScript fun body => h file body rfl⟩
    · exact ⟨.permissionDenied word, by rw [Run.runFile, if_neg hruns]⟩

variable (hline : (Words.ofLine line).head? = some (String.ofList ('.' :: '/' :: path)))
include hline

lemma runLine_of_head? : Run.runLine r s line =
    (.ofResult (Run.runFile r s (String.ofList ('.' :: '/' :: path)) (Run.relativeFile? s path)).1,
      (Run.runFile r s (String.ofList ('.' :: '/' :: path)) (Run.relativeFile? s path)).2) := by
  obtain ⟨args, hwords⟩ := List.head?_eq_some_iff.mp hline
  simp only [Run.runLine, Run.runWords, hwords, String.toList_ofList]

lemma runsScriptAt_of_relativeFile?_eq {target : Option Nat}
    (h : Run.relativeFile? s path = target.filter (!s.tree.isDirectory ·)) :
    RunsScriptAt r s line target where
  runs file body htarget hscript := by
    have hfile := isFile_of_isScript hscript
    have hlocated : Run.relativeFile? s path = some file := by
      rw [h, htarget, Option.filter_some]
      exact if_pos hfile
    rw [runLine_of_head? hline, hlocated, runFile_some hfile hscript.executable,
      run_of_isScript hscript]
    rfl
  refuses hnone := by
    have hrefused : ∀ file body, Run.relativeFile? s path = some file → ¬IsScript s file body := by
      intro file body hlocated
      rw [h] at hlocated
      exact hnone file body (Option.filter_eq_some_iff.mp hlocated).1
    rw [runLine_of_head? hline]
    obtain ⟨problem, hran⟩ := runFile_of_not_isScript (r := r)
      (String.ofList ('.' :: '/' :: path)) hrefused
    exact ⟨problem, by rw [hran]⟩

end Running

/-- The script that runs is the one that the whole word leads to, if what stands before the last
slash is relative and the last name is ordinary, or a dot or two that no entry is called. Behind
an absolute part it is the one that the path leads to without the `./`, and behind a slash at the
end nothing runs. -/
theorem relative_script_runs [KeyValueStore σ] (hs : Reachable s)
    (hline : (Words.ofLine line).head? = some (String.ofList ('.' :: '/' :: path)))
    (hcut : Text.cutAfterLast '/' path = (directory, name)) :
    (IsOrdinary name → IsRelative directory.dropLast →
      RunsScriptAt r s line (s.resolve? (String.ofList ('.' :: '/' :: path)))) ∧
    (IsOrdinary name → ¬IsRelative directory.dropLast →
      RunsScriptAt r s line (s.resolve? (String.ofList path))) ∧
    (name = ['.'] ∨ name = ['.', '.'] →
      (∀ id < s.tree.size, (s.tree.node id).name ≠ String.ofList name) →
      RunsScriptAt r s line (s.resolve? (String.ofList ('.' :: '/' :: path)))) ∧
    (name = [] → (∀ id < s.tree.size, (s.tree.node id).name ≠ "") →
      RunsScriptAt r s line none) := by
  refine ⟨fun hname hrelative => ?_, fun hname hrelative => ?_, fun hdots habsent => ?_,
    fun hempty habsent => ?_⟩ <;> refine runsScriptAt_of_relativeFile?_eq hline ?_
  · rw [resolve?_of_relative hs hcut hname hrelative, relativeFile?_eq hs hcut]
  · rw [resolve?_of_not_relative hs hcut hname hrelative, relativeFile?_eq hs hcut]
  · rw [relativeFile?_of_absent hs hcut habsent, filter_resolve?_dots hs hcut hdots]
  · rw [relativeFile?_of_absent hs hcut (hempty ▸ habsent), Option.filter_none]

lemma isScript_run : IsScript scriptSession 3
    ["# a note", "echo one", " ./run", "clear", "cd docs", "pwd"] :=
  ⟨by decide, "#!/bin/earsh", rfl, by decide +kernel⟩

/-- A path up and down again to a script. -/
theorem relative_script_runs_down : scriptSession.resolve? "./../ada/run" = some 3 ∧
    RunsScriptAt .standard scriptSession "./../ada/run now"
      (scriptSession.resolve? "./../ada/run") := by
  have hline : (Words.ofLine "./../ada/run now").head? =
      some (String.ofList ('.' :: '/' :: "../ada/run".toList)) := by decide +kernel
  have hcut : Text.cutAfterLast '/' "../ada/run".toList = ("../ada/".toList, "run".toList) := by
    decide
  obtain ⟨hruns, -⟩ := relative_script_runs reachable_scriptSession hline hcut
  exact ⟨by decide +kernel, hruns (by decide) (by decide)⟩

/-- A second slash makes a path absolute, and a script runs that the word does not lead to. A
slash at the end keeps one from running that the word leads to. -/
theorem relative_script_differs : Reachable scriptSession ∧
    scriptSession.resolve? ".//home/ada/run" = none ∧
    ¬RunsScriptAt .standard scriptSession ".//home/ada/run"
      (scriptSession.resolve? ".//home/ada/run") ∧
    scriptSession.resolve? "./run/" = some 3 ∧
    ¬RunsScriptAt .standard scriptSession "./run/" (scriptSession.resolve? "./run/") := by
  have hnone : scriptSession.resolve? ".//home/ada/run" = none := by decide +kernel
  have hsome : scriptSession.resolve? "./run/" = some 3 := by decide +kernel
  refine ⟨reachable_scriptSession, hnone, fun h => ?_, hsome, fun h => ?_⟩
  · obtain ⟨problem, hrefused⟩ := h.refuses fun file body htarget => by
      rw [hnone] at htarget
      cases htarget
    have hran : (Run.runLine .standard scriptSession ".//home/ada/run").1 = .sequence
        [.text "one\nCommand not found: ./run", .clear, .text "/home/ada/docs/"] := rfl
    rw [hrefused] at hran
    cases hran
  · have hran : (Run.runLine .standard scriptSession "./run/").1 = .sequence
        [.text "one\nCommand not found: ./run", .clear, .text "/home/ada/docs/"] := by
      rw [h.runs 3 _ hsome isScript_run]
      rfl
    have hrefused : (Run.runLine .standard scriptSession "./run/").1 =
        .text "./run/: No such file or directory" := rfl
    rw [hrefused] at hran
    cases hran

/-! ### Suggested scripts -/

/-- A script that a path after `./` is completed to. -/
structure SuggestsScript (s : Session σ) (path : List Char) (file : Nat) (text : String) :
    Prop where
  entry : ∃ rest, Suggests s path file rest ∧ text = "./" ++ rest
  isFile : (s.tree.node file).isFile = true
  isExecutable : (s.tree.node file).isExecutable = true

/-- A line names a file behind `./` and runs it: the path is found and leave is given. -/
structure RunsFile (s : Session σ) (line : String) (file : Nat) : Prop where
  located : ∃ path, Words.ofLine line = [String.ofList ('.' :: '/' :: path)] ∧
    Run.relativeFile? s path = some file
  ran : ∀ r, Run.runLine r s line =
    (.ofResult (Script.run r s file).1, (Script.run r s file).2)
  accepted : ∀ r word, (Script.run r s file).1 ≠ .error (.noScript word) ∧
    (Script.run r s file).1 ≠ .error (.permissionDenied word)

lemma run_fst_of_isExecutable {file : Nat} (h : (s.tree.node file).isExecutable = true) :
    (∃ output, (Script.run r s file).1 = .ok output) ∨
      (Script.run r s file).1 = .error (.notScript (s.tree.node file).name) := by
  by_cases hscript : ∃ body, IsScript s file body
  · obtain ⟨body, hbody⟩ := hscript
    rw [run_of_isScript hbody]
    exact .inl ⟨_, rfl⟩
  · rw [run_of_not_isScript (not_exists.mp hscript), if_pos h]
    exact .inr rfl

/-- A file behind `./` and a directory, as it is suggested. -/
lemma scriptItem_eq (directory : List Char) {n : Node} (hfile : n.isFile = true) :
    "./" ++ String.ofList directory ++ Words.escape n.name =
      "./" ++ String.ofList (directory ++ (Words.escapeChars n.name.toList ++ slashOf n)) := by
  rw [slashOf_of_isFile hfile, List.append_nil, Words.escape, String.ofList_append,
    String.append_assoc]

lemma mem_scriptSuggestions {text : String} :
    text ∈ scriptSuggestions s path ↔ ∃ file, SuggestsScript s path file text := by
  simp only [scriptSuggestions, mem_sort, List.mem_map, List.mem_filter, mem_matching,
    Bool.and_eq_true]
  constructor
  · rintro ⟨n, ⟨⟨file, hmatches, rfl⟩, hfile, hexecutable⟩, rfl⟩
    exact ⟨file, ⟨_, ⟨hmatches, rfl⟩, scriptItem_eq _ hfile⟩, hfile, hexecutable⟩
  · rintro ⟨file, ⟨rest, hrest, rfl⟩, hfile, hexecutable⟩
    refine ⟨_, ⟨⟨file, hrest.toMatches, rfl⟩, hfile, hexecutable⟩, ?_⟩
    rw [hrest.text_eq]
    exact scriptItem_eq _ hfile

section Suggested

/-- Without the slash at its end a typed directory is the same one. -/
lemma directoryOf?_concat_slash (hw : WellFormed s.tree) (hempty : path ≠ []) :
    directoryOf? s (path ++ ['/']) = directoryOf? s path := by
  rw [directoryOf?_append_slash, unescape_concat_slash,
    directoryOn?_slash hw (unescape_ne_nil hempty), directoryOf?, if_neg hempty]
  rfl

lemma directoryOf?_slash (hw : WellFormed s.tree) : directoryOf? s ['/'] = some Tree.root := by
  have hslash : directoryOf? s ['/'] = directoryOn? s ['/'] := directoryOf?_append_slash []
  rw [hslash, directoryOn?_root hw]

lemma directoryOn?_unescape [KeyValueStore σ] (hs : Reachable s) (path : List Char) :
    directoryOn? s (unescape path) = directoryOf? s path := by
  by_cases hempty : path = []
  · rw [hempty, unescape, directoryOn?_nil hs, directoryOf?, if_pos rfl]
  · rw [directoryOf?, if_neg hempty]
    rfl

variable (hends : directory = [] ∨ ∃ front, directory = front ++ ['/'])
include hends

lemma cutAfterLast_unescape_append (hname : '/' ∉ name) :
    Text.cutAfterLast '/' (unescape directory ++ name) = (unescape directory, name) := by
  refine cutAfterLast_append_of_notMem ?_ hname
  rcases hends with rfl | ⟨front, rfl⟩
  · exact .inl rfl
  · exact .inr ⟨unescape front, unescape_concat_slash front⟩

/-- Completion looks in the same directory as the run does, unless that is just a slash. -/
lemma directoryOn?_dropLast_iff [KeyValueStore σ] (hs : Reachable s) {dir : Nat}
    (hdir : directoryOf? s directory = some dir) :
    directoryOn? s (unescape directory).dropLast = some dir ↔
      directory ≠ ['/'] ∨ s.cwdNode = Tree.root := by
  rcases hends with rfl | ⟨front, rfl⟩
  · rw [unescape, List.dropLast_nil, ← hdir, ← directoryOn?_unescape hs, unescape]
    simp
  rw [unescape_concat_slash, List.dropLast_concat, directoryOn?_unescape hs]
  by_cases hempty : front = []
  · -- a lone slash leads to the root, but the empty path that is left of it to the place
    subst hempty
    have hroot : Tree.root = dir := by
      rw [List.nil_append, directoryOf?_slash hs.wellFormed] at hdir
      exact Option.some.inj hdir
    rw [directoryOf?, if_pos rfl, ← hroot]
    simp
  · rw [directoryOf?_concat_slash hs.wellFormed hempty] at hdir
    simp [hdir, hempty]

end Suggested

namespace SuggestsScript

variable [KeyValueStore σ] {file : Nat} {text : String} (h : SuggestsScript s path file text)
  (hs : Reachable s) (hnames : PlainNames s.tree) (hpath : Token path)
include h hs hnames hpath

lemma ofLine_eq : Words.ofLine text = [String.ofList ('.' :: '/' ::
    (unescape (Text.cutAfterLast '/' path).1 ++ (s.tree.node file).name.toList))] := by
  obtain ⟨rest, hrest, htext⟩ := h.entry
  obtain ⟨cs, rfl, hcs, hword⟩ := hrest.exists_token hs hnames hpath
  rw [slashOf_of_isFile h.isFile, List.append_nil] at hword
  have htoken : Token ('.' :: '/' :: cs) := .literal (by decide) (.literal (by decide) hcs)
  have hunescape : unescape ('.' :: '/' :: cs) = '.' :: '/' :: unescape cs := rfl
  have hchars : "./" ++ String.ofList cs = String.ofList (['.', '/'] ++ cs) := by
    rw [String.ofList_append]
  have hstart : EndsBetweenWords [] := ⟨[], rfl⟩
  have hread := ofLine_append_token hstart htoken (by simp [hunescape])
  rw [hunescape, hword] at hread
  rw [htext, hchars]
  exact hread

lemma relativeFile?_eq_some_iff : Run.relativeFile? s
      (unescape (Text.cutAfterLast '/' path).1 ++ (s.tree.node file).name.toList) = some file ↔
    (Text.cutAfterLast '/' path).1 ≠ ['/'] ∨ s.cwdNode = Tree.root := by
  obtain ⟨rest, hrest, -⟩ := h.entry
  obtain ⟨dir, hdir, hmem⟩ := hrest.parent
  have hname := hrest.isPlainName hs hnames
  obtain ⟨-, hends⟩ := hpath.directory
  have hcut := cutAfterLast_unescape_append hends hname.slash
  have hw := hs.wellFormed
  rw [← directoryOn?_dropLast_iff hends hs hdir, relativeFile?_eq hs hcut, named?,
    String.ofList_toList, Option.filter_eq_some_iff, Option.bind_eq_some_iff]
  constructor
  · rintro ⟨⟨other, hother, hchild⟩, -⟩
    have hparent := hw.parent_of_mem hmem
    rw [hw.parent_of_mem (hw.child?_eq_some_iff.mp hchild).1] at hparent
    rw [hother, hparent]
  · intro hsame
    exact ⟨⟨dir, hsame, hw.child?_eq_some_iff.mpr ⟨hmem, rfl⟩⟩, h.isFile⟩

lemma runsFile_iff : RunsFile s text file ↔
    (Text.cutAfterLast '/' path).1 ≠ ['/'] ∨ s.cwdNode = Tree.root := by
  have hwords := h.ofLine_eq hs hnames hpath
  rw [← h.relativeFile?_eq_some_iff hs hnames hpath]
  constructor
  · intro hruns
    obtain ⟨other, hother, hlocated⟩ := hruns.located
    rw [hwords, List.cons.injEq] at hother
    have hsame := String.ofList_injective hother.1
    simp only [List.cons.injEq, true_and] at hsame
    rwa [hsame]
  · intro hlocated
    refine ⟨⟨_, hwords, hlocated⟩, fun r => ?_, fun r word => ?_⟩
    · rw [runLine_of_head? (by rw [hwords, List.head?_cons]), hlocated,
        runFile_some h.isFile h.isExecutable]
    · rcases run_fst_of_isExecutable (r := r) h.isExecutable with ⟨output, hran⟩ | hran <;>
        simp [hran]

end SuggestsScript

/-- In a tree with plain names a script that is suggested behind `./` runs when the suggestion is
entered. The exception is a path of a slash and a name, which is completed from the root but run
from the current directory. -/
theorem suggested_script_runs_iff [KeyValueStore σ] {before : List Char} (hs : Reachable s)
    (hnames : PlainNames s.tree) (hbefore : IsTyped before)
    (hpath : (cut before).token = '.' :: '/' :: path) (text : String) :
    (text ∈ suggest r s before ↔ ∃ file, SuggestsScript s path file text) ∧
      ∀ file, SuggestsScript s path file text → (RunsFile s text file ↔
        (Text.cutAfterLast '/' path).1 ≠ ['/'] ∨ s.cwdNode = Tree.root) := by
  obtain ⟨-, htoken⟩ := hbefore.typed.cut
  rw [hpath] at htoken
  have hrest : Token path := by
    cases htoken with
    | literal _ hslash =>
      cases hslash with
      | literal _ hrest => exact hrest
  have hscripts : suggest r s before = scriptSuggestions s path := by
    unfold suggest
    simp only [hpath]
  rw [hscripts]
  exact ⟨mem_scriptSuggestions, fun file hfile => hfile.runsFile_iff hs hnames hrest⟩

/-- A directory and a name with a space. -/
theorem suggested_script_runs_iff_space :
    suggest .standard scriptSession "./docs/t".toList = ["./docs/tool\\ box"] ∧
      RunsFile scriptSession "./docs/tool\\ box" 5 := by
  have hentry : Suggests scriptSession "docs/t".toList 5 "docs/tool\\ box" :=
    ⟨⟨⟨4, by decide +kernel, by decide +kernel⟩, by decide +kernel⟩, by decide +kernel⟩
  have hpath : (cut "./docs/t".toList).token = '.' :: '/' :: "docs/t".toList := by decide +kernel
  obtain ⟨-, hruns⟩ := suggested_script_runs_iff (r := .standard) reachable_scriptSession
    (by decide +kernel) (by decide +kernel) hpath "./docs/tool\\ box"
  refine ⟨by decide +kernel, (hruns 5 ⟨⟨_, hentry, rfl⟩, by decide, by decide⟩).mpr ?_⟩
  exact .inl (by decide)

/-- A script in the root is suggested, and not found in the home. -/
theorem suggested_script_missing : Reachable scriptSession ∧ PlainNames scriptSession.tree ∧
    IsTyped ".//g".toList ∧ ".//greet" ∈ suggest .standard scriptSession ".//g".toList ∧
    SuggestsScript scriptSession "/g".toList 6 ".//greet" ∧
    Run.runLine .standard scriptSession ".//greet" =
      (.text ".//greet: No such file or directory", scriptSession) ∧
    ¬RunsFile scriptSession ".//greet" 6 := by
  have hentry : Suggests scriptSession "/g".toList 6 "/greet" :=
    ⟨⟨⟨0, by decide +kernel, by decide +kernel⟩, by decide +kernel⟩, by decide +kernel⟩
  have hmissing : Run.runLine .standard scriptSession ".//greet" =
      (.text ".//greet: No such file or directory", scriptSession) := rfl
  refine ⟨reachable_scriptSession, by decide +kernel, by decide +kernel, by decide +kernel,
    ⟨⟨_, hentry, rfl⟩, by decide, by decide⟩, hmissing, fun h => ?_⟩
  have hran : (Run.runLine .standard scriptSession ".//greet").1 = .text "hi" := by
    rw [h.ran]
    rfl
  rw [hmissing, Output.text.injEq] at hran
  exact absurd hran (by decide)

end SeedShell.Proofs
