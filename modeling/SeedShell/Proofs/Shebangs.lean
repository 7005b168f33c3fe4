import SeedShell.Proofs.ScriptRuns

/-!
# The mark of a script

A file is run if its first line is the shebang of the settings, blanks around it or not. The line is
trimmed before the two are compared, and the shebang is not. So a shebang with a blank at its end is
accepted as a setting, but no line is ever equal to it and no script runs.
-/

namespace SeedShell.Proofs

/-! ### Blanks around a text -/

/-- A line that is a mark, with blanks before and behind it or none. -/
def Carries (mark line : String) : Prop :=
  ∃ before behind : List Char, (∀ c ∈ before, Text.isBlank c) ∧ (∀ c ∈ behind, Text.isBlank c) ∧
    line.toList = before ++ mark.toList ++ behind

/-- The last character is a blank. -/
def EndsBlank (mark : String) : Prop := mark.toList.getLast?.any Text.isBlank = true

instance (mark : String) : Decidable (EndsBlank mark) :=
  inferInstanceAs (Decidable (mark.toList.getLast?.any Text.isBlank = true))

section Trimming

variable {before behind cs : List Char} {mark line : String}

lemma trimChars_append_left (h : ∀ c ∈ before, Text.isBlank c) (cs : List Char) :
    Text.trimChars (before ++ cs) = Text.trimChars cs := by
  rw [Text.trimChars, Text.trimStartChars, List.dropWhile_append_of_pos h]
  rfl

lemma trimEndChars_append (h : ∀ c ∈ behind, Text.isBlank c) (cs : List Char) :
    Text.trimEndChars (cs ++ behind) = Text.trimEndChars cs := by
  have hreverse : ∀ c ∈ behind.reverse, Text.isBlank c := by simpa using h
  rw [Text.trimEndChars, List.reverse_append, List.dropWhile_append_of_pos hreverse]
  rfl

lemma trimChars_append_right (h : ∀ c ∈ behind, Text.isBlank c) (cs : List Char) :
    Text.trimChars (cs ++ behind) = Text.trimChars cs := by
  rw [Text.trimChars, Text.trimChars, Text.trimStartChars, Text.trimStartChars,
    List.dropWhile_append]
  split
  · next hnone =>
    have hbehind : behind.dropWhile Text.isBlank = [] := List.dropWhile_eq_nil_iff.mpr h
    rw [hbehind, List.isEmpty_iff.mp hnone]
  · exact trimEndChars_append h _

/-- A text is what is left of a line if it stands there between blanks and has none at its own
ends. -/
lemma trim_eq_iff : Text.trim line = mark ↔ Carries mark line ∧ Text.trim mark = mark := by
  constructor
  · rintro rfl
    refine ⟨⟨line.toList.takeWhile Text.isBlank,
      (line.toList.dropWhile Text.isBlank).rtakeWhile Text.isBlank, ?_, ?_, ?_⟩, trim_trim line⟩
    · exact fun c hc => List.mem_takeWhile_imp hc
    · exact fun c hc => List.mem_rtakeWhile_imp hc
    · have hends : Text.trimChars line.toList ++
          (line.toList.dropWhile Text.isBlank).rtakeWhile Text.isBlank =
            line.toList.dropWhile Text.isBlank :=
        List.rdropWhile_append_rtakeWhile
      rw [Text.trim, String.toList_ofList, List.append_assoc, hends,
        List.takeWhile_append_dropWhile]
  · rintro ⟨⟨before, behind, hbefore, hbehind, hline⟩, hmark⟩
    rw [← hmark, Text.trim, Text.trim, hline, trimChars_append_right hbehind,
      trimChars_append_left hbefore]

lemma trim_eq_self_iff {first : Char} {rest : List Char} (hchars : mark.toList = first :: rest)
    (hfirst : Text.isBlank first = false) : Text.trim mark = mark ↔ ¬EndsBlank mark := by
  have hstart : Text.trimStartChars mark.toList = mark.toList := by
    rw [hchars, trimStartChars_of_not_blank hfirst]
  have hend : Text.trimEndChars mark.toList = mark.toList ↔ ¬EndsBlank mark := by
    refine List.rdropWhile_eq_self_iff.trans ?_
    simp [EndsBlank, List.getLast?_eq_getLast_of_ne_nil, hchars]
  rw [← hend, ← String.toList_inj, Text.trim, String.toList_ofList, Text.trimChars, hstart]

end Trimming

/-! ### Accepted settings -/

/-- Settings that are accepted have a shebang that begins as one. -/
lemma toList_shebang_of_parse {text : String} {settings : Settings}
    (h : Settings.parse text = .ok settings) :
    ∃ rest, settings.shebang.toList = '#' :: '!' :: rest := by
  unfold Settings.parse at h
  split at h
  · cases h
  · next read _ =>
    unfold Settings.validate at h
    split at h
    · cases h
    · split at h
      · next hprefix =>
        cases h
        rw [Text.hasPrefix, List.isPrefixOf_iff_prefix] at hprefix
        obtain ⟨rest, hrest⟩ := hprefix
        exact ⟨rest, hrest.symm⟩
      · cases h

lemma trim_eq_shebang_iff {text line : String} {settings : Settings}
    (h : Settings.parse text = .ok settings) : Text.trim line = settings.shebang ↔
      Carries settings.shebang line ∧ ¬EndsBlank settings.shebang := by
  obtain ⟨rest, hchars⟩ := toList_shebang_of_parse h
  rw [trim_eq_iff, trim_eq_self_iff hchars (by decide)]

/-! ### Files with and without the mark -/

variable {σ : Type} {s : Session σ} {file : Nat} {content : List String}

/-- A file is run if it may be executed and carries the mark of the settings. Otherwise it is
refused, whatever the commands of the table would do, and the session stays. -/
structure RunsByMark (s : Session σ) (file : Nat) (content : List String) : Prop where
  denied : (s.tree.node file).isExecutable = false → ∀ r : Registry σ,
    Script.run r s file = (.error (.permissionDenied (s.tree.node file).name), s)
  refused : (s.tree.node file).isExecutable = true →
    (∀ first ∈ content.head?, ¬Carries s.settings.shebang first) → ∀ r : Registry σ,
    Script.run r s file = (.error (.notScript (s.tree.node file).name), s)
  runs : (s.tree.node file).isExecutable = true → ∀ first body, content = first :: body →
    Carries s.settings.shebang first → ∀ r : Registry σ, ∃ outputs after,
      Script.run r s file = (.ok (Script.gather outputs), after) ∧
      Dispatches r s (commandLines body) outputs after

section Running

lemma run_of_not_isExecutable (h : (s.tree.node file).isExecutable = false) (r : Registry σ) :
    Script.run r s file = (.error (.permissionDenied (s.tree.node file).name), s) := by
  have hnone : ∀ body, ¬IsScript s file body := by
    intro body hscript
    rw [hscript.executable] at h
    cases h
  rw [run_of_not_isScript hnone, h]
  rfl

lemma run_of_no_mark (hentry : (s.tree.node file).entry = .file content)
    (hexecutable : (s.tree.node file).isExecutable = true)
    (h : ∀ first ∈ content.head?, Text.trim first ≠ s.settings.shebang) (r : Registry σ) :
    Script.run r s file = (.error (.notScript (s.tree.node file).name), s) := by
  have hnone : ∀ body, ¬IsScript s file body := by
    intro body hscript
    obtain ⟨first, hfirst, hmark⟩ := hscript.content
    rw [hentry, Entry.file.injEq] at hfirst
    exact h first (by simp [hfirst]) hmark
  rw [run_of_not_isScript hnone, if_pos hexecutable]

/-- With settings that are accepted, a file is run by the mark it carries, except that no file is
run if the shebang ends in a blank. -/
theorem marked_script_runs_iff {text : String} (hparse : Settings.parse text = .ok s.settings)
    (hentry : (s.tree.node file).entry = .file content) :
    (EndsBlank s.settings.shebang → (s.tree.node file).isExecutable = true →
      ∀ r : Registry σ, Script.run r s file =
        (.error (.notScript (s.tree.node file).name), s)) ∧
    (RunsByMark s file content ↔ (EndsBlank s.settings.shebang →
      (s.tree.node file).isExecutable = true →
        ∀ first ∈ content.head?, ¬Carries s.settings.shebang first)) := by
  have hmark : ∀ line, Text.trim line = s.settings.shebang ↔
      Carries s.settings.shebang line ∧ ¬EndsBlank s.settings.shebang :=
    fun _ => trim_eq_shebang_iff hparse
  have hblank : EndsBlank s.settings.shebang → (s.tree.node file).isExecutable = true →
      ∀ r : Registry σ, Script.run r s file =
        (.error (.notScript (s.tree.node file).name), s) := by
    intro hends hexecutable
    refine run_of_no_mark hentry hexecutable fun first _ heq => ?_
    exact ((hmark first).mp heq).2 hends
  refine ⟨hblank, fun h hends hexecutable first hfirst hcarries => ?_, fun h => ?_⟩
  · obtain ⟨body, hcontent⟩ := List.head?_eq_some_iff.mp hfirst
    obtain ⟨outputs, after, hran, -⟩ :=
      h.runs hexecutable first body hcontent hcarries Registry.empty
    rw [hblank hends hexecutable] at hran
    cases hran
  · refine ⟨run_of_not_isExecutable, fun hexecutable hnone => ?_,
      fun hexecutable first body hcontent hcarries r => ?_⟩
    · refine run_of_no_mark hentry hexecutable fun first hfirst heq => ?_
      exact hnone first hfirst ((hmark first).mp heq).1
    · have hends : ¬EndsBlank s.settings.shebang := by
        intro hends
        exact h hends hexecutable first (by simp [hcontent]) hcarries
      have hscript : IsScript s file body :=
        ⟨hexecutable, first, hcontent ▸ hentry, (hmark first).mpr ⟨hcarries, hends⟩⟩
      exact ⟨_, _, run_of_isScript hscript, dispatches_runAll s body⟩

end Running

/-! ### A script with a blank behind its mark -/

/-- A script with a blank behind the mark in its first line. -/
def markedSeed : Seed :=
  .directory "/" ⟨"drwxr-xr-x", "", "", ""⟩
    [.file "run" ⟨"-rwxr-xr-x", "", "", ""⟩ ["#!/bin/sh ", "cd /home", "echo hi"],
      .directory "home" ⟨"drwxr-xr-x", "", "", ""⟩ []]

def markedTree : Tree :=
  ⟨#[⟨"/", ⟨"drwxr-xr-x", "", "", ""⟩, none, .directory [1, 2]⟩,
    ⟨"run", ⟨"-rwxr-xr-x", "", "", ""⟩, some 0, .file ["#!/bin/sh ", "cd /home", "echo hi"]⟩,
    ⟨"home", ⟨"drwxr-xr-x", "", "", ""⟩, some 0, .directory []⟩]⟩

lemma ofSeed_markedSeed : Tree.ofSeed markedSeed = .ok markedTree := rfl

/-- A session over the script with a shebang. -/
def markedSession (shebang : String) : Session Memory :=
  started { shebang } markedTree [] .empty id

lemma reachable_markedSession (shebang : String) : Reachable (markedSession shebang) :=
  ⟨{ shebang }, markedSeed, [], .empty, id, .ofSession (markedSession shebang), [],
    boot_eq_ok_iff.mpr ⟨markedTree, ofSeed_markedSeed, rfl⟩, rfl⟩

/-- A blank behind the shebang in the file does no harm. -/
theorem marked_script_runs_iff_behind :
    Settings.parse "shebang = '#!/bin/sh'" = .ok (markedSession "#!/bin/sh").settings ∧
    ((markedSession "#!/bin/sh").tree.node 1).entry =
      .file ["#!/bin/sh ", "cd /home", "echo hi"] ∧
    ∃ outputs after, Script.run .standard (markedSession "#!/bin/sh") 1 =
        (.ok (Script.gather outputs), after) ∧
      Dispatches .standard (markedSession "#!/bin/sh") ["cd /home", "echo hi"] outputs after := by
  have hparse : Settings.parse "shebang = '#!/bin/sh'" =
      .ok (markedSession "#!/bin/sh").settings := by
    decide +kernel
  have hentry : ((markedSession "#!/bin/sh").tree.node 1).entry =
      .file ["#!/bin/sh ", "cd /home", "echo hi"] := rfl
  have hends : ¬EndsBlank (markedSession "#!/bin/sh").settings.shebang := by decide
  have hcarries : Carries "#!/bin/sh" "#!/bin/sh " :=
    ⟨[], [' '], by simp, List.all_eq_true.mp (by decide), by decide⟩
  have hruns := (marked_script_runs_iff hparse hentry).2.mpr fun h => absurd h hends
  exact ⟨hparse, hentry, hruns.runs (by decide) _ _ rfl hcarries .standard⟩

/-- With a blank in the shebang itself not even the line that is equal to it is taken for it. -/
theorem blank_shebang_runs_nothing :
    Settings.parse "shebang = '#!/bin/sh '" = .ok (markedSession "#!/bin/sh ").settings ∧
    Reachable (markedSession "#!/bin/sh ") ∧
    ((markedSession "#!/bin/sh ").tree.node 1).isExecutable = true ∧
    Carries (markedSession "#!/bin/sh ").settings.shebang "#!/bin/sh " ∧
    Script.run .standard (markedSession "#!/bin/sh ") 1 =
      (.error (.notScript "run"), markedSession "#!/bin/sh ") ∧
    ¬RunsByMark (markedSession "#!/bin/sh ") 1 ["#!/bin/sh ", "cd /home", "echo hi"] := by
  have hcarries : Carries (markedSession "#!/bin/sh ").settings.shebang "#!/bin/sh " :=
    ⟨[], [], by simp, by simp, by decide⟩
  have hran : Script.run .standard (markedSession "#!/bin/sh ") 1 =
      (.error (.notScript "run"), markedSession "#!/bin/sh ") := rfl
  refine ⟨by decide +kernel, reachable_markedSession _, by decide, hcarries, hran, fun h => ?_⟩
  obtain ⟨outputs, after, hruns, -⟩ := h.runs (by decide) _ _ rfl hcarries .standard
  rw [hran] at hruns
  cases hruns

end SeedShell.Proofs
