import SeedShell.Proofs.Soundness
import SeedShell.Proofs.Texts
import SeedShell.Store.Memory

/-!
# What a script runs and shows

A script pools the lines of its commands until something else has to be shown, and makes each
pool one text. Here the lines of a body are dispatched one by one instead and nothing is pooled.
The session after both is the same, and so is what a display receives, line by line.
-/

namespace SeedShell.Proofs

variable {σ : Type}

/-! ### Lines as events -/

def splitEvent : Event → List Event
  | .line content => (Text.lines content).map .line
  | event => [event]

/-- The events with every line split at its newline characters. -/
def splitLines (events : List Event) : List Event := events.flatMap splitEvent

/-- What a script shows of an output: its events with the lines split. The parts of a sequence are
shown as they are. -/
def shownByScript : Output → List Event
  | .sequence parts => Output.eventsOfAll parts
  | output => splitLines output.events

section Events

lemma splitLines_append (events events' : List Event) :
    splitLines (events ++ events') = splitLines events ++ splitLines events' :=
  List.flatMap_append

lemma splitLines_flatMap {α : Type} (f : α → List Event) (xs : List α) :
    splitLines (xs.flatMap f) = xs.flatMap fun x => splitLines (f x) :=
  List.flatMap_assoc

lemma splitLines_map_line (ls : List String) :
    splitLines (ls.map .line) = (ls.flatMap Text.lines).map .line := by
  rw [splitLines, List.flatMap_map, List.map_flatMap]
  rfl

lemma splitLines_map_lines (text : String) :
    splitLines ((Text.lines text).map .line) = (Text.lines text).map .line := by
  have hlines : (Text.lines text).flatMap Text.lines = (Text.lines text).flatMap (fun l => [l]) :=
    List.flatMap_congr fun _ hmem => lines_of_mem_lines hmem
  rw [splitLines_map_line, hlines, List.flatMap_singleton']

lemma splitLines_splitEvent (event : Event) : splitLines (splitEvent event) = splitEvent event := by
  cases event with
  | line content => exact splitLines_map_lines content
  | rich content => rfl
  | clear => rfl

lemma splitLines_splitLines (events : List Event) :
    splitLines (splitLines events) = splitLines events := by
  rw [splitLines, splitLines, List.flatMap_assoc]
  exact List.flatMap_congr fun event _ => splitLines_splitEvent event

lemma eventsOfAll_eq_flatMap (outputs : List Output) :
    Output.eventsOfAll outputs = outputs.flatMap Output.events := by
  induction outputs with
  | nil => rw [Output.eventsOfAll, List.flatMap_nil]
  | cons output outputs ih => rw [Output.eventsOfAll, ih, List.flatMap_cons]

lemma eventsOfAll_append (outputs outputs' : List Output) :
    Output.eventsOfAll (outputs ++ outputs') =
      Output.eventsOfAll outputs ++ Output.eventsOfAll outputs' := by
  simp only [eventsOfAll_eq_flatMap, List.flatMap_append]

lemma shownByScript_of_ne_sequence {output : Output} (h : ∀ parts, output ≠ .sequence parts) :
    shownByScript output = splitLines output.events := by
  cases output with
  | sequence parts => exact absurd rfl (h parts)
  | _ => rfl

lemma splitLines_shownByScript (output : Output) :
    splitLines (shownByScript output) = splitLines output.events := by
  cases output with
  | sequence parts => rw [shownByScript, Output.events]
  | _ => exact splitLines_splitLines _

end Events

/-! ### Pooled lines -/

section Pooling

open Script

/-- The events of what is gathered so far, with the lines of the pool split. -/
def gatheredEvents (g : Gathered) : List Event :=
  Output.eventsOfAll g.parts ++ splitLines (g.pending.map .line)

lemma eventsOfAll_flush (g : Gathered) :
    Output.eventsOfAll g.flush.parts = gatheredEvents g := by
  unfold Gathered.flush gatheredEvents
  split
  · next hempty => simp [hempty, splitLines]
  · next hpending =>
    have htext : Output.eventsOfAll [.text (Text.join "\n" g.pending)] =
        splitLines (g.pending.map .line) := by
      rw [splitLines_map_line, ← lines_join hpending]
      simp only [Output.eventsOfAll, Output.events, List.append_nil]
    rw [eventsOfAll_append, htext]

lemma events_of_plain {output : Output} {ls : List String} (h : output.plainLines? = some ls) :
    output.events = ls.map .line := by
  cases output with
  | none | text | lines =>
    cases h
    exact Output.events.eq_def _
  | rich | clear | sequence => cases h

lemma shownByScript_of_plain {output : Output} {ls : List String}
    (h : output.plainLines? = some ls) : shownByScript output = splitLines (ls.map .line) := by
  have hsequence : ∀ parts, output ≠ .sequence parts := by
    rintro parts rfl
    cases h
  rw [shownByScript_of_ne_sequence hsequence, events_of_plain h]

lemma shownByScript_of_not_plain {output : Output} (h : output.plainLines? = none) :
    shownByScript output = output.events := by
  cases output with
  | none | text | lines => cases h
  | rich | clear => rfl
  | sequence parts => rw [shownByScript, Output.events]

lemma gatheredEvents_add (g : Gathered) (output : Output) :
    gatheredEvents (g.add output) = gatheredEvents g ++ shownByScript output := by
  unfold Gathered.add
  cases hlines : output.plainLines? with
  | some ls =>
    rw [shownByScript_of_plain hlines]
    simp only [gatheredEvents, List.map_append, splitLines_append, List.append_assoc]
  | none =>
    have hpool : splitLines (([] : List String).map .line) = [] := rfl
    have hpart : Output.eventsOfAll [output] = output.events := by
      rw [Output.eventsOfAll, Output.eventsOfAll, List.append_nil]
    rw [shownByScript_of_not_plain hlines]
    simp only [gatheredEvents, hpool, List.append_nil, eventsOfAll_append, hpart]
    rw [eventsOfAll_flush]
    rfl

lemma gatheredEvents_foldl (g : Gathered) (outputs : List Output) :
    gatheredEvents (outputs.foldl Gathered.add g) =
      gatheredEvents g ++ outputs.flatMap shownByScript := by
  induction outputs generalizing g with
  | nil => simp
  | cons output outputs ih =>
    rw [List.foldl_cons, ih, gatheredEvents_add, List.flatMap_cons, List.append_assoc]

/-- Gathering loses, repeats and moves nothing. -/
theorem events_gather (outputs : List Output) :
    (gather outputs).events = outputs.flatMap shownByScript := by
  have hparts : (gather outputs).events =
      Output.eventsOfAll (outputs.foldl Gathered.add {}).flush.parts := by
    unfold gather
    split
    · next h => simp only [h, Output.events, Output.eventsOfAll]
    · next part h => simp only [h, Output.eventsOfAll, List.append_nil]
    · next h => rw [Output.events]
  have hstart : gatheredEvents {} = [] := rfl
  rw [hparts, eventsOfAll_flush, gatheredEvents_foldl, hstart, List.nil_append]

end Pooling

/-! ### Lines that are dispatched -/

/-- An executable file whose first line is the shebang, and the lines after that. -/
structure IsScript (s : Session σ) (id : Nat) (body : List String) : Prop where
  executable : (s.tree.node id).isExecutable = true
  content : ∃ first, (s.tree.node id).entry = .file (first :: body) ∧
    Text.trim first = s.settings.shebang

/-- The lines of a body that run a command, without blanks around them: those that hold a word
and are no comment. -/
def commandLines (body : List String) : List String :=
  (body.map Text.trim).filter fun line =>
    line ≠ "" && !Text.hasPrefix "#" line && !(Words.ofLine line).isEmpty

/-- Lines whose words go through the table of commands one after the other, with their outputs
and the session after them. A problem counts as the text that it is shown as. -/
inductive Dispatches (r : Registry σ) :
    Session σ → List String → List Output → Session σ → Prop
  | nil {s : Session σ} : Dispatches r s [] [] s
  | ok {s next last : Session σ} {line name : String} {args lines : List String}
    {output : Output} {outputs : List Output} : Words.ofLine line = name :: args →
    r.dispatch s name args = (.ok output, next) → Dispatches r next lines outputs last →
    Dispatches r s (line :: lines) (output :: outputs) last
  | problem {s next last : Session σ} {line name : String} {args lines : List String}
    {p : Problem} {outputs : List Output} : Words.ofLine line = name :: args →
    r.dispatch s name args = (.error p, next) → Dispatches r next lines outputs last →
    Dispatches r s (line :: lines) (.text p.message :: outputs) last

section Dispatching

variable {r : Registry σ}

lemma dispatches_cons {s last : Session σ} {line name : String} {args lines : List String}
    {outputs : List Output} (hwords : Words.ofLine line = name :: args)
    (h : Dispatches r (r.dispatch s name args).2 lines outputs last) :
    Dispatches r s (line :: lines) (.ofResult (r.dispatch s name args).1 :: outputs) last := by
  cases hran : r.dispatch s name args with
  | mk result next =>
    rw [hran] at h
    cases result with
    | ok output => exact .ok hwords hran h
    | error p => exact .problem hwords hran h

lemma command?_eq_some {line name : String} {args : List String}
    (h : Script.command? line = some (name, args)) :
    Words.ofLine (Text.trim line) = name :: args ∧
      commandLines [line] = [Text.trim line] := by
  unfold Script.command? at h
  dsimp only at h
  split at h
  · cases h
  · next hline =>
    split at h
    · cases h
    · next words hwords =>
      cases h
      rw [not_or] at hline
      exact ⟨hwords, by simp [commandLines, hline, hwords]⟩

lemma commandLines_of_command?_eq_none {line : String} (h : Script.command? line = none) :
    commandLines [line] = [] := by
  unfold Script.command? at h
  dsimp only at h
  split at h
  · next hline => rcases hline with hline | hline <;> simp [commandLines, hline]
  · split at h
    · next hwords => simp [commandLines, hwords]
    · cases h

lemma commandLines_cons (line : String) (body : List String) :
    commandLines (line :: body) = commandLines [line] ++ commandLines body := by
  simp only [commandLines, List.map_cons, List.map_nil, ← List.filter_append,
    List.singleton_append]

/-- Running the commands of a body dispatches its lines. -/
lemma dispatches_runAll (s : Session σ) (body : List String) :
    Dispatches r s (commandLines body)
      (Script.runAll r s (body.filterMap Script.command?)).1
      (Script.runAll r s (body.filterMap Script.command?)).2 := by
  induction body generalizing s with
  | nil => exact .nil
  | cons line body ih =>
    rw [commandLines_cons]
    cases hcommand : Script.command? line with
    | none =>
      rw [commandLines_of_command?_eq_none hcommand, List.filterMap_cons_none hcommand]
      exact ih s
    | some command =>
      obtain ⟨name, args⟩ := command
      obtain ⟨hwords, hlines⟩ := command?_eq_some hcommand
      rw [hlines, List.filterMap_cons_some hcommand]
      exact dispatches_cons hwords (ih _)

/-- A run of lines is a run of the first ones and then one of the others. -/
lemma Dispatches.split {s last : Session σ} {before behind : List String} {outputs : List Output}
    (h : Dispatches r s (before ++ behind) outputs last) :
    ∃ first middle rest, outputs = first ++ rest ∧ Dispatches r s before first middle ∧
      Dispatches r middle behind rest last := by
  induction before generalizing s outputs with
  | nil => exact ⟨[], s, outputs, rfl, .nil, h⟩
  | cons line before ih =>
    rw [List.cons_append] at h
    cases h with
    | ok hwords hran htail =>
      obtain ⟨first, middle, rest, rfl, hbefore, hbehind⟩ := ih htail
      exact ⟨_ :: first, middle, rest, rfl, .ok hwords hran hbefore, hbehind⟩
    | problem hwords hran htail =>
      obtain ⟨first, middle, rest, rfl, hbefore, hbehind⟩ := ih htail
      exact ⟨_ :: first, middle, rest, rfl, .problem hwords hran hbefore, hbehind⟩

/-- A line whose first word is not in the table runs nothing. -/
lemma Dispatches.of_unknown {s last : Session σ} {line name : String} {args lines : List String}
    {outputs : List Output} (h : Dispatches r s (line :: lines) outputs last)
    (hwords : Words.ofLine line = name :: args) (hname : r.get? name = none) :
    ∃ rest, outputs = .text ("Command not found: " ++ name) :: rest ∧
      Dispatches r s lines rest last := by
  have hran : r.dispatch s name args = (.error (.unknownCommand name), s) := by
    simp only [Registry.dispatch, hname]
  cases h with
  | ok hwords' hran' htail =>
    rw [hwords] at hwords'
    cases hwords'
    rw [hran] at hran'
    cases hran'
  | problem hwords' hran' htail =>
    rw [hwords] at hwords'
    cases hwords'
    rw [hran] at hran'
    cases hran'
    exact ⟨_, rfl, htail⟩

end Dispatching

/-! ### Running a script -/

section Running

variable {r : Registry σ} {s : Session σ} {id : Nat}

lemma run_of_isScript {body : List String} (h : IsScript s id body) :
    Script.run r s id =
      (.ok (Script.gather (Script.runAll r s (body.filterMap Script.command?)).1),
        (Script.runAll r s (body.filterMap Script.command?)).2) := by
  obtain ⟨first, hentry, hshebang⟩ := h.content
  have hcontent : (s.tree.node id).content? = some (first :: body) := by
    rw [Node.content?, hentry]
  simp [Script.run, h.executable, hcontent, hshebang]

/-- A node that is no script is refused, and nothing is run. -/
lemma run_of_not_isScript (h : ∀ body, ¬IsScript s id body) :
    Script.run r s id = (.error (if (s.tree.node id).isExecutable then
      .notScript (s.tree.node id).name else .permissionDenied (s.tree.node id).name), s) := by
  unfold Script.run
  by_cases hexecutable : (s.tree.node id).isExecutable
  · cases hentry : (s.tree.node id).entry with
    | directory children => simp [hexecutable, Node.content?, hentry]
    | file content =>
      cases content with
      | nil => simp [hexecutable, Node.content?, hentry]
      | cons first body =>
        have hshebang : Text.trim first ≠ s.settings.shebang := fun heq =>
          h body ⟨hexecutable, first, hentry, heq⟩
        simp [hexecutable, Node.content?, hentry, hshebang]
  · simp [hexecutable]

lemma exists_isScript_of_run {output : Output} {after : Session σ}
    (h : Script.run r s id = (.ok output, after)) : ∃ body, IsScript s id body := by
  by_contra hnone
  rw [run_of_not_isScript (not_exists.mp hnone)] at h
  cases h

/-- A script that runs is its command lines dispatched in order: the session after it is theirs,
its events are theirs with the lines split, and a line whose first word is not in the table, such
as the path of a script, runs nothing and stops nothing. -/
theorem run_dispatches {output : Output} {after : Session σ}
    (h : Script.run r s id = (.ok output, after)) :
    ∃ body outputs, IsScript s id body ∧ Dispatches r s (commandLines body) outputs after ∧
      splitLines output.events = splitLines (outputs.flatMap Output.events) ∧
      ((∀ parts, Output.sequence parts ∉ outputs) →
        output.events = splitLines (outputs.flatMap Output.events)) ∧
      ∀ before line behind name args, commandLines body = before ++ line :: behind →
        Words.ofLine line = name :: args → r.get? name = none →
        ∃ first middle rest, outputs = first ++ .text ("Command not found: " ++ name) :: rest ∧
          Dispatches r s before first middle ∧ Dispatches r middle behind rest after := by
  obtain ⟨body, hbody⟩ := exists_isScript_of_run h
  rw [run_of_isScript hbody, Prod.mk.injEq, Except.ok.injEq] at h
  obtain ⟨rfl, rfl⟩ := h
  have hlines := dispatches_runAll (r := r) s body
  refine ⟨body, _, hbody, hlines, ?_, ?_, ?_⟩
  · rw [events_gather, splitLines_flatMap, splitLines_flatMap]
    exact List.flatMap_congr fun output _ => splitLines_shownByScript output
  · intro hsequence
    rw [events_gather, splitLines_flatMap]
    refine List.flatMap_congr fun output hmem => ?_
    exact shownByScript_of_ne_sequence fun parts heq => hsequence parts (heq ▸ hmem)
  · intro before line behind name args hbody hwords hname
    rw [hbody] at hlines
    obtain ⟨first, middle, rest, houtputs, hbefore, hbehind⟩ := hlines.split
    obtain ⟨rest, rfl, hrest⟩ := hbehind.of_unknown hwords hname
    exact ⟨first, middle, rest, houtputs, hbefore, hrest⟩

end Running

/-! ### A script that names itself -/

/-- Scripts in the root, in a home and below it. -/
def scriptSeed : Seed :=
  .directory "/" ⟨"drwxr-xr-x", "", "", ""⟩
    [.directory "home" ⟨"drwxr-xr-x", "", "", ""⟩
      [.directory "ada" ⟨"drwxr-xr-x", "", "", ""⟩
        [.file "run" ⟨"-rwxr-xr-x", "", "", ""⟩
          ["#!/bin/earsh", "# a note", "echo one", " ./run", "clear", "cd docs", "pwd"],
          .directory "docs" ⟨"drwxr-xr-x", "", "", ""⟩
            [.file "tool box" ⟨"-rwxr-xr-x", "", "", ""⟩ ["#!/bin/earsh"]]]],
      .file "greet" ⟨"-rwxr-xr-x", "", "", ""⟩ ["#!/bin/earsh", "echo hi"]]

def scriptTree : Tree :=
  ⟨#[⟨"/", ⟨"drwxr-xr-x", "", "", ""⟩, none, .directory [1, 6]⟩,
    ⟨"home", ⟨"drwxr-xr-x", "", "", ""⟩, some 0, .directory [2]⟩,
    ⟨"ada", ⟨"drwxr-xr-x", "", "", ""⟩, some 1, .directory [3, 4]⟩,
    ⟨"run", ⟨"-rwxr-xr-x", "", "", ""⟩, some 2,
      .file ["#!/bin/earsh", "# a note", "echo one", " ./run", "clear", "cd docs", "pwd"]⟩,
    ⟨"docs", ⟨"drwxr-xr-x", "", "", ""⟩, some 2, .directory [5]⟩,
    ⟨"tool box", ⟨"-rwxr-xr-x", "", "", ""⟩, some 4, .file ["#!/bin/earsh"]⟩,
    ⟨"greet", ⟨"-rwxr-xr-x", "", "", ""⟩, some 0, .file ["#!/bin/earsh", "echo hi"]⟩]⟩

lemma ofSeed_scriptSeed : Tree.ofSeed scriptSeed = .ok scriptTree := rfl

/-- A session in the home that holds `run`. -/
def scriptSession : Session Memory :=
  started { defaultUser := "ada" } scriptTree [] .empty id

lemma reachable_scriptSession : Reachable scriptSession :=
  ⟨{ defaultUser := "ada" }, scriptSeed, [], .empty, id, .ofSession scriptSession, [],
    boot_eq_ok_iff.mpr ⟨scriptTree, ofSeed_scriptSeed, rfl⟩, rfl⟩

/-- The second command of the script is the script itself, and the lines after it still run. -/
theorem run_dispatches_self : ∃ outputs after,
    Script.run .standard scriptSession 3 =
      (.ok (.sequence [.text "one\nCommand not found: ./run", .clear, .text "/home/ada/docs/"]),
        after) ∧
    after.cwd = ["/", "home", "ada", "docs"] ∧
    Dispatches .standard scriptSession ["echo one", "./run", "clear", "cd docs", "pwd"] outputs
      after ∧
    splitLines (outputs.flatMap Output.events) = [.line "one", .line "Command not found: ./run",
      .clear, .line "/home/ada/docs/"] := by
  have hrun : Script.run .standard scriptSession 3 =
      (.ok (.sequence [.text "one\nCommand not found: ./run", .clear, .text "/home/ada/docs/"]),
        (Script.run .standard scriptSession 3).2) := Prod.ext rfl rfl
  obtain ⟨body, outputs, ⟨-, first, hentry, -⟩, hlines, hevents, -⟩ := run_dispatches hrun
  have hcontent : (scriptSession.tree.node 3).entry =
      .file ["#!/bin/earsh", "# a note", "echo one", " ./run", "clear", "cd docs", "pwd"] := rfl
  rw [hcontent] at hentry
  cases hentry
  refine ⟨outputs, _, hrun, by decide +kernel, hlines, ?_⟩
  rw [← hevents]
  rfl

end SeedShell.Proofs
