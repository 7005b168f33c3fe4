import SeedShell.Proofs.Launching
import SeedShell.Proofs.RelativeScripts
import SeedShell.Proofs.Scanning

/-!
# Launches from configured paths

A launch makes a line from a path of the settings, and the line is read like one that is typed. The
spaces of a post's name are escaped there, the path is put in as it is. So the word that is read is
that path exactly if every character of it is literal. The proof counts: any other character costs
one that the word would have to have, and escaping the name makes up for none of them.
-/

namespace SeedShell.Proofs

open Words Session

/-! ### Names that are kept -/

/-- A name that launches a post: nothing is left out of it and it does not ask for the list. -/
structure IsPostName (name : String) : Prop where
  ne_empty : name ≠ ""
  ne_list : name ≠ "list"
  kept : ∀ c ∈ name.toList, c.isAlphanum || c == '-' || c == ' '

section Decoding

variable {c : Char}

lemma bytes_cons (h : c ≠ '%') (cs : List Char) :
    Percent.bytes (c :: cs) = String.utf8EncodeChar c ++ Percent.bytes cs := by
  rw [Percent.bytes]
  rintro a b rest rfl
  exact absurd rfl h

lemma utf8EncodeChar_of_lt (h : c.toNat < 128) :
    String.utf8EncodeChar c = [c.val.toUInt8] := by
  have hle : c.val ≤ 127 := UInt32.le_iff_toNat_le.mpr (Nat.le_of_lt_succ h)
  exact String.utf8EncodeChar_eq_singleton (Char.utf8Size_eq_one_iff.mpr hle)

lemma items_cons_of_lt (h : c.toNat < 128) (bs : List UInt8) :
    Text.Utf8.items .between (c.val.toUInt8 :: bs) =
      .char c :: Text.Utf8.items .between bs := by
  have hbyte : c.val.toUInt8.toNat = c.toNat := by
    rw [UInt32.toNat_toUInt8]
    exact Nat.mod_eq_of_lt (Nat.lt_trans h (by decide))
  have hlow : c.val.toUInt8 < 0x80 := by
    rw [UInt8.lt_iff_toNat_lt, hbyte]
    exact h
  rw [Text.Utf8.items, if_pos hlow, hbyte, Char.ofNat_toNat]

lemma decodeLenient_bytes {cs : List Char} (h : ∀ c ∈ cs, c.toNat < 128 ∧ c ≠ '%') :
    Text.Utf8.decodeLenient (Percent.bytes cs) = cs := by
  induction cs with
  | nil => rfl
  | cons c cs ih =>
    obtain ⟨hlow, hpercent⟩ := h c List.mem_cons_self
    have htail := ih fun d hd => h d (List.mem_cons_of_mem c hd)
    rw [bytes_cons hpercent, utf8EncodeChar_of_lt hlow, List.singleton_append,
      Text.Utf8.decodeLenient, items_cons_of_lt hlow, List.map_cons]
    exact congrArg (c :: ·) htail

end Decoding

namespace IsPostName

variable {name : String} (h : IsPostName name)
include h

lemma decode_eq : Percent.decode name = name := by
  have hchars : ∀ c ∈ name.toList, c.toNat < 128 ∧ c ≠ '%' := by
    intro c hc
    have hkept : Launch.isNameChar c := (isNameChar_eq c).trans (h.kept c hc)
    refine ⟨?_, ?_⟩
    · have hrange := toNat_of_isNameChar hkept
      omega
    · rintro rfl
      cases hkept
  rw [Percent.decode, decodeLenient_bytes hchars, String.ofList_toList]

lemma clean_eq : Launch.clean name = name := by
  have hkept : name.toList.filter Launch.isNameChar = name.toList :=
    List.filter_eq_self.mpr fun c hc => (isNameChar_eq c).trans (h.kept c hc)
  rw [Launch.clean, hkept, String.ofList_toList]

lemma slash_notMem : '/' ∉ name.toList := by
  rw [← h.clean_eq]
  exact notMem_clean name (by decide)

end IsPostName

/-- The line of a post, with the path of the settings as it is. -/
def postLine (settings : Settings) (name : String) : String :=
  "cat " ++ settings.blogDirectory ++ "/" ++ Words.escape name ++ ".md"

lemma IsPostName.ofRaw?_eq {name : String} (h : IsPostName name) (settings : Settings) :
    Launch.ofRaw? settings name = some ⟨none, postLine settings name⟩ := by
  have hstem : Launch.withoutExtension name = name := by
    have hclean := withoutExtension_clean name
    rwa [h.clean_eq] at hclean
  rw [Launch.ofRaw?, if_neg h.ne_empty, h.decode_eq, Launch.ofDecoded]
  simp [hstem, h.clean_eq, Launch.listName, h.ne_list, postLine]

lemma ofRaw?_list (settings : Settings) :
    Launch.ofRaw? settings "list" = some ⟨none, settings.listScript⟩ := by
  have hdecode : Percent.decode "list" = "list" := by decide +kernel
  have hclean : Launch.clean (Launch.withoutExtension "list") = "list" := by decide +kernel
  rw [Launch.ofRaw?, if_neg (by decide), hdecode, Launch.ofDecoded]
  simp [hclean, Launch.listName]

/-! ### Words for paths -/

section Reading

variable {settings : Settings} {name : String}

lemma toList_postLine (settings : Settings) (name : String) : (postLine settings name).toList =
    "cat ".toList ++ settings.blogDirectory.toList ++
      '/' :: Words.escapeChars (name ++ ".md").toList := by
  have hextension : Words.escapeChars ".md".toList = ".md".toList := by decide
  simp only [postLine, Words.escape, String.toList_append, String.toList_ofList,
    escapeChars_append, hextension]
  simp

lemma exists_toList_of_slash {path : String} (h : Text.hasPrefix "/" path) :
    ∃ tail, path.toList = '/' :: tail := by
  rw [Text.hasPrefix, List.isPrefixOf_iff_prefix] at h
  obtain ⟨tail, htail⟩ := h
  exact ⟨tail, htail.symm⟩

/-- A text that begins with a slash is read, behind whole words, as a word that does so. -/
lemma exists_words_of_slash {before : List Char} {words : List (List Char)}
    (hbefore : before.foldl Scan.step {} = { words }) {path : String}
    (hpath : Text.hasPrefix "/" path) (behind : List Char) :
    ∃ word rest, Text.hasPrefix "/" word ∧
      ofLine (String.ofList (before ++ path.toList ++ behind)) =
        words.map String.ofList ++ word :: rest := by
  obtain ⟨tail, htail⟩ := exists_toList_of_slash hpath
  obtain ⟨word, rest, hwords⟩ :=
    exists_ofLine_of_literal hbefore (c := '/') (by decide) (tail ++ behind)
  refine ⟨String.ofList ('/' :: word), rest, by simp [Text.hasPrefix], ?_⟩
  rw [← hwords, htail, List.append_assoc, List.cons_append]

/-- Where the path has a character with a meaning for the scanner, the line is not read as so many
characters as the path of the post has. -/
lemma taken_postLine_lt (h : ∃ c ∈ settings.blogDirectory.toList, ¬isLiteral c) (name : String) :
    taken (scanned (postLine settings name)) < 3 + (postPath settings name).length := by
  have hstart : "cat ".toList.foldl Scan.step {} = ⟨["cat".toList], [], .bare, false⟩ := by decide
  have htaken : taken ⟨["cat".toList], [], .bare, false⟩ = 3 := rfl
  have hpromised : promised ⟨["cat".toList], [], .bare, false⟩ = 3 := rfl
  have hlost := taken_foldl_lt ["cat".toList] [] h
  have hbound := promised_foldl_le ⟨["cat".toList], [], .bare, false⟩
    settings.blogDirectory.toList
  have hlength : (postPath settings name).length =
      settings.blogDirectory.length + 1 + (name ++ ".md").length := by
    rw [postPath, String.append_assoc, String.length_append, String.length_append]
    rfl
  rw [htaken] at hlost
  rw [hpromised] at hbound
  rw [scanned, toList_postLine, List.foldl_append, List.foldl_append, hstart, List.foldl_cons,
    hlength]
  generalize settings.blogDirectory.toList.foldl Scan.step ⟨["cat".toList], [], .bare, false⟩ = s
    at hlost hbound ⊢
  -- a backslash at the end of the path takes the slash and so gains nothing
  have hslash := promised_step_lt hlost hbound '/'
  have htail := promised_escapeChars_le (s.step '/') (name ++ ".md").toList
  have hle := taken_le_promised
    ((Words.escapeChars (name ++ ".md").toList).foldl Scan.step (s.step '/'))
  rw [String.length_toList] at hslash htail
  omega

lemma exists_ofLine_postLine (hdirectory : Text.hasPrefix "/" settings.blogDirectory)
    (name : String) : ∃ word rest, ofLine (postLine settings name) = "cat" :: word :: rest := by
  have hstart : "cat ".toList.foldl Scan.step {} = { words := ["cat".toList] } := by decide
  obtain ⟨word, rest, -, hwords⟩ := exists_words_of_slash hstart hdirectory
    ('/' :: Words.escapeChars (name ++ ".md").toList)
  rw [← toList_postLine, String.ofList_toList] at hwords
  exact ⟨word, rest, hwords⟩

lemma eq_postPath_iff (hname : IsPostName name) {word : String} {rest : List String}
    (h : ofLine (postLine settings name) = "cat" :: word :: rest) :
    word = postPath settings name ↔ ∀ c ∈ settings.blogDirectory.toList, isLiteral c := by
  constructor
  · rintro rfl
    by_contra hmeaning
    push Not at hmeaning
    have hlost := taken_postLine_lt hmeaning name
    have htaken := length_flatMap_ofLine (postLine settings name)
    rw [h, List.flatMap_cons, List.flatMap_cons, List.length_append, List.length_append,
      String.length_toList, String.length_toList] at htaken
    have hcat : "cat".length = 3 := rfl
    omega
  · intro hliteral
    have hpath : ∀ c ∈ (postPath settings name).toList, isLiteral c ∨ c = ' ' := by
      intro c hc
      rw [← hname.clean_eq] at hc
      exact isLiteral_of_mem_postPath hliteral name hc
    rw [postLine, command_eq hliteral, ofLine_cat hpath (by simp [postPath])] at h
    exact (List.cons.inj (List.cons.inj h).2).1.symm

lemma hasPrefix_trim {path : String} (h : Text.hasPrefix "/" path) :
    Text.hasPrefix "/" (Text.trim path) := by
  obtain ⟨tail, htail⟩ := exists_toList_of_slash h
  obtain ⟨rest, hrest⟩ := exists_trimChars_cons (c := '/') (by decide) tail
  have hchars : (Text.trim path).toList = '/' :: rest := by
    rw [Text.trim, String.toList_ofList, htail, hrest]
  simp [Text.hasPrefix, hchars]

lemma exists_ofLine_trim {path : String} (h : Text.hasPrefix "/" path) :
    ∃ word rest, Text.hasPrefix "/" word ∧ ofLine (Text.trim path) = word :: rest := by
  have hstart : ([] : List Char).foldl Scan.step {} = { words := [] } := rfl
  obtain ⟨word, rest, hword, hwords⟩ := exists_words_of_slash hstart (hasPrefix_trim h) []
  refine ⟨word, rest, hword, ?_⟩
  simpa using hwords

lemma eq_of_ofLine_trim_iff {path word : String} {rest : List String} (hempty : path ≠ "")
    (h : ofLine (Text.trim path) = word :: rest) :
    word = path ↔ ∀ c ∈ path.toList, isLiteral c := by
  constructor
  · rintro rfl
    have htaken := length_flatMap_ofLine (Text.trim word)
    rw [h, List.flatMap_cons, List.length_append, String.length_toList] at htaken
    by_contra hmeaning
    push Not at hmeaning
    -- a blank at the end is lost before the line is read, anything else while it is
    by_cases htrim : Text.trim word = word
    · have hlost : taken (scanned word) < 0 + word.toList.length :=
        taken_foldl_lt [] [] hmeaning
      rw [htrim] at htaken
      rw [String.length_toList] at hlost
      omega
    · have hshorter := length_trim_lt htrim
      have hbound := taken_scanned_le (Text.trim word)
      omega
  · intro hliteral
    have htrim : Text.trim path = path :=
      trim_of_forall_not_blank fun c hc => isBlank_of_isLiteral (hliteral c hc)
    rw [htrim, ofLine_of_isLiteral hempty hliteral] at h
    exact (List.cons.inj h).1.symm

end Reading

/-! ### Runs of a word -/

section Running

variable {σ : Type} [KeyValueStore σ] {s : Session σ}

lemma runWords_cat (s : Session σ) (word : String) (rest : List String) :
    Run.runWords .standard s ("cat" :: word :: rest) = Command.showFile s [word] := by
  have hran : Run.runWords .standard s ("cat" :: word :: rest) =
      Command.showFile s (word :: rest) :=
    runWords_of_get? (word :: rest) (by decide) (by decide) rfl
  exact hran

omit [KeyValueStore σ] in
lemma runWords_of_slash {r : Registry σ} {word : String} (h : Text.hasPrefix "/" word)
    (rest : List String) :
    Run.runWords r s (word :: rest) = Run.runFile r s word (s.resolve? word) := by
  obtain ⟨tail, htail⟩ := exists_toList_of_slash h
  simp only [Run.runWords, htail]

omit [KeyValueStore σ] in
lemma showFile_of_markdown {path : String} {file : Nat} {content : List String}
    (hpath : s.resolve? path = some file)
    (hmarkdown : Text.hasSuffix ".md" (s.tree.node file).name)
    (hcontent : (s.tree.node file).content? = some content) :
    Command.showFile s [path] = (.ok (.rich (s.render (Text.join "\n" content))), s) := by
  unfold Command.showFile Command.query
  simp only [hpath, hcontent, Command.fileOutput, if_pos hmarkdown]

lemma execute_of_words (sh : Shell σ) {line word : String} {rest : List String}
    (h : ofLine (Text.trim line) = word :: rest) : sh.execute line =
      (.line (sh.prompt ++ Text.trim line) ::
        (Output.ofResult (Run.runWords .standard sh.session (word :: rest)).1).events,
        { sh with session := (Run.runWords .standard sh.session (word :: rest)).2 }) := by
  have hempty : Text.trim line ≠ "" := by
    intro heq
    rw [heq] at h
    cases h
  unfold Shell.execute
  simp only [if_neg hempty, Run.runLine, h]

end Running

/-! ### Requests -/

/-- What a launch is asked for by way of a path in the settings. -/
structure LaunchRequest (σ : Type) where
  /-- The parameter. -/
  raw : String
  /-- The path in the settings. -/
  configured : String
  /-- The line that is made of it. -/
  line : String
  /-- The words of the line before the one for the path. -/
  before : List String
  /-- The path that is meant in the line. -/
  path : String
  /-- What is done with a word in the place of the path. -/
  run : String → Ran σ
  /-- What is asked for. -/
  asked : Ran σ

namespace LaunchRequest

variable {σ : Type}

/-- A post is asked for by its name: its content is to be rendered. -/
def post (s : Session σ) (name : String) (content : List String) : LaunchRequest σ where
  raw := name
  configured := s.settings.blogDirectory
  line := postLine s.settings name
  before := ["cat"]
  path := postPath s.settings name
  run word := Command.showFile s [word]
  asked := (.ok (.rich (s.render (Text.join "\n" content))), s)

/-- The list is asked for: a script is to be run. -/
def list [KeyValueStore σ] (s : Session σ) (script : Nat) : LaunchRequest σ where
  raw := "list"
  configured := s.settings.listScript
  line := s.settings.listScript
  before := []
  path := s.settings.listScript
  run word := Run.runFile .standard s word (s.resolve? word)
  asked := Script.run .standard s script

/-- The launch shows its line at the prompt and what a run has for an answer, and its session is
the one after that run. -/
def Shows [KeyValueStore σ] (sh : Shell σ) (q : LaunchRequest σ) (ran : Ran σ) : Prop :=
  sh.launch q.raw = (.line (sh.prompt ++ Text.trim q.line) :: (Output.ofResult ran.1).events,
    { sh with session := ran.2 })

/-- The launch does what is asked for. -/
def Serves [KeyValueStore σ] (sh : Shell σ) (q : LaunchRequest σ) : Prop := q.Shows sh q.asked

/-- Two runs show the same and leave the same session. -/
def SameRun (a b : Ran σ) : Prop :=
  (Output.ofResult a.1).events = (Output.ofResult b.1).events ∧ a.2 = b.2

/-- A launch runs the word that its line is read as where the path is meant. Only if the path in the
settings has nothing but literal characters this is that path. Any other word does what is asked for
only if it happens to lead to the same. -/
structure Reads [KeyValueStore σ] (sh : Shell σ) (q : LaunchRequest σ) (word : String) : Prop where
  words : ∃ rest, ofLine (Text.trim q.line) = q.before ++ word :: rest
  shows : q.Shows sh (q.run word)
  whole_iff : word = q.path ↔ ∀ c ∈ q.configured.toList, isLiteral c
  serves_iff : q.Serves sh ↔
    (∀ c ∈ q.configured.toList, isLiteral c) ∨ SameRun (q.run word) q.asked

section Reading

variable [KeyValueStore σ] {sh : Shell σ} {q : LaunchRequest σ} {word : String}

lemma shows_iff {ran : Ran σ} (h : q.Shows sh (q.run word)) :
    q.Shows sh ran ↔ SameRun (q.run word) ran := by
  have hrun : sh.launch q.raw = _ := h
  rw [Shows, hrun, SameRun]
  simp

lemma shows_of_words {rest : List String}
    (hlaunch : Launch.ofRaw? sh.session.settings q.raw = some ⟨none, q.line⟩)
    (hwords : ofLine (Text.trim q.line) = word :: rest) :
    q.Shows sh (Run.runWords .standard sh.session (word :: rest)) := by
  rw [Shows, launch_eq sh hlaunch, execute_of_words sh hwords]
  rfl

lemma reads_of (hwords : ∃ rest, ofLine (Text.trim q.line) = q.before ++ word :: rest)
    (hshows : q.Shows sh (q.run word))
    (hwhole : word = q.path ↔ ∀ c ∈ q.configured.toList, isLiteral c)
    (hasked : q.run q.path = q.asked) : q.Reads sh word := by
  refine ⟨hwords, hshows, hwhole, (shows_iff hshows).trans ⟨.inr, ?_⟩⟩
  rintro (hliteral | hsame)
  · rw [hwhole.mpr hliteral, hasked]
    exact ⟨rfl, rfl⟩
  · exact hsame

end Reading

end LaunchRequest

/-! ### Launches -/

section Launching

variable {σ : Type} [KeyValueStore σ] {sh : Shell σ}

lemma ne_empty_of_slash {path : String} (h : Text.hasPrefix "/" path) : path ≠ "" := by
  rintro rfl
  cases h

lemma LaunchRequest.reads_post (hw : WellFormed sh.session.tree)
    (hslash : Text.hasPrefix "/" sh.session.settings.blogDirectory) {dir : Nat}
    (hdir : sh.session.resolve? sh.session.settings.blogDirectory = some dir)
    (hisDir : sh.session.tree.isDirectory dir) {name : String} (hname : IsPostName name)
    {file : Nat} (hfile : sh.session.tree.child? dir (name ++ ".md") = some file)
    {content : List String} (hcontent : (sh.session.tree.node file).content? = some content) :
    ∃ word, (LaunchRequest.post sh.session name content).Reads sh word := by
  obtain ⟨word, rest, hread⟩ := exists_ofLine_postLine hslash name
  have htrim : Text.trim (postLine sh.session.settings name) =
      postLine sh.session.settings name := trim_command name
  have hwords : ofLine (Text.trim (postLine sh.session.settings name)) = "cat" :: word :: rest :=
    htrim.symm ▸ hread
  have hdirectory : launchDirectory? sh.session sh.session.settings = some dir := by
    rw [launchDirectory?, if_neg (ne_empty_of_slash hslash), hdir, Option.filter_some,
      if_pos hisDir]
  have hpath : sh.session.resolve? (postPath sh.session.settings name) = some file := by
    rw [resolve?_postPath hw _ hname.slash_notMem, hdirectory, Option.bind_some, hfile]
  -- the file is found by its name, so it has the extension and is rendered
  have hmarkdown : Text.hasSuffix ".md" (sh.session.tree.node file).name := by
    rw [(hw.child?_eq_some_iff.mp hfile).2]
    simp [Text.hasSuffix]
  have hshows := shows_of_words (q := .post sh.session name content) (hname.ofRaw?_eq _) hwords
  rw [runWords_cat] at hshows
  exact ⟨word, reads_of ⟨rest, hwords⟩ hshows (eq_postPath_iff hname hread)
    (showFile_of_markdown hpath hmarkdown hcontent)⟩

lemma LaunchRequest.reads_list (hslash : Text.hasPrefix "/" sh.session.settings.listScript)
    {script : Nat} (hscript : sh.session.resolve? sh.session.settings.listScript = some script)
    (hfile : (sh.session.tree.node script).isFile)
    (hexecutable : (sh.session.tree.node script).isExecutable) :
    ∃ word, (LaunchRequest.list sh.session script).Reads sh word := by
  obtain ⟨word, rest, hword, hwords⟩ := exists_ofLine_trim hslash
  have hasked : Run.runFile .standard sh.session sh.session.settings.listScript
      (sh.session.resolve? sh.session.settings.listScript) =
        Script.run .standard sh.session script := by
    rw [hscript, runFile_some hfile hexecutable]
  have hshows := shows_of_words (q := .list sh.session script) (ofRaw?_list _) hwords
  rw [runWords_of_slash hword] at hshows
  exact ⟨word, reads_of ⟨rest, hwords⟩ hshows
    (eq_of_ofLine_trim_iff (ne_empty_of_slash hslash) hwords) hasked⟩

/-- A launch opens the post, and runs the script, to which an absolute path of the settings leads
exactly if that path is read back whole or what is read of it happens to lead to the same. -/
theorem launch_reads_configured_paths (hw : WellFormed sh.session.tree) :
    (Text.hasPrefix "/" sh.session.settings.blogDirectory → ∀ dir,
      sh.session.resolve? sh.session.settings.blogDirectory = some dir →
      sh.session.tree.isDirectory dir → ∀ name file content, IsPostName name →
        sh.session.tree.child? dir (name ++ ".md") = some file →
        (sh.session.tree.node file).content? = some content →
        ∃ word, (LaunchRequest.post sh.session name content).Reads sh word) ∧
    (Text.hasPrefix "/" sh.session.settings.listScript → ∀ script,
      sh.session.resolve? sh.session.settings.listScript = some script →
      (sh.session.tree.node script).isFile → (sh.session.tree.node script).isExecutable →
        ∃ word, (LaunchRequest.list sh.session script).Reads sh word) := by
  refine ⟨fun hslash dir hdir hisDir name file content hname hfile hcontent => ?_,
    fun hslash script hscript hfile hexecutable => ?_⟩
  · exact LaunchRequest.reads_post hw hslash hdir hisDir hname hfile hcontent
  · exact LaunchRequest.reads_list hslash hscript hfile hexecutable

end Launching

/-! ### A blog with a space in its path -/

/-- Two blogs and two scripts in a home, one of each with a space in its name. -/
def spacedSeed : Seed :=
  .directory "/" ⟨"drwxr-xr-x", "", "", ""⟩
    [.directory "home" ⟨"drwxr-xr-x", "", "", ""⟩
      [.directory "ada" ⟨"drwxr-xr-x", "", "", ""⟩
        [.directory "blog" ⟨"drwxr-xr-x", "", "", ""⟩
          [.file "a b.md" ⟨"-rw-r--r--", "", "", ""⟩ ["# Post"]],
        .directory "my blog" ⟨"drwxr-xr-x", "", "", ""⟩
          [.file "a b.md" ⟨"-rw-r--r--", "", "", ""⟩ ["# Post"]],
        .file "posts" ⟨"-rwxr-xr-x", "", "", ""⟩ ["#!/bin/earsh", "echo a b"],
        .file "my posts" ⟨"-rwxr-xr-x", "", "", ""⟩ ["#!/bin/earsh", "echo a b"]]]]

def spacedTree : Tree :=
  ⟨#[⟨"/", ⟨"drwxr-xr-x", "", "", ""⟩, none, .directory [1]⟩,
    ⟨"home", ⟨"drwxr-xr-x", "", "", ""⟩, some 0, .directory [2]⟩,
    ⟨"ada", ⟨"drwxr-xr-x", "", "", ""⟩, some 1, .directory [3, 5, 7, 8]⟩,
    ⟨"blog", ⟨"drwxr-xr-x", "", "", ""⟩, some 2, .directory [4]⟩,
    ⟨"a b.md", ⟨"-rw-r--r--", "", "", ""⟩, some 3, .file ["# Post"]⟩,
    ⟨"my blog", ⟨"drwxr-xr-x", "", "", ""⟩, some 2, .directory [6]⟩,
    ⟨"a b.md", ⟨"-rw-r--r--", "", "", ""⟩, some 5, .file ["# Post"]⟩,
    ⟨"posts", ⟨"-rwxr-xr-x", "", "", ""⟩, some 2, .file ["#!/bin/earsh", "echo a b"]⟩,
    ⟨"my posts", ⟨"-rwxr-xr-x", "", "", ""⟩, some 2, .file ["#!/bin/earsh", "echo a b"]⟩]⟩

lemma ofSeed_spacedSeed : Tree.ofSeed spacedSeed = .ok spacedTree := rfl

/-- A session in the home, with those paths for which the last name begins in a certain way. -/
def spacedSession (start : String) : Session Memory :=
  started { defaultUser := "ada", blogDirectory := "/home/ada/" ++ start ++ "blog",
            listScript := "/home/ada/" ++ start ++ "posts" } spacedTree [] .empty id

lemma reachable_spacedSession (start : String) : Reachable (spacedSession start) :=
  ⟨(spacedSession start).settings, spacedSeed, [], .empty, id, .ofSession (spacedSession start), [],
    boot_eq_ok_iff.mpr ⟨spacedTree, ofSeed_spacedSeed, rfl⟩, rfl⟩

lemma isPostName_space : IsPostName "a b" := ⟨by decide, by decide, List.all_eq_true.mp (by decide)⟩

/-- A space in the name of a post does no harm. -/
theorem launch_reads_configured_paths_plain :
    (Shell.ofSession (spacedSession "")).launch "a b" =
      ([.line "ada@hera:~$ cat /home/ada/blog/a\\ b.md", .rich "# Post"],
        .ofSession (spacedSession "")) ∧
    (Shell.ofSession (spacedSession "")).launch "list" =
      ([.line "ada@hera:~$ /home/ada/posts", .line "a b"], .ofSession (spacedSession "")) := by
  have hdirectory : ∀ c ∈ (spacedSession "").settings.blogDirectory.toList, isLiteral c :=
    List.all_eq_true.mp (by decide +kernel)
  have hlistScript : ∀ c ∈ (spacedSession "").settings.listScript.toList, isLiteral c :=
    List.all_eq_true.mp (by decide +kernel)
  have hw : WellFormed (Shell.ofSession (spacedSession "")).session.tree :=
    (reachable_spacedSession "").wellFormed
  obtain ⟨hposts, hlist⟩ := launch_reads_configured_paths hw
  obtain ⟨_, hpost⟩ := hposts (by decide +kernel) 3 (by decide +kernel) (by decide) "a b" 4
    ["# Post"] isPostName_space (by decide +kernel) rfl
  obtain ⟨_, hscript⟩ := hlist (by decide +kernel) 7 (by decide +kernel) (by decide) (by decide)
  refine ⟨(hpost.serves_iff.mpr (.inl hdirectory)).trans ?_,
    (hscript.serves_iff.mpr (.inl hlistScript)).trans ?_⟩
  · exact congrArg (Prod.mk · _) (by decide +kernel)
  · exact Prod.ext (by decide +kernel) rfl

/-- With a space in the path of the blog no post opens, and with one in the path of the script that
does not run. -/
theorem spaced_paths_are_torn :
    Settings.parse ("default_user = 'ada'\nblog_dir = '/home/ada/my blog'\n" ++
        "blog_list_script = '/home/ada/my posts'") = .ok (spacedSession "my ").settings ∧
    Reachable (spacedSession "my ") ∧
    (spacedSession "my ").resolve? "/home/ada/my blog" = some 5 ∧
    (spacedSession "my ").tree.isDirectory 5 ∧
    (spacedSession "my ").tree.child? 5 "a b.md" = some 6 ∧
    ((spacedSession "my ").tree.node 6).content? = some ["# Post"] ∧
    (spacedSession "my ").resolve? "/home/ada/my posts" = some 8 ∧
    IsScript (spacedSession "my ") 8 ["echo a b"] ∧
    (Shell.ofSession (spacedSession "my ")).launch "a b" =
      ([.line "ada@hera:~$ cat /home/ada/my blog/a\\ b.md",
        .line "cat: /home/ada/my: No such file"], .ofSession (spacedSession "my ")) ∧
    ¬(LaunchRequest.post (spacedSession "my ") "a b" ["# Post"]).Serves
      (.ofSession (spacedSession "my ")) ∧
    (Shell.ofSession (spacedSession "my ")).launch "list" =
      ([.line "ada@hera:~$ /home/ada/my posts",
        .line "/home/ada/my: No such file or directory"], .ofSession (spacedSession "my ")) ∧
    ¬(LaunchRequest.list (spacedSession "my ") 8).Serves (.ofSession (spacedSession "my ")) := by
  have hblog : (spacedSession "my ").resolve? "/home/ada/my blog" = some 5 := by decide +kernel
  have hposts : (spacedSession "my ").resolve? "/home/ada/my posts" = some 8 := by decide +kernel
  have hscript : IsScript (spacedSession "my ") 8 ["echo a b"] :=
    ⟨by decide, "#!/bin/earsh", rfl, by decide +kernel⟩
  have hpost : (Shell.ofSession (spacedSession "my ")).launch "a b" =
      ([.line "ada@hera:~$ cat /home/ada/my blog/a\\ b.md",
        .line "cat: /home/ada/my: No such file"], .ofSession (spacedSession "my ")) := by
    have hwords : ofLine (Text.trim (postLine (spacedSession "my ").settings "a b")) =
        ["cat", "/home/ada/my", "blog/a b.md"] := by
      decide +kernel
    have hshows : (LaunchRequest.post (spacedSession "my ") "a b" ["# Post"]).Shows
        (.ofSession (spacedSession "my ")) _ :=
      LaunchRequest.shows_of_words (isPostName_space.ofRaw?_eq _) hwords
    rw [runWords_cat] at hshows
    exact hshows.trans (congrArg (Prod.mk · _) (by decide +kernel))
  have hlist : (Shell.ofSession (spacedSession "my ")).launch "list" =
      ([.line "ada@hera:~$ /home/ada/my posts",
        .line "/home/ada/my: No such file or directory"], .ofSession (spacedSession "my ")) := by
    have hwords : ofLine (Text.trim (spacedSession "my ").settings.listScript) =
        ["/home/ada/my", "posts"] := by
      decide +kernel
    have hshows : (LaunchRequest.list (spacedSession "my ") 8).Shows
        (.ofSession (spacedSession "my ")) _ :=
      LaunchRequest.shows_of_words (ofRaw?_list _) hwords
    exact hshows.trans (Prod.ext (by decide +kernel) rfl)
  refine ⟨by decide +kernel, reachable_spacedSession "my ", hblog, by decide, by decide +kernel,
    rfl, hposts, hscript, hpost, fun h => ?_, hlist, fun h => ?_⟩
  · exact absurd (congrArg Prod.fst (hpost.symm.trans h)) (by decide +kernel)
  · exact absurd (congrArg Prod.fst (hlist.symm.trans h)) (by decide +kernel)

end SeedShell.Proofs
