import SeedShell.Proofs.Paths
import SeedShell.Proofs.ScriptRuns
import SeedShell.Proofs.TypedWords

/-!
# Where completed paths lead

A suggestion is put together from the typed text up to the last slash and the escaped name of an
entry. Over a tree with plain names the completed line is read as the words before the token and
one word more, and that word is a path to the entry that was suggested.
-/

namespace SeedShell.Proofs

open Session Completion

/-! ### Plain names -/

/-- A name that a path can use as it is and that needs no more than its spaces escaped. -/
structure IsPlainName (name : String) : Prop where
  nonempty : name ≠ ""
  slash : '/' ∉ name.toList
  chars : ∀ c ∈ name.toList, isLiteral c ∨ c = ' '
  special : name ∉ [".", "..", "~"]

instance (name : String) : Decidable (IsPlainName name) :=
  have := List.decidableBAll (fun c => isLiteral c ∨ c = ' ') name.toList
  decidable_of_iff (name ≠ "" ∧ '/' ∉ name.toList ∧ (∀ c ∈ name.toList, isLiteral c ∨ c = ' ') ∧
    name ∉ [".", "..", "~"]) ⟨fun ⟨h₁, h₂, h₃, h₄⟩ => ⟨h₁, h₂, h₃, h₄⟩,
      fun ⟨h₁, h₂, h₃, h₄⟩ => ⟨h₁, h₂, h₃, h₄⟩⟩

/-- Every name but that of the root is plain. -/
def PlainNames (t : Tree) : Prop :=
  ∀ id < t.size, id ≠ Tree.root → IsPlainName (t.node id).name

instance (t : Tree) : Decidable (PlainNames t) :=
  inferInstanceAs (Decidable (∀ id < t.size, _ → _))

section Names

variable {t : Tree} (hw : WellFormed t) (hnames : PlainNames t)
include hw hnames

lemma PlainNames.of_mem {dir child : Nat} (h : child ∈ (t.node dir).children) :
    IsPlainName (t.node child).name :=
  hnames child (hw.lt_of_mem h) fun hroot => hw.root_notMem dir (hroot ▸ h)

end Names

def slashOf (n : Node) : List Char := if n.isDirectory then ['/'] else []

lemma slashOf_cases (n : Node) : slashOf n = [] ∨ slashOf n = ['/'] := by
  unfold slashOf
  split
  · exact .inr rfl
  · exact .inl rfl

lemma slashOf_of_isFile {n : Node} (h : n.isFile = true) : slashOf n = [] := by
  rw [slashOf, if_neg]
  simpa [Node.isFile] using h

namespace IsPlainName

variable {name : String} (h : IsPlainName name)
include h

lemma toList_ne_nil : name.toList ≠ [] := by simpa using h.nonempty

lemma ne_dot : name ≠ "." := fun heq => h.special (by simp [heq])

lemma ne_dots : name ≠ ".." := fun heq => h.special (by simp [heq])

lemma token : Token (Words.escapeChars name.toList) := token_escapeChars h.chars

lemma components_append {tail : List Char} (htail : tail = [] ∨ tail = ['/']) :
    components (String.ofList (name.toList ++ tail)) = [name] := by
  have hname := components_name h.slash h.toList_ne_nil
  rw [String.ofList_toList] at hname
  rcases htail with rfl | rfl
  · rw [List.append_nil, String.ofList_toList, hname]
  · rw [components_append_slash, String.ofList_toList, hname, components_nil, List.append_nil]

lemma isRelative_append (tail : List Char) : IsRelative (name.toList ++ tail) := by
  have htilde : name.toList ≠ ['~'] := by
    intro heq
    refine h.special ?_
    rw [← String.ofList_toList (s := name), heq]
    decide
  have hslash := h.slash
  rcases hname : name.toList with _ | ⟨c, cs⟩
  · exact absurd hname h.toList_ne_nil
  rw [hname] at htilde hslash
  have hc : c ≠ '/' := fun heq => hslash (heq ▸ List.mem_cons_self)
  have hroot : ¬['/'] <+: c :: cs ++ tail := by simpa using Ne.symm hc
  cases cs with
  | nil =>
    -- a single character is no tilde, so nothing after it makes it a home
    have hc : c ≠ '~' := fun heq => htilde (by rw [heq])
    exact ⟨hroot, by simp [hc], by simp [Ne.symm hc]⟩
  | cons d ds =>
    have hd : d ≠ '/' := fun heq => hslash (heq ▸ by simp)
    exact ⟨hroot, by simp, by simp [Ne.symm hd]⟩

end IsPlainName

/-! ### The path of an entry -/

section Entries

variable {σ : Type} {s : Session σ}

lemma directoryOf?_append_slash (path : List Char) :
    directoryOf? s (path ++ ['/']) = directoryOn? s (unescape (path ++ ['/'])) := by
  rw [directoryOf?, if_neg (List.append_ne_nil_of_right_ne_nil _ (by simp))]
  rfl

variable [KeyValueStore σ] (hs : Reachable s)
include hs

/-- The entries of the directory that a token names are reached by the unescaped text. -/
lemma resolve?_entry {directory : List Char}
    (hdirectory : directory = [] ∨ ∃ path, directory = path ++ ['/']) {dir entry : Nat}
    (hdir : directoryOf? s directory = some dir) (hmem : entry ∈ (s.tree.node dir).children)
    (hname : IsPlainName (s.tree.node entry).name) {tail : List Char}
    (htail : tail = [] ∨ tail = ['/']) :
    s.resolve? (String.ofList (unescape directory ++ ((s.tree.node entry).name.toList ++ tail))) =
      some entry := by
  have hw := hs.wellFormed
  have hchild : s.tree.child? dir (s.tree.node entry).name = some entry :=
    hw.child?_eq_some_iff.mpr ⟨hmem, rfl⟩
  have hcomponents := hname.components_append htail
  rcases hdirectory with rfl | ⟨path, rfl⟩
  · rw [directoryOf?, if_pos rfl] at hdir
    obtain rfl := Option.some.inj hdir
    rw [unescape, List.nil_append, resolve?_of_isRelative hs.directoryAt?_cwd
      (hname.isRelative_append tail) hcomponents hname.ne_dot hname.ne_dots]
    exact hchild
  · rw [directoryOf?_append_slash, unescape_concat_slash] at hdir
    rw [unescape_concat_slash, List.append_assoc, List.singleton_append,
      resolve?_append_slash hw _ hcomponents hname.ne_dot hname.ne_dots, hdir, Option.bind_some]
    exact hchild

end Entries

/-! ### Suggestions -/

section Suggestions

variable {σ : Type} {s : Session σ}

/-- An entry whose name goes on where a path stops. -/
structure Matches (s : Session σ) (path : List Char) (entry : Nat) : Prop where
  parent : ∃ dir, directoryOf? s (Text.cutAfterLast '/' path).1 = some dir ∧
    entry ∈ (s.tree.node dir).children
  start : Text.hasPrefix (String.ofList (unescape (Text.cutAfterLast '/' path).2))
    (s.tree.node entry).name

/-- An entry that a path is completed to, and the path with all of its name. -/
structure Suggests (s : Session σ) (path : List Char) (entry : Nat) (text : String) : Prop
    extends Matches s path entry where
  text_eq : text = String.ofList ((Text.cutAfterLast '/' path).1 ++
    (Words.escapeChars (s.tree.node entry).name.toList ++ slashOf (s.tree.node entry)))

lemma mem_sort {text : String} {texts : List String} : text ∈ Text.sort texts ↔ text ∈ texts :=
  List.mem_mergeSort

lemma mem_matching {path : List Char} {n : Node} :
    n ∈ (matching s path).2 ↔ ∃ entry, Matches s path entry ∧ s.tree.node entry = n := by
  simp only [matching]
  cases hdir : directoryOf? s (Text.cutAfterLast '/' path).1 with
  | none =>
    have hnone : ∀ entry, ¬Matches s path entry := by
      rintro entry ⟨⟨dir, hsome, -⟩, -⟩
      rw [hdir] at hsome
      cases hsome
    simp [hnone]
  | some dir =>
    have hmatches : ∀ entry, Matches s path entry ↔ entry ∈ (s.tree.node dir).children ∧
        Text.hasPrefix (String.ofList (unescape (Text.cutAfterLast '/' path).2))
          (s.tree.node entry).name := by
      intro entry
      constructor
      · rintro ⟨⟨other, hother, hmem⟩, hstart⟩
        rw [hdir] at hother
        exact ⟨Option.some.inj hother ▸ hmem, hstart⟩
      · rintro ⟨hmem, hstart⟩
        exact ⟨⟨dir, hdir, hmem⟩, hstart⟩
    simp only [hmatches, List.mem_filter, List.mem_map]
    constructor
    · rintro ⟨⟨entry, hmem, rfl⟩, hstart⟩
      exact ⟨entry, ⟨hmem, hstart⟩, rfl⟩
    · rintro ⟨entry, ⟨hmem, hstart⟩, rfl⟩
      exact ⟨⟨entry, hmem, rfl⟩, hstart⟩

/-- An entry behind a directory, as it is suggested. -/
lemma pathItem_eq (directory : List Char) (n : Node) :
    String.ofList directory ++ Words.escape n.name ++ (if n.isDirectory then "/" else "") =
      String.ofList (directory ++ (Words.escapeChars n.name.toList ++ slashOf n)) := by
  have hslash : (if n.isDirectory then "/" else "") = String.ofList (slashOf n) := by
    unfold slashOf
    split <;> rfl
  rw [hslash, Words.escape, String.ofList_append, String.ofList_append, String.append_assoc]

lemma mem_pathSuggestions {path : List Char} {wanted : Wanted} {text : String} :
    text ∈ pathSuggestions s path wanted ↔
      ∃ entry, Suggests s path entry text ∧ wanted.admits (s.tree.node entry) := by
  simp only [pathSuggestions, mem_sort, List.mem_map, List.mem_filter, mem_matching]
  constructor
  · rintro ⟨n, ⟨⟨entry, hentry, rfl⟩, hadmits⟩, rfl⟩
    exact ⟨entry, ⟨hentry, pathItem_eq _ _⟩, hadmits⟩
  · rintro ⟨entry, hentry, hadmits⟩
    refine ⟨_, ⟨⟨entry, hentry.toMatches, rfl⟩, hadmits⟩, ?_⟩
    rw [hentry.text_eq]
    exact pathItem_eq _ _

lemma Token.directory {cs : List Char} (h : Token cs) :
    Token (Text.cutAfterLast '/' cs).1 ∧ ((Text.cutAfterLast '/' cs).1 = [] ∨
      ∃ path, (Text.cutAfterLast '/' cs).1 = path ++ ['/']) := by
  obtain ⟨-, ⟨hnone, -⟩ | ⟨path, hslash, hcs⟩⟩ := of_cutAfterLast (Prod.eta _).symm
  · rw [hnone]
    exact ⟨.nil, .inl rfl⟩
  · rw [hcs] at h
    have hpath : Token path := Token.of_append_cons (by decide) h
    rw [hslash]
    exact ⟨hpath.append (.literal (by decide) .nil), .inr ⟨path, rfl⟩⟩

namespace Suggests

variable [KeyValueStore σ] {path : List Char} {entry : Nat} {text : String}
  (h : Suggests s path entry text) (hs : Reachable s) (hnames : PlainNames s.tree)
  (hpath : Token path)
include h hs hnames

lemma isPlainName : IsPlainName (s.tree.node entry).name := by
  obtain ⟨dir, -, hmem⟩ := h.parent
  exact PlainNames.of_mem hs.wellFormed hnames hmem

include hpath

lemma exists_token : ∃ cs, text = String.ofList cs ∧ Token cs ∧
    unescape cs = unescape (Text.cutAfterLast '/' path).1 ++
      ((s.tree.node entry).name.toList ++ slashOf (s.tree.node entry)) := by
  have hname := h.isPlainName hs hnames
  obtain ⟨hdirectory, -⟩ := hpath.directory
  have hslash : Token (slashOf (s.tree.node entry)) ∧
      unescape (slashOf (s.tree.node entry)) = slashOf (s.tree.node entry) := by
    rcases slashOf_cases (s.tree.node entry) with hnone | hslash
    · rw [hnone]
      exact ⟨.nil, rfl⟩
    · rw [hslash]
      exact ⟨.literal (by decide) .nil, rfl⟩
  refine ⟨_, h.text_eq, hdirectory.append (hname.token.append hslash.1), ?_⟩
  rw [hdirectory.unescape_append, hname.token.unescape_append, unescape_escapeChars, hslash.2]

/-- The word of a suggestion is a path to its entry. -/
lemma leads_to_entry : ∃ cs, text = String.ofList cs ∧ Token cs ∧ unescape cs ≠ [] ∧
    s.resolve? (String.ofList (unescape cs)) = some entry := by
  obtain ⟨dir, hdir, hmem⟩ := h.parent
  have hname := h.isPlainName hs hnames
  obtain ⟨-, hends⟩ := hpath.directory
  obtain ⟨cs, htext, hcs, hword⟩ := h.exists_token hs hnames hpath
  refine ⟨cs, htext, hcs, ?_, ?_⟩
  · rw [hword]
    simp [hname.toList_ne_nil]
  · rw [hword]
    exact resolve?_entry hs hends hdir hmem hname (slashOf_cases _)

/-- A text is a suggestion for one entry only. -/
lemma unique {other : Nat} (hother : Suggests s path other text) : other = entry := by
  obtain ⟨cs, htext, -, -, hresolve⟩ := h.leads_to_entry hs hnames hpath
  obtain ⟨ds, htext', -, -, hresolve'⟩ := hother.leads_to_entry hs hnames hpath
  obtain rfl : cs = ds := by
    rw [htext] at htext'
    exact String.ofList_injective htext'
  rw [hresolve] at hresolve'
  exact (Option.some.inj hresolve').symm

end Suggests

end Suggestions

/-! ### The completed line -/

section Completed

variable {σ : Type} {r : Registry σ} {s : Session σ} {before : List Char} {command : String}
  {args : List String}

lemma ofCommand_of_mem {name : String} {c : Char} (hmem : c ∈ name.toList)
    (hc : c ∉ "cd".toList ∧ c ∉ "cat".toList) : Wanted.ofCommand name = .entries := by
  have hcd : name ≠ "cd" := fun heq => hc.1 (heq ▸ hmem)
  have hcat : name ≠ "cat" := fun heq => hc.2 (heq ▸ hmem)
  rw [Wanted.ofCommand, if_neg hcd, if_neg hcat]

/-- Behind a command the suggestions are the entries of the kind that it takes. -/
lemma mem_suggest (htyped : Typed (cut before).head)
    (hcommand : Words.ofLine (String.ofList (cut before).head) = command :: args)
    (htoken : ¬['.', '/'] <+: (cut before).token) {text : String} :
    text ∈ suggest r s before ↔ ∃ entry, Suggests s (cut before).token entry text ∧
      (Wanted.ofCommand command).admits (s.tree.node entry) := by
  obtain ⟨field, hfield, hsame⟩ := htyped.first_field (by rw [hcommand, List.head?_cons])
  have hwanted : Wanted.ofCommand field = Wanted.ofCommand command := by
    rcases hsame with rfl | ⟨hbackslash, hspace⟩
    · rfl
    · rw [ofCommand_of_mem hbackslash (by decide), ofCommand_of_mem hspace (by decide)]
  have hpaths : suggest r s before = pathSuggestions s (cut before).token (.ofCommand field) := by
    unfold suggest
    dsimp only
    split
    · next path hpath => exact absurd (hpath ▸ List.prefix_append ['.', '/'] path) htoken
    · rw [hfield]
  rw [hpaths, hwanted, mem_pathSuggestions]

/-- In a tree with plain names the entries of the wanted kind whose names go on are suggested, and
a completed path is one more word of the line that leads to its entry. -/
theorem completed_path_leads_to_entry [KeyValueStore σ] (hs : Reachable s)
    (hnames : PlainNames s.tree) (hbefore : IsTyped before)
    (hcommand : Words.ofLine (String.ofList (cut before).head) = command :: args)
    (htoken : ¬['.', '/'] <+: (cut before).token) (text : String) :
    (text ∈ suggest r s before ↔ ∃ entry, Suggests s (cut before).token entry text ∧
      (Wanted.ofCommand command).admits (s.tree.node entry)) ∧
    ∀ entry, Suggests s (cut before).token entry text →
      (∃ path, Words.ofLine (String.ofList (cut before).head ++ text) =
        (command :: args) ++ [path] ∧ s.resolve? path = some entry) ∧
      (text ∈ suggest r s before →
        (command = "cat" → (s.tree.node entry).isFile = true) ∧
        (command = "cd" → (s.tree.node entry).isDirectory = true)) := by
  obtain ⟨⟨htyped, hends⟩, hpath⟩ := hbefore.typed.cut
  have hmem : text ∈ suggest r s before ↔ ∃ entry, Suggests s (cut before).token entry text ∧
      (Wanted.ofCommand command).admits (s.tree.node entry) :=
    mem_suggest htyped hcommand htoken
  refine ⟨hmem, fun entry hentry => ⟨?_, fun htext => ?_⟩⟩
  · obtain ⟨cs, rfl, hcs, hempty, hresolve⟩ := hentry.leads_to_entry hs hnames hpath
    refine ⟨_, ?_, hresolve⟩
    rw [← String.ofList_append, ofLine_append_token hends hcs hempty, hcommand]
  · obtain ⟨other, hother, hadmits⟩ := hmem.mp htext
    obtain rfl := hentry.unique hs hnames hpath hother
    constructor <;>
    · rintro rfl
      exact hadmits

end Completed

/-- A home, an escaped space at the end and a file behind them. -/
theorem completed_path_leads_to_entry_home :
    "~/docs/tool\\ box" ∈ suggest .standard scriptSession "cat ~/docs/tool\\ ".toList ∧
      ∃ path, Words.ofLine "cat ~/docs/tool\\ box" = ["cat", path] ∧
        scriptSession.resolve? path = some 5 ∧ (scriptSession.tree.node 5).isFile = true := by
  have hmem : "~/docs/tool\\ box" ∈
      suggest .standard scriptSession "cat ~/docs/tool\\ ".toList := by decide +kernel
  have hentry : Suggests scriptSession (cut "cat ~/docs/tool\\ ".toList).token 5
      "~/docs/tool\\ box" :=
    ⟨⟨⟨4, by decide +kernel, by decide +kernel⟩, by decide +kernel⟩, by decide +kernel⟩
  have hcommand : Words.ofLine (String.ofList (cut "cat ~/docs/tool\\ ".toList).head) =
      ["cat"] := by decide +kernel
  have hline : String.ofList (cut "cat ~/docs/tool\\ ".toList).head ++ "~/docs/tool\\ box" =
      "cat ~/docs/tool\\ box" := by decide +kernel
  obtain ⟨-, hleads⟩ := completed_path_leads_to_entry reachable_scriptSession (by decide +kernel)
    (by decide +kernel) hcommand (by decide +kernel) "~/docs/tool\\ box"
  obtain ⟨⟨path, hwords, hresolve⟩, hkind⟩ := hleads 5 hentry
  rw [hline] at hwords
  exact ⟨hmem, path, hwords, hresolve, (hkind hmem).1 rfl⟩

end SeedShell.Proofs
