import SeedShell.Proofs.CommonPrefixes
import SeedShell.Proofs.EscapedSpaces
import SeedShell.Proofs.RelativeScripts

/-!
# Completion inserts at the cursor

A candidate is put together from the typed path up to its last slash and a name that is escaped
anew. In the token no space is without a backslash, so what is escaped anew begins with what was
typed, and a completed line is the typed one with some text put in at the cursor. This holds for
every tree, whatever its names are, and for every table of commands.
-/

namespace SeedShell.Proofs

open Completion Words

/-! ### Candidates -/

section Candidates

variable {σ : Type} {s : Session σ}

lemma Suggests.isPrefix {path : List Char} {entry : Nat} {text : String}
    (h : Suggests s path entry text) (hpath : SpacesEscaped path) : path <+: text.toList := by
  have hname : (Text.cutAfterLast '/' path).2 <+:
      escapeChars (s.tree.node entry).name.toList := by
    have hstart : unescape (Text.cutAfterLast '/' path).2 <+: (s.tree.node entry).name.toList := by
      have hprefix := h.start
      rwa [Text.hasPrefix, String.toList_ofList, List.isPrefixOf_iff_prefix] at hprefix
    have hescaped := escapeChars_isPrefix hstart
    rwa [escapeChars_unescape hpath.afterLast] at hescaped
  have hrest := hname.trans (List.prefix_append _ (slashOf (s.tree.node entry)))
  calc path = (Text.cutAfterLast '/' path).1 ++ (Text.cutAfterLast '/' path).2 :=
        (cutAfterLast_append '/' path).symm
    _ <+: (Text.cutAfterLast '/' path).1 ++
          (escapeChars (s.tree.node entry).name.toList ++ slashOf (s.tree.node entry)) :=
        (List.prefix_append_right_inj _).mpr hrest
    _ = text.toList := by rw [h.text_eq, String.toList_ofList]

variable {r : Registry σ}

lemma isPrefix_of_mem_completions {start text : String} (h : text ∈ r.completions start) :
    start.toList <+: text.toList := by
  have hprefix := (List.mem_filter.mp h).2
  rwa [Text.hasPrefix, List.isPrefixOf_iff_prefix] at hprefix

/-- Every candidate begins with the token as it is typed. -/
lemma token_isPrefix_of_mem_suggest {before : List Char} {text : String}
    (h : text ∈ suggest r s before) : (cut before).token <+: text.toList := by
  have hspaces := spacesEscaped_token before
  unfold suggest at h
  dsimp only at h
  split at h
  · next path htoken =>
    rw [htoken] at hspaces ⊢
    have hdivided : SpacesEscaped (['.', '/'] ++ path) := hspaces
    have hpath : SpacesEscaped path := hdivided.of_append (by simp)
    obtain ⟨file, hfile⟩ := mem_scriptSuggestions.mp h
    obtain ⟨rest, hrest, rfl⟩ := hfile.entry
    have hprefix : ['.', '/'] ++ path <+: ['.', '/'] ++ rest.toList :=
      (List.prefix_append_right_inj _).mpr (hrest.isPrefix hpath)
    rw [String.toList_append]
    exact hprefix
  · split at h
    · have hprefix := isPrefix_of_mem_completions h
      rwa [String.toList_ofList] at hprefix
    · obtain ⟨entry, hentry, -⟩ := mem_pathSuggestions.mp h
      exact hentry.isPrefix hspaces

end Candidates

/-! ### The new line -/

/-- What replaces the token begins with it. -/
lemma isPrefix_of_replacement? {token text : List Char} {suggestions : List String}
    (hsome : suggestions ≠ []) (hall : ∀ suggestion ∈ suggestions, token <+: suggestion.toList)
    (h : replacement? token suggestions = some text) : token <+: text := by
  unfold replacement? at h
  split at h
  · next only =>
    have honly := hall only (List.mem_singleton_self only)
    obtain rfl := Option.some.inj h
    split
    · exact honly
    · exact honly.trans (List.prefix_append _ _)
  · obtain ⟨first, rest, rfl⟩ := List.exists_cons_of_ne_nil hsome
    dsimp only at h
    split at h
    · obtain rfl := Option.some.inj h
      exact isPrefix_commonPrefix_iff.mpr hall
    · cases h

/-- A line is another one with some text put in at its cursor, and the cursor stands behind that. A
cursor past the end stands at the end. -/
def InsertsAt (buffer : String) (cursor : Nat) (buffer' : String) (cursor' : Nat) : Prop :=
  ∃ before inserted after : String, buffer = before ++ after ∧
    before.length = min cursor buffer.length ∧ buffer' = before ++ inserted ++ after ∧
    cursor' = (before ++ inserted).length

/-- A completion only inserts text at the cursor, and every candidate begins with the token as it is
typed, the end of the text before the cursor. -/
theorem completion_inserts {σ : Type} (r : Registry σ) (s : Session σ) (buffer : String)
    (cursor : Nat) :
    (∀ buffer' cursor', complete r s buffer cursor .single = .edit buffer' cursor' →
      InsertsAt buffer cursor buffer' cursor') ∧
    ∀ before, (cut before).head ++ (cut before).token = before ∧
      ∀ suggestion ∈ suggest r s before, (cut before).token <+: suggestion.toList := by
  refine ⟨fun buffer' cursor' h => ?_, fun before => ⟨cut_append before, ?_⟩⟩
  · unfold complete at h
    dsimp only at h
    split at h
    · cases h
    next hsome =>
    split at h
    · cases h
    next text htext =>
    have hall : ∀ suggestion ∈ suggest r s (buffer.toList.take cursor),
        (cut (buffer.toList.take cursor)).token <+: suggestion.toList :=
      fun _ => token_isPrefix_of_mem_suggest
    obtain ⟨inserted, rfl⟩ := isPrefix_of_replacement? hsome hall htext
    rw [← List.append_assoc, cut_append] at h
    obtain ⟨rfl, rfl⟩ := Completion.edit.inj h
    refine ⟨String.ofList (buffer.toList.take cursor), String.ofList inserted,
      String.ofList (buffer.toList.drop cursor), ?_, ?_, ?_, ?_⟩
    · rw [← String.ofList_append, List.take_append_drop, String.ofList_toList]
    · rw [String.length_ofList, List.length_take, String.length_toList]
    · rw [String.ofList_append, String.ofList_append]
    · rw [← String.ofList_append, String.length_ofList]
  · intro suggestion hmem
    exact token_isPrefix_of_mem_suggest hmem

/-- A name with a space is completed in the middle of a line. -/
theorem completion_inserts_space :
    complete .standard scriptSession "ls docs/tool\\  -l" 14 .single =
      .edit "ls docs/tool\\ box  -l" 18 ∧
    InsertsAt "ls docs/tool\\  -l" 14 "ls docs/tool\\ box  -l" 18 := by
  have hedit : complete .standard scriptSession "ls docs/tool\\  -l" 14 .single =
      .edit "ls docs/tool\\ box  -l" 18 := by decide +kernel
  obtain ⟨hinserts, -⟩ := completion_inserts .standard scriptSession "ls docs/tool\\  -l" 14
  exact ⟨hedit, hinserts _ _ hedit⟩

end SeedShell.Proofs
