import Mathlib.Data.List.DropRight
import SeedShell.Text.Basic

/-!
# Texts cut and joined

A separator between two texts divides their parts, and parts hold no separator, so lines that are
joined come apart again. Fields are the parts between blanks, and blanks alone make none. A text
that is cut after its last mark is put together from a first part that ends in the mark and a
second one without it, and there is one way to do so.
-/

namespace SeedShell.Proofs

/-! ### Parts between separators -/

section Splitting

variable {sep : Char → Bool}

lemma splitChars_cons_sep {c : Char} (h : sep c) (cs : List Char) :
    Text.splitChars sep (c :: cs) = [] :: Text.splitChars sep cs := by
  rw [Text.splitChars, if_pos h]

lemma splitChars_ne_nil (cs : List Char) : Text.splitChars sep cs ≠ [] := by
  induction cs with
  | nil => exact List.cons_ne_nil _ _
  | cons c cs ih =>
    rw [Text.splitChars]
    split
    · exact List.cons_ne_nil _ _
    · cases hparts : Text.splitChars sep cs with
      | nil => exact absurd hparts ih
      | cons part parts => simp

lemma splitChars_append_sep {c : Char} (h : sep c) (as bs : List Char) :
    Text.splitChars sep (as ++ c :: bs) = Text.splitChars sep as ++ Text.splitChars sep bs := by
  induction as with
  | nil => exact splitChars_cons_sep h bs
  | cons a as ih =>
    rw [List.cons_append, Text.splitChars, Text.splitChars, ih]
    split
    · rfl
    · cases hparts : Text.splitChars sep as with
      | nil => exact absurd hparts (splitChars_ne_nil as)
      | cons part parts => rfl

lemma splitChars_of_forall_not {cs : List Char} (h : ∀ c ∈ cs, ¬sep c) :
    Text.splitChars sep cs = [cs] := by
  induction cs with
  | nil => rfl
  | cons c cs ih =>
    have htail := ih fun d hd => h d (List.mem_cons_of_mem c hd)
    rw [Text.splitChars, if_neg (h c List.mem_cons_self), htail, List.modifyHead_cons]

lemma not_sep_of_mem_splitChars {cs part : List Char} (hpart : part ∈ Text.splitChars sep cs) :
    ∀ c ∈ part, ¬sep c := by
  induction cs generalizing part with
  | nil =>
    obtain rfl := List.mem_singleton.mp hpart
    simp
  | cons c cs ih =>
    rw [Text.splitChars] at hpart
    split at hpart
    · rcases List.mem_cons.mp hpart with rfl | hpart
      · simp
      · exact ih hpart
    · next hc =>
      cases hparts : Text.splitChars sep cs with
      | nil => exact absurd hparts (splitChars_ne_nil cs)
      | cons first parts =>
        rw [hparts, List.modifyHead_cons] at hpart
        rcases List.mem_cons.mp hpart with rfl | hpart
        · intro d hd
          rcases List.mem_cons.mp hd with rfl | hd
          · exact hc
          · exact ih (hparts ▸ List.mem_cons_self) d hd
        · exact ih (hparts ▸ List.mem_cons_of_mem _ hpart)

end Splitting

/-! ### Lines -/

lemma lines_append_newline (a b : String) :
    Text.lines (a ++ "\n" ++ b) = Text.lines a ++ Text.lines b := by
  have hchars : (a ++ "\n" ++ b).toList = a.toList ++ '\n' :: b.toList := by simp
  rw [Text.lines, Text.lines, Text.lines, Text.split, Text.split, Text.split, hchars,
    splitChars_append_sep (by decide), List.map_append]

/-- Joined lines come apart into the lines of each. -/
lemma lines_join {ls : List String} (h : ls ≠ []) :
    Text.lines (Text.join "\n" ls) = ls.flatMap Text.lines := by
  unfold Text.join
  induction ls with
  | nil => exact absurd rfl h
  | cons line ls ih =>
    cases ls with
    | nil => simp
    | cons next rest =>
      rw [String.intercalate_cons_cons, lines_append_newline, ih (List.cons_ne_nil _ _)]
      rfl

lemma lines_of_mem_lines {text line : String} (h : line ∈ Text.lines text) :
    Text.lines line = [line] := by
  obtain ⟨part, hpart, rfl⟩ := List.mem_map.mp h
  rw [Text.lines, Text.split, String.toList_ofList,
    splitChars_of_forall_not (not_sep_of_mem_splitChars hpart), List.map_singleton]

lemma lines_of_notMem {text : String} (h : '\n' ∉ text.toList) : Text.lines text = [text] := by
  have hsep : ∀ c ∈ text.toList, ¬(c == '\n') = true := by
    intro c hc heq
    exact h (beq_iff_eq.mp heq ▸ hc)
  rw [Text.lines, Text.split, splitChars_of_forall_not hsep, List.map_singleton,
    String.ofList_toList]

/-! ### Fields -/

section Fields

lemma fields_append_blank {c : Char} (h : Text.isBlank c) (as bs : List Char) :
    Text.fields (String.ofList (as ++ c :: bs)) =
      Text.fields (String.ofList as) ++ Text.fields (String.ofList bs) := by
  simp only [Text.fields, Text.split, String.toList_ofList, splitChars_append_sep h,
    List.map_append, List.filter_append]

lemma fields_of_not_blank {cs : List Char} (hne : cs ≠ [])
    (h : ∀ c ∈ cs, Text.isBlank c = false) :
    Text.fields (String.ofList cs) = [String.ofList cs] := by
  have hparts : Text.splitChars Text.isBlank cs = [cs] :=
    splitChars_of_forall_not fun c hc => by simp [h c hc]
  simp [Text.fields, Text.split, hparts, hne]

lemma fields_of_blank {cs : List Char} (h : ∀ c ∈ cs, Text.isBlank c) :
    Text.fields (String.ofList cs) = [] := by
  induction cs with
  | nil => rfl
  | cons c cs ih =>
    have hrest := ih fun d hd => h d (List.mem_cons_of_mem c hd)
    have hcons := fields_append_blank (h c List.mem_cons_self) [] cs
    rw [List.nil_append] at hcons
    rw [hcons, hrest]
    rfl

/-- Blanks at the end make no field. -/
lemma fields_append_of_blank {behind : List Char} (h : ∀ c ∈ behind, Text.isBlank c)
    (cs : List Char) : Text.fields (String.ofList (cs ++ behind)) =
      Text.fields (String.ofList cs) := by
  cases behind with
  | nil => rw [List.append_nil]
  | cons c behind =>
    have hrest := fields_of_blank fun d hd => h d (List.mem_cons_of_mem c hd)
    rw [fields_append_blank (h c List.mem_cons_self), hrest, List.append_nil]

end Fields

/-! ### The last mark -/

section Cutting

variable {mark : Char}

lemma takeWhile_reverse_append {bs : List Char} (h : mark ∉ bs) (rest : List Char) :
    (bs.reverse ++ rest).takeWhile (· ≠ mark) = bs.reverse ++ rest.takeWhile (· ≠ mark) := by
  refine List.takeWhile_append_of_pos fun c hc => ?_
  have hne : c ≠ mark := fun heq => h (heq ▸ List.mem_reverse.mp hc)
  exact decide_eq_true hne

lemma cutAfterLast_of_notMem {cs : List Char} (h : mark ∉ cs) :
    Text.cutAfterLast mark cs = ([], cs) := by
  have htail := takeWhile_reverse_append h []
  rw [List.append_nil, List.takeWhile_nil, List.append_nil] at htail
  simp only [Text.cutAfterLast, htail, List.reverse_reverse, Nat.sub_self, List.take_zero]

lemma cutAfterLast_append_mark {bs : List Char} (h : mark ∉ bs) (as : List Char) :
    Text.cutAfterLast mark (as ++ mark :: bs) = (as ++ [mark], bs) := by
  have htail : (as ++ mark :: bs).reverse.takeWhile (· ≠ mark) = bs.reverse := by
    have hreverse : (as ++ mark :: bs).reverse = bs.reverse ++ mark :: as.reverse := by simp
    rw [hreverse, takeWhile_reverse_append h, List.takeWhile_cons_of_neg (by simp),
      List.append_nil]
  have hlength : (as ++ mark :: bs).length - bs.length = (as ++ [mark]).length := by
    simp only [List.length_append, List.length_cons, List.length_nil]
    omega
  simp only [Text.cutAfterLast, htail, List.reverse_reverse, hlength]
  rw [List.append_cons as mark bs, List.take_left]

/-- A text that ends in the mark, or is empty, is the part up to the last mark of anything that
goes on without it. -/
lemma cutAfterLast_append_of_notMem {as bs : List Char}
    (hends : as = [] ∨ ∃ front, as = front ++ [mark]) (h : mark ∉ bs) :
    Text.cutAfterLast mark (as ++ bs) = (as, bs) := by
  rcases hends with rfl | ⟨front, rfl⟩
  · exact cutAfterLast_of_notMem h
  · rw [List.append_assoc]
    exact cutAfterLast_append_mark h front

/-- A text without the mark is not cut, any other one right after its last mark. -/
lemma of_cutAfterLast {cs as bs : List Char} (h : Text.cutAfterLast mark cs = (as, bs)) :
    mark ∉ bs ∧ (as = [] ∧ cs = bs ∨ ∃ front, as = front ++ [mark] ∧ cs = front ++ mark :: bs) := by
  by_cases hmark : mark ∈ cs
  · obtain ⟨tail, front, hcs, htail⟩ := List.eq_append_cons_of_mem (List.mem_reverse.mpr hmark)
    have hcs' : cs = front.reverse ++ mark :: tail.reverse := by
      rw [← List.reverse_reverse cs, hcs]
      simp
    have htail' : mark ∉ tail.reverse := fun hmem => htail (List.mem_reverse.mp hmem)
    rw [hcs', cutAfterLast_append_mark htail'] at h
    cases h
    exact ⟨htail', .inr ⟨front.reverse, rfl, hcs'⟩⟩
  · rw [cutAfterLast_of_notMem hmark] at h
    cases h
    exact ⟨hmark, .inl ⟨rfl, rfl⟩⟩

lemma cutAfterLast_append (mark : Char) (cs : List Char) :
    (Text.cutAfterLast mark cs).1 ++ (Text.cutAfterLast mark cs).2 = cs := by
  obtain ⟨-, ⟨hnone, hcs⟩ | ⟨front, hmark, hcs⟩⟩ :=
    of_cutAfterLast (Prod.eta (Text.cutAfterLast mark cs)).symm
  · rw [hnone, List.nil_append, ← hcs]
  · rw [hmark, List.append_assoc, List.singleton_append, ← hcs]

/-- What is cut off in front is nothing, or ends in the mark. -/
lemma ends_of_cutAfterLast {cs as bs : List Char} (h : Text.cutAfterLast mark cs = (as, bs)) :
    as = [] ∨ ∃ front, as = front ++ [mark] := by
  obtain ⟨-, ⟨hnone, -⟩ | ⟨front, hmark, -⟩⟩ := of_cutAfterLast h
  · exact .inl hnone
  · exact .inr ⟨front, hmark⟩

end Cutting

/-! ### Sorting -/

lemma pairwise_sort (xs : List String) : (Text.sort xs).Pairwise (· ≤ ·) := by
  have hsorted : (Text.sort xs).Pairwise fun a b => decide (a ≤ b) = true := by
    apply List.pairwise_mergeSort
    · intro a b c hab hbc
      simp only [decide_eq_true_eq] at hab hbc ⊢
      exact String.le_trans hab hbc
    · intro a b
      simp only [Bool.or_eq_true, decide_eq_true_eq]
      exact String.le_total a b
  exact hsorted.imp of_decide_eq_true

/-- Different strings stand in strictly ascending order. -/
lemma pairwise_lt_sort {xs : List String} (h : xs.Nodup) : (Text.sort xs).Pairwise (· < ·) := by
  have hdifferent : (Text.sort xs).Nodup := (List.mergeSort_perm xs _).nodup_iff.mpr h
  refine (pairwise_sort xs).imp₂ (fun a b hle hne => ?_) hdifferent
  refine String.not_le.mp fun hge => hne ?_
  exact String.le_antisymm hle hge

/-! ### Endings -/

lemma dropPrefixChars?_eq_some_iff {start cs rest : List Char} :
    Text.dropPrefixChars? start cs = some rest ↔ cs = start ++ rest := by
  induction start generalizing cs with
  | nil => simp [Text.dropPrefixChars?]
  | cons c start ih =>
    cases cs with
    | nil => simp [Text.dropPrefixChars?]
    | cons d cs =>
      by_cases hc : c = d
      · simp [Text.dropPrefixChars?, hc, ih]
      · simp [Text.dropPrefixChars?, hc, Ne.symm hc]

lemma dropSuffix?_eq_some_iff {tail s rest : String} :
    Text.dropSuffix? tail s = some rest ↔ s = rest ++ tail := by
  rw [Text.dropSuffix?, Option.map_eq_some_iff]
  constructor
  · rintro ⟨cs, hcs, rfl⟩
    rw [dropPrefixChars?_eq_some_iff, List.reverse_eq_iff] at hcs
    rw [← String.toList_inj]
    simpa using hcs
  · rintro rfl
    refine ⟨rest.toList.reverse, ?_, by simp⟩
    rw [dropPrefixChars?_eq_some_iff]
    simp

lemma trimStartChars_of_not_blank {c : Char} (h : Text.isBlank c = false) (cs : List Char) :
    Text.trimStartChars (c :: cs) = c :: cs :=
  List.dropWhile_cons_of_neg (by simp [h])

/-- A text whose first and last characters are not blank is not trimmed. -/
lemma trim_of_not_blank {first last : Char} (hfirst : Text.isBlank first = false)
    (hlast : Text.isBlank last = false) (cs : List Char) :
    Text.trim (String.ofList (first :: (cs ++ [last]))) =
      String.ofList (first :: (cs ++ [last])) := by
  have hreverse : (first :: (cs ++ [last])).reverse = last :: (cs.reverse ++ [first]) := by simp
  have hend : Text.trimEndChars (first :: (cs ++ [last])) = first :: (cs ++ [last]) := by
    rw [Text.trimEndChars, hreverse, List.dropWhile_cons_of_neg (by simp [hlast]), ← hreverse,
      List.reverse_reverse]
  rw [Text.trim, String.toList_ofList, Text.trimChars, trimStartChars_of_not_blank hfirst, hend]

lemma trimStartChars_trimChars (cs : List Char) :
    Text.trimStartChars (Text.trimChars cs) = Text.trimChars cs := by
  refine List.dropWhile_eq_self_iff.mpr fun hlength => ?_
  -- what is trimmed at its end begins as before
  have hstarts : Text.trimChars cs <+: cs.dropWhile Text.isBlank :=
    List.rdropWhile_prefix Text.isBlank _
  have hstart : 0 < (cs.dropWhile Text.isBlank).length :=
    Nat.lt_of_lt_of_le hlength hstarts.length_le
  rw [hstarts.getElem hlength]
  exact List.dropWhile_get_zero_not Text.isBlank cs hstart

/-- A text that begins with no blank keeps its first character. -/
lemma exists_trimChars_cons {c : Char} (h : Text.isBlank c = false) (cs : List Char) :
    ∃ rest, Text.trimChars (c :: cs) = c :: rest := by
  rw [Text.trimChars, trimStartChars_of_not_blank h]
  have hstarts : Text.trimEndChars (c :: cs) <+: c :: cs :=
    List.rdropWhile_prefix Text.isBlank _
  rcases List.prefix_cons_iff.mp hstarts with hnone | ⟨rest, hrest, -⟩
  · have hblank := List.rdropWhile_eq_nil_iff.mp hnone c List.mem_cons_self
    rw [h] at hblank
    cases hblank
  · exact ⟨rest, hrest⟩

lemma trimChars_sublist (cs : List Char) : List.Sublist (Text.trimChars cs) cs := by
  have hstarts : Text.trimChars cs <+: cs.dropWhile Text.isBlank :=
    List.rdropWhile_prefix Text.isBlank _
  exact hstarts.sublist.trans (List.dropWhile_sublist Text.isBlank)

lemma length_trim_lt {line : String} (h : Text.trim line ≠ line) :
    (Text.trim line).length < line.length := by
  have hsub := trimChars_sublist line.toList
  have hne : Text.trimChars line.toList ≠ line.toList := by
    intro heq
    rw [Text.trim, heq, String.ofList_toList] at h
    exact h rfl
  have hlt := lt_of_le_of_ne hsub.length_le fun heq => hne (hsub.eq_of_length heq)
  rwa [← String.length_toList, ← String.length_toList, Text.trim, String.toList_ofList]

lemma trim_of_forall_not_blank {s : String} (h : ∀ c ∈ s.toList, Text.isBlank c = false) :
    Text.trim s = s := by
  have hstart : Text.trimStartChars s.toList = s.toList :=
    List.dropWhile_eq_self_iff.mpr fun _ => by simp [h]
  have hend : Text.trimEndChars s.toList = s.toList :=
    List.rdropWhile_eq_self_iff.mpr fun hne => by simp [h _ (List.getLast_mem hne)]
  rw [Text.trim, Text.trimChars, hstart, hend, String.ofList_toList]

lemma trim_trim (s : String) : Text.trim (Text.trim s) = Text.trim s := by
  have hend : Text.trimEndChars (Text.trimChars s.toList) = Text.trimChars s.toList :=
    List.rdropWhile_idempotent Text.isBlank (Text.trimStartChars s.toList)
  rw [Text.trim, Text.trim, String.toList_ofList, Text.trimChars, trimStartChars_trimChars, hend]

end SeedShell.Proofs
