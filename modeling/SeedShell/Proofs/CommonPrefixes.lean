import Mathlib.Data.List.Infix
import Mathlib.Logic.Relation
import SeedShell.Completion

/-!
# Common prefixes

The text that suggestions share is determined by what it begins with, which are the texts that all
of them begin with. So it is the greatest of these, whatever the order of the suggestions is, and
the first one is cut down to it when it loses characters at its end as long as some suggestion does
not begin with what is left.
-/

namespace SeedShell.Proofs

open Completion

/-! ### What a common prefix begins with -/

lemma isPrefix_sharedChars_iff {cs as bs : List Char} :
    cs <+: sharedChars as bs ↔ cs <+: as ∧ cs <+: bs := by
  induction cs generalizing as bs with
  | nil => simp
  | cons c cs ih =>
    rcases as with _ | ⟨a, as⟩
    · simp [sharedChars]
    rcases bs with _ | ⟨b, bs⟩
    · simp [sharedChars]
    rw [sharedChars]
    by_cases hab : a = b
    · subst hab
      simp only [if_true, List.cons_prefix_cons, ih]
      tauto
    · rw [if_neg hab]
      simp only [List.prefix_nil, reduceCtorEq, List.cons_prefix_cons, false_iff]
      rintro ⟨⟨rfl, -⟩, rfl, -⟩
      exact hab rfl

/-- The common prefix begins with exactly the texts that all suggestions begin with. -/
lemma isPrefix_commonPrefix_iff {cs : List Char} {first : String} {rest : List String} :
    cs <+: (commonPrefix (first :: rest)).toList ↔
      ∀ text ∈ first :: rest, cs <+: text.toList := by
  have hfold : ∀ shared : List Char, cs <+: (rest.map String.toList).foldl sharedChars shared ↔
      cs <+: shared ∧ ∀ text ∈ rest, cs <+: text.toList := by
    induction rest with
    | nil => simp
    | cons next rest ih =>
      intro shared
      rw [List.map_cons, List.foldl_cons, ih, isPrefix_sharedChars_iff, and_assoc,
        List.forall_mem_cons]
  rw [commonPrefix, String.toList_ofList, hfold, List.forall_mem_cons]

lemma isPrefix_commonPrefix_of_ne_nil {cs : List Char} {texts : List String} (h : texts ≠ []) :
    cs <+: (commonPrefix texts).toList ↔ ∀ text ∈ texts, cs <+: text.toList := by
  obtain ⟨first, rest, rfl⟩ := List.exists_cons_of_ne_nil h
  exact isPrefix_commonPrefix_iff

/-! ### Cutting down the first suggestion -/

/-- A text that not all suggestions begin with loses its last character. -/
inductive Drops (items : List String) : List Char → List Char → Prop
  | last {text : List Char} {c : Char} (h : ¬∀ item ∈ items, text ++ [c] <+: item.toList) :
    Drops items (text ++ [c]) text

section Dropping

variable {items : List String} {text next : List Char}

/-- A text that loses no character is one that all suggestions begin with, the empty one at last. -/
lemma isPrefix_of_forall_not_drops (h : ∀ next, ¬Drops items text next) :
    ∀ item ∈ items, text <+: item.toList := by
  rcases List.eq_nil_or_concat' text with rfl | ⟨front, c, rfl⟩
  · exact fun item _ => List.nil_prefix
  · by_contra hnot
    exact h front (.last hnot)

lemma not_drops_of_isPrefix (h : ∀ item ∈ items, text <+: item.toList) :
    ¬Drops items text next := by
  rintro ⟨hnot⟩
  exact hnot h

/-- A text that all suggestions begin with stays in front of the one that loses characters. -/
lemma isPrefix_of_drops {shared : List Char} (hshared : ∀ item ∈ items, shared <+: item.toList)
    (hfront : shared <+: text) (h : Drops items text next) : shared <+: next := by
  obtain ⟨hnot⟩ := h
  rcases List.prefix_concat_iff.mp hfront with rfl | hnext
  · exact absurd hshared hnot
  · exact hnext

lemma isPrefix_of_reflTransGen_drops {shared : List Char}
    (hshared : ∀ item ∈ items, shared <+: item.toList) (hfront : shared <+: text)
    (h : Relation.ReflTransGen (Drops items) text next) : shared <+: next := by
  induction h with
  | refl => exact hfront
  | tail _ hdrops ih => exact isPrefix_of_drops hshared ih hdrops

/-- A text loses all that it has behind the common prefix, one character after the other. -/
lemma reflTransGen_drops_commonPrefix (hsome : items ≠ []) (extra : List Char) :
    Relation.ReflTransGen (Drops items) ((commonPrefix items).toList ++ extra)
      (commonPrefix items).toList := by
  induction extra using List.reverseRecOn with
  | nil => rw [List.append_nil]
  | append_singleton extra c ih =>
    refine .head ?_ ih
    rw [← List.append_assoc]
    refine .last fun hall => ?_
    have hlength := ((isPrefix_commonPrefix_of_ne_nil hsome).mpr hall).length_le
    simp only [List.length_append, List.length_singleton] at hlength
    omega

/-- Losing characters comes to an end, and it does so at the common prefix. -/
lemma drops_end_iff {first : String} {rest : List String} :
    (Relation.ReflTransGen (Drops (first :: rest)) first.toList text ∧
        ∀ next, ¬Drops (first :: rest) text next) ↔
      text = (commonPrefix (first :: rest)).toList := by
  have hall : ∀ item ∈ first :: rest, (commonPrefix (first :: rest)).toList <+: item.toList :=
    isPrefix_commonPrefix_iff.mp List.prefix_rfl
  obtain ⟨extra, hextra⟩ := hall first List.mem_cons_self
  constructor
  · rintro ⟨hreach, hend⟩
    have hle : text <+: (commonPrefix (first :: rest)).toList :=
      isPrefix_commonPrefix_iff.mpr (isPrefix_of_forall_not_drops hend)
    have hge := isPrefix_of_reflTransGen_drops hall ⟨extra, hextra⟩ hreach
    exact hle.eq_of_length_le hge.length_le
  · rintro rfl
    refine ⟨?_, fun next => not_drops_of_isPrefix hall⟩
    have hreach := reflTransGen_drops_commonPrefix (List.cons_ne_nil first rest) extra
    rwa [hextra] at hreach

end Dropping

/-! ### The greatest common prefix -/

lemma isPrefix_of_mem {items : List String} {item : String} (hmem : item ∈ items) :
    (commonPrefix items).toList <+: item.toList :=
  (isPrefix_commonPrefix_of_ne_nil (List.ne_nil_of_mem hmem)).mp List.prefix_rfl item hmem

/-- Only which suggestions there are counts, not their order and not how often they occur. -/
lemma commonPrefix_congr {items others : List String} (h : ∀ item, item ∈ others ↔ item ∈ items) :
    commonPrefix others = commonPrefix items := by
  rcases items with _ | ⟨first, rest⟩
  · have hnil : others = [] :=
      List.eq_nil_iff_forall_not_mem.mpr fun item hmem => List.not_mem_nil ((h item).mp hmem)
    rw [hnil]
  · have hsome : others ≠ [] := List.ne_nil_of_mem ((h first).mpr List.mem_cons_self)
    have hsame : ∀ cs : List Char,
        cs <+: (commonPrefix others).toList ↔ cs <+: (commonPrefix (first :: rest)).toList := by
      intro cs
      rw [isPrefix_commonPrefix_of_ne_nil hsome, isPrefix_commonPrefix_iff]
      exact forall_congr' fun item => imp_congr_left (h item)
    have hle := (hsame _).mp List.prefix_rfl
    have hge := (hsame _).mpr List.prefix_rfl
    exact String.toList_inj.mp (hle.eq_of_length_le hge.length_le)

/-- The common prefix of suggestions is the greatest text that all of them begin with, whatever
their order is and however often they occur. It is where the first suggestion ends up that loses
characters at its end until all suggestions begin with it. -/
theorem commonPrefix_is_greatest (items : List String) :
    (∀ item ∈ items, (commonPrefix items).toList <+: item.toList) ∧
      (items ≠ [] → ∀ text : String, (∀ item ∈ items, text.toList <+: item.toList) →
        text.toList <+: (commonPrefix items).toList) ∧
      commonPrefix [] = "" ∧
      (∀ others : List String, (∀ item, item ∈ others ↔ item ∈ items) →
        commonPrefix others = commonPrefix items) ∧
      ∀ first ∈ items.head?, ∀ text,
        (Relation.ReflTransGen (Drops items) first.toList text ∧ ∀ next, ¬Drops items text next) ↔
          text = (commonPrefix items).toList := by
  refine ⟨fun item => isPrefix_of_mem, fun hsome text hall => ?_, rfl,
    fun others => commonPrefix_congr, fun first hfirst text => ?_⟩
  · exact (isPrefix_commonPrefix_of_ne_nil hsome).mpr hall
  · obtain ⟨rest, rfl⟩ := List.head?_eq_some_iff.mp hfirst
    exact drops_end_iff

/-- An accent of its own is a character, so a letter can be shared without it. -/
example : commonPrefix ["🦀e\u0301", "🦀e", "🦀e\u0301s"] = "🦀e" := by decide

end SeedShell.Proofs
