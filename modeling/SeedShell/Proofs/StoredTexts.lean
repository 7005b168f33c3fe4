import Mathlib.Tactic.Lemma
import SeedShell.Store.Basic

/-!
# Stored lists of texts

What is written for a list of texts is read back as that list. A string is read element by
element: a character that is written with its number comes back as that number, and all others as
themselves.
-/

namespace SeedShell.Proofs
open Json

/-- The element that the written form of a character is read as. -/
def elementOf (c : Char) : Element :=
  if c.toNat < 0x20 ∧ c ∉ ['\n', '\r', '\t', '\x08', '\x0C'] then .unit c.toNat else .char c

/-- The characters of a text between quotes. -/
def quoted (s : String) : List Char := '"' :: (s.toList.flatMap escapeChar ++ ['"'])

/-- The characters of texts with commas between them. -/
def itemsOf : List String → List Char
  | [] => []
  | [x] => quoted x
  | x :: y :: xs => quoted x ++ ',' :: itemsOf (y :: xs)

/-! ### Strings -/

lemma hexValue?_hexDigit : ∀ n < 0x20,
    Text.hexValue? ['0', '0', hexDigit (n / 16), hexDigit (n % 16)] = some n := by
  decide

lemma readElements_escapeChar (c : Char) {rest tail : List Char} {es : List Element}
    (h : readElements rest = some (es, tail)) :
    readElements (escapeChar c ++ rest) = some (elementOf c :: es, tail) := by
  by_cases hquote : c = '"'
  · subst hquote
    simp [escapeChar, readElements, shortEscape?, h, elementOf]
  by_cases hslash : c = '\\'
  · subst hslash
    simp [escapeChar, readElements, shortEscape?, h, elementOf]
  by_cases hshort : c ∈ ['\n', '\r', '\t', '\x08', '\x0C']
  · simp only [List.mem_cons, List.not_mem_nil, or_false] at hshort
    rcases hshort with rfl | rfl | rfl | rfl | rfl <;>
      simp [escapeChar, readElements, shortEscape?, h, elementOf]
  have hplain := hshort
  simp only [List.mem_cons, List.not_mem_nil, or_false, not_or] at hplain
  obtain ⟨hn, hr, ht, hb, hf⟩ := hplain
  by_cases hcontrol : c.toNat < 0x20
  · have hhex := hexValue?_hexDigit c.toNat hcontrol
    simp [escapeChar, hquote, hslash, hn, hr, ht, hb, hf, hcontrol, readElements, hhex, h,
      elementOf]
  · simp [escapeChar, hquote, hslash, hn, hr, ht, hb, hf, hcontrol, readElements, h, elementOf]

lemma readElements_flatMap (cs rest : List Char) :
    readElements (cs.flatMap escapeChar ++ '"' :: rest) = some (cs.map elementOf, rest) := by
  induction cs with
  | nil => simp [readElements]
  | cons c cs ih =>
    rw [List.flatMap_cons, List.append_assoc, List.map_cons]
    exact readElements_escapeChar c ih

/-- A code unit that is no half of a pair stands for itself, whatever follows. -/
lemma joinElements_unit {n : Nat} (h : n < 0x20) (es : List Element) :
    joinElements (.unit n :: es) = (joinElements es).map (Char.ofNat n :: ·) := by
  have hhigh : isHighSurrogate n = false := by
    simp only [isHighSurrogate, Bool.and_eq_false_iff, decide_eq_false_iff_not]
    omega
  have hlow : isLowSurrogate n = false := by
    simp only [isLowSurrogate, Bool.and_eq_false_iff, decide_eq_false_iff_not]
    omega
  cases es with
  | nil => simp [joinElements, hhigh, hlow]
  | cons e es =>
    cases e <;> simp [joinElements, hhigh, hlow, Function.comp_def]

lemma joinElements_map (cs : List Char) : joinElements (cs.map elementOf) = some cs := by
  induction cs with
  | nil => rfl
  | cons c cs ih =>
    rw [List.map_cons, elementOf]
    split
    · next h => rw [joinElements_unit h.1, ih, Option.map_some, Char.ofNat_toNat]
    · rw [joinElements, ih, Option.map_some]

lemma readString_flatMap (s : String) (rest : List Char) :
    readString (s.toList.flatMap escapeChar ++ '"' :: rest) = some (some s, rest) := by
  rw [readString, readElements_flatMap]
  simp [joinElements_map]

/-! ### Lists -/

lemma skip_cons {c : Char} (h : isSpace c = false) (cs : List Char) : skip (c :: cs) = c :: cs :=
  List.dropWhile_cons_of_neg (by simp [h])

lemma readValue_quoted (fuel : Nat) (s : String) (rest : List Char) :
    readValue (fuel + 1) (quoted s ++ rest) = some (.string (some s), rest) := by
  have hquoted : quoted s ++ rest = '"' :: (s.toList.flatMap escapeChar ++ '"' :: rest) := by
    simp [quoted]
  rw [readValue, hquoted, skip_cons (by decide)]
  simp only [readString_flatMap, Option.map_some]

lemma readItems_itemsOf (xs : List String) (hne : xs ≠ []) (fuel : Nat)
    (hfuel : xs.length < fuel) (rest : List Char) :
    readItems fuel (itemsOf xs ++ ']' :: rest) =
      some (xs.map fun x => .string (some x), rest) := by
  induction xs generalizing fuel with
  | nil => exact absurd rfl hne
  | cons x xs ih =>
    obtain ⟨fuel, rfl⟩ : ∃ n, fuel = n + 2 := ⟨fuel - 2, by simp at hfuel; omega⟩
    cases xs with
    | nil =>
      rw [readItems, itemsOf, readValue_quoted]
      simp [skip_cons (c := ']') (by decide)]
    | cons y ys =>
      have htail := ih (by simp) (fuel + 1) (by simp at hfuel ⊢; omega)
      rw [readItems, itemsOf, List.append_assoc, List.cons_append, readValue_quoted]
      simp [skip_cons (c := ',') (by decide), htail]

lemma toList_quote (s : String) : (quote s).toList = quoted s := by
  simp [quote, quoted]

lemma toList_join_quote (xs : List String) :
    (Text.join "," (xs.map quote)).toList = itemsOf xs := by
  unfold Text.join
  rw [String.toList_intercalate]
  induction xs with
  | nil => rfl
  | cons x xs ih =>
    cases xs with
    | nil => simp [itemsOf, toList_quote]
    | cons y ys =>
      simp only [List.map_cons] at ih ⊢
      rw [List.intercalate_cons_cons, ih, itemsOf, toList_quote]
      simp

lemma length_le_length_itemsOf (xs : List String) : xs.length ≤ (itemsOf xs).length := by
  induction xs with
  | nil => simp [itemsOf]
  | cons x xs ih =>
    cases xs with
    | nil => simp [itemsOf, quoted]
    | cons y ys =>
      simp only [itemsOf, List.length_append, List.length_cons, quoted] at ih ⊢
      omega

lemma itemsOf_cons_append (x : String) (xs : List String) (rest : List Char) :
    ∃ tail, itemsOf (x :: xs) ++ rest = '"' :: tail := by
  cases xs <;> exact ⟨_, rfl⟩

lemma readValue_itemsOf (xs : List String) (fuel : Nat) (hfuel : xs.length < fuel)
    (rest : List Char) : readValue (fuel + 1) ('[' :: (itemsOf xs ++ ']' :: rest)) =
      some (.array (xs.map fun x => .string (some x)), rest) := by
  rw [readValue, skip_cons (by decide)]
  cases xs with
  | nil => simp [itemsOf, skip_cons (c := ']') (by decide)]
  | cons x xs =>
    obtain ⟨tail, htail⟩ := itemsOf_cons_append x xs (']' :: rest)
    have hitems := readItems_itemsOf (x :: xs) (by simp) fuel hfuel rest
    rw [htail] at hitems
    simp only [htail, skip_cons (c := '"') (by decide)]
    change Option.map _ (readItems fuel ('"' :: tail)) = _
    rw [hitems, Option.map_some]

lemma parse?_ofStrings (xs : List String) :
    Json.parse? (Json.ofStrings xs) = some (.array (xs.map fun x => .string (some x))) := by
  have htext : (Json.ofStrings xs).toList = '[' :: (itemsOf xs ++ [']']) := by
    simp [Json.ofStrings, toList_join_quote]
  have hlength := length_le_length_itemsOf xs
  have hread := readValue_itemsOf xs (2 * (Json.ofStrings xs).toList.length)
    (by simp [htext]; omega) []
  have hskip : skip [] = [] := rfl
  rw [← htext] at hread
  unfold Json.parse?
  simp only [hread, Option.bind_eq_bind, Option.bind_some, hskip, if_true]

/-- A stored list of texts is read as it was written. -/
theorem decodeTexts?_ofStrings (xs : List String) :
    KeyValueStore.decodeTexts? (Json.ofStrings xs) = some xs := by
  unfold KeyValueStore.decodeTexts?
  rw [parse?_ofStrings]
  have hstring : (string? ∘ fun x : String => Json.string (some x)) = fun x => pure (id x) := rfl
  simp only [strings?, array?, Option.bind_eq_bind, Option.bind_some, List.mapM_map, hstring,
    List.mapM_pure, List.map_id]
  rfl

end SeedShell.Proofs
