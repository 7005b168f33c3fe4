import Mathlib.Data.List.DropRight
import Mathlib.Data.List.Sort
import SeedShell.Proofs.StoredTexts
import SeedShell.Store.Memory

/-!
# Stored tables

What is written for a table is read back as that table, and a table is known by its answers: its
keys ascend, so neither the order of its rows nor a repeated key can tell two tables apart.
-/

namespace SeedShell.Proofs
open Json

/-! ### Members -/

/-- The characters of one row. -/
def rowChars (row : String × String) : List Char :=
  ' ' :: ' ' :: (quoted row.1 ++ ':' :: ' ' :: quoted row.2)

/-- The characters of rows, one a line. -/
def rowsChars : List (String × String) → List Char
  | [] => []
  | [row] => rowChars row
  | row :: next :: rows => rowChars row ++ ',' :: '\n' :: rowsChars (next :: rows)

lemma skip_space {c : Char} (h : isSpace c) (cs : List Char) : skip (c :: cs) = skip cs :=
  List.dropWhile_cons_of_pos h

lemma skip_skip (cs : List Char) : skip (skip cs) = skip cs :=
  List.dropWhile_idempotent _ _

lemma readValue_skip (fuel : Nat) (cs : List Char) :
    readValue fuel (skip cs) = readValue fuel cs := by
  cases fuel with
  | zero => rw [readValue, readValue]
  | succ fuel => rw [readValue, readValue, skip_skip]

lemma readMembers_skip (fuel : Nat) (cs : List Char) :
    readMembers fuel (skip cs) = readMembers fuel cs := by
  cases fuel with
  | zero => rw [readMembers, readMembers]
  | succ fuel => rw [readMembers, readMembers, skip_skip]

lemma skip_rowChars (row : String × String) (rest : List Char) : skip (rowChars row ++ rest) =
    '"' :: (row.1.toList.flatMap escapeChar ++ '"' :: ':' :: ' ' :: (quoted row.2 ++ rest)) := by
  have hspace : isSpace ' ' := by decide
  simp only [rowChars, quoted, List.cons_append, List.append_assoc, List.nil_append,
    skip_space hspace]
  exact skip_cons (by decide) _

lemma readValue_space_quoted (fuel : Nat) (s : String) (rest : List Char) :
    readValue (fuel + 1) (' ' :: (quoted s ++ rest)) = some (.string (some s), rest) := by
  rw [← readValue_skip, skip_space (by decide), readValue_skip, readValue_quoted]

/-- What a member stands for after it is read. -/
def memberOf (row : String × String) : Option String × Json := (some row.1, .string (some row.2))

lemma readMembers_rowsChars (rows : List (String × String)) (hne : rows ≠ []) (fuel : Nat)
    (hfuel : rows.length < fuel) (rest : List Char) :
    readMembers fuel (rowsChars rows ++ '\n' :: '}' :: rest) = some (rows.map memberOf, rest) := by
  induction rows generalizing fuel with
  | nil => exact absurd rfl hne
  | cons row rows ih =>
    obtain ⟨fuel, rfl⟩ : ∃ n, fuel = n + 2 := ⟨fuel - 2, by simp at hfuel; omega⟩
    cases rows with
    | nil =>
      have hend : skip ('\n' :: '}' :: rest) = '}' :: rest := by
        rw [skip_space (by decide), skip_cons (by decide)]
      rw [readMembers, rowsChars, skip_rowChars]
      simp [readString_flatMap, skip_cons (c := ':') (by decide), readValue_space_quoted, hend,
        memberOf]
    | cons next rows =>
      have htail := ih (by simp) (fuel + 1) (by simp at hfuel ⊢; omega)
      -- the next member stands on a line of its own
      rw [← readMembers_skip, ← skip_space (c := '\n') (by decide), readMembers_skip] at htail
      rw [readMembers, rowsChars, List.append_assoc, skip_rowChars]
      simp [readString_flatMap, skip_cons (c := ':') (by decide), readValue_space_quoted,
        skip_cons (c := ',') (by decide), htail, memberOf]

lemma length_le_length_rowsChars (rows : List (String × String)) :
    rows.length ≤ (rowsChars rows).length := by
  induction rows with
  | nil => simp [rowsChars]
  | cons row rows ih =>
    cases rows with
    | nil => simp [rowsChars, rowChars]
    | cons next rows =>
      simp only [rowsChars, List.length_append, List.length_cons] at ih ⊢
      omega

lemma toList_join_rows (rows : List (String × String)) :
    (Text.join ",\n" (rows.map fun (k, v) => "  " ++ quote k ++ ": " ++ quote v)).toList =
      rowsChars rows := by
  unfold Text.join
  rw [String.toList_intercalate, List.map_map]
  induction rows with
  | nil => rfl
  | cons row rows ih =>
    have hrow : ("  " ++ quote row.1 ++ ": " ++ quote row.2).toList = rowChars row := by
      simp [rowChars, toList_quote]
    cases rows with
    | nil => simp only [List.map_cons, List.map_nil, List.intercalate_singleton, rowsChars, ← hrow,
        Function.comp_apply]
    | cons next rows =>
      simp only [List.map_cons] at ih ⊢
      rw [List.intercalate_cons_cons, ih, rowsChars, ← hrow]
      simp

lemma toList_ofMembers {rows : List (String × String)} (hne : rows ≠ []) :
    (ofMembers rows).toList = '{' :: '\n' :: (rowsChars rows ++ ['\n', '}']) := by
  cases rows with
  | nil => exact absurd rfl hne
  | cons row rows =>
    unfold ofMembers
    simp only [String.toList_append, toList_join_rows]
    simp

lemma rowsChars_cons_append (row : String × String) (rows : List (String × String))
    (rest : List Char) : ∃ tail, skip (rowsChars (row :: rows) ++ rest) = '"' :: tail := by
  cases rows with
  | nil => exact ⟨_, skip_rowChars row rest⟩
  | cons next rows =>
    rw [rowsChars, List.append_assoc]
    exact ⟨_, skip_rowChars row _⟩

lemma readValue_rowsChars (rows : List (String × String)) (hne : rows ≠ []) (fuel : Nat)
    (hfuel : rows.length < fuel) (rest : List Char) :
    readValue (fuel + 1) ('{' :: '\n' :: (rowsChars rows ++ '\n' :: '}' :: rest)) =
      some (.object (rows.map memberOf), rest) := by
  have hread := readMembers_rowsChars rows hne fuel hfuel rest
  obtain ⟨row, rows, rfl⟩ := List.exists_cons_of_ne_nil hne
  obtain ⟨tail, htail⟩ := rowsChars_cons_append row rows ('\n' :: '}' :: rest)
  rw [← readMembers_skip, htail] at hread
  rw [readValue, skip_cons (by decide)]
  simp only [skip_space (c := '\n') (by decide), htail]
  change Option.map _ (readMembers fuel ('"' :: tail)) = _
  rw [hread, Option.map_some]

lemma parse?_ofMembers (rows : List (String × String)) :
    Json.parse? (ofMembers rows) = some (.object (rows.map memberOf)) := by
  by_cases hne : rows = []
  · subst hne
    rfl
  have htext := toList_ofMembers hne
  have hlength := length_le_length_rowsChars rows
  have hread := readValue_rowsChars rows hne (2 * (ofMembers rows).toList.length)
    (by simp [htext]; omega) []
  have hskip : skip [] = [] := rfl
  rw [← htext] at hread
  unfold Json.parse?
  simp only [hread, Option.bind_eq_bind, Option.bind_some, hskip, if_true]

/-! ### Rows -/

section Rows

variable {rows : List (String × String)}

open Memory

/-- A row with a greater key than all others comes last. -/
lemma insertRow_of_lt {key value : String} (h : ∀ row ∈ rows, row.1 < key) :
    insertRow key value rows = rows ++ [(key, value)] := by
  induction rows with
  | nil => rfl
  | cons row rows ih =>
    have hlt := h row List.mem_cons_self
    have hrows : ∀ other ∈ rows, other.1 < key := fun other hother =>
      h other (List.mem_cons_of_mem row hother)
    have hne : key ≠ row.1 := by
      rintro rfl
      exact String.lt_irrefl _ hlt
    rw [insertRow, if_neg (String.lt_asymm hlt), if_neg hne, ih hrows, List.cons_append]

lemma rows_foldl_insert (m : Memory) (h : Ascends (m.rows ++ rows)) :
    (rows.foldl (fun m row => m.insert row.1 row.2) m).rows = m.rows ++ rows := by
  induction rows generalizing m with
  | nil => simp
  | cons row rows ih =>
    have hlt : ∀ other ∈ m.rows, other.1 < row.1 := fun other hother =>
      (List.pairwise_append.mp h).2.2 other hother row List.mem_cons_self
    have hinsert : (m.insert row.1 row.2).rows = m.rows ++ [row] := insertRow_of_lt hlt
    rw [List.foldl_cons, ih, hinsert, List.append_assoc, List.singleton_append]
    rwa [hinsert, List.append_assoc, List.singleton_append]

lemma eq_of_rows {m m' : Memory} (h : m.rows = m'.rows) : m = m' := by
  cases m
  cases m'
  cases h
  rfl

lemma ofRows_rows (m : Memory) : ofRows m.rows = m :=
  eq_of_rows (rows_foldl_insert .empty m.ascends)

lemma lookup_eq_some_iff_mem (h : Ascends rows) {key value : String} :
    rows.lookup key = some value ↔ (key, value) ∈ rows := by
  induction rows with
  | nil => simp
  | cons row rows ih =>
    obtain ⟨hlt, hrows⟩ := List.pairwise_cons.mp h
    rw [lookup_row, List.mem_cons, ← ih hrows, Prod.ext_iff]
    by_cases hkey : key = row.1
    · subst hkey
      have hother : rows.lookup row.1 ≠ some value := by
        intro hvalue
        exact String.lt_irrefl _ (hlt (row.1, value) ((ih hrows).mp hvalue))
      simp [hother, eq_comm]
    · simp [hkey]

lemma nodup_of_ascends (h : Ascends rows) : rows.Nodup := by
  refine List.Pairwise.imp (fun hlt heq => ?_) h
  subst heq
  exact String.lt_irrefl _ hlt

/-- A table is known by its answers. -/
lemma eq_of_get? {m m' : Memory} (h : ∀ key, m.get? key = m'.get? key) : m = m' := by
  have hmem : ∀ row, row ∈ m.rows ↔ row ∈ m'.rows := by
    intro row
    rw [← lookup_eq_some_iff_mem m.ascends, ← lookup_eq_some_iff_mem m'.ascends]
    exact iff_of_eq (congrArg (· = some row.2) (h row.1))
  have hperm : m.rows.Perm m'.rows :=
    (List.perm_ext_iff_of_nodup (nodup_of_ascends m.ascends)
      (nodup_of_ascends m'.ascends)).mpr hmem
  apply eq_of_rows
  apply hperm.eq_of_pairwise _ m.ascends m'.ascends
  intro row other _ _ hlt hgt
  exact absurd hgt (String.lt_asymm hlt)

lemma erase_of_get?_eq_none {m : Memory} {key : String} (h : m.get? key = none) :
    m.erase key = m := by
  apply eq_of_get?
  intro other
  rw [get?_erase]
  split
  · next heq => rw [heq, h]
  · rfl

end Rows

/-- A stored table is read as it was written. -/
theorem ofText?_toText (m : Memory) : Memory.ofText? m.toText = some m := by
  have hmembers : (fun row : String × String => (memberOf row).1.bind fun key =>
      (memberOf row).2.string?.bind fun value => pure (key, value)) =
        fun row => (pure (id row) : Option _) := rfl
  unfold Memory.ofText? Memory.toText
  simp only [parse?_ofMembers, Option.bind_eq_bind, Option.bind_some, List.mapM_map,
    Function.comp_def, hmembers, List.mapM_pure, List.map_id]
  exact congrArg some (ofRows_rows m)

end SeedShell.Proofs
