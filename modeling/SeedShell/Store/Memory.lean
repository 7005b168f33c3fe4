import SeedShell.Store.Basic

/-!
# A store in memory

A table of texts in the order of their keys, each key once. No write is refused. As a text the
table is an object in JSON. A look-up finds what was put last (`get?_insert`) and nothing under an
erased key (`get?_erase`).
-/

namespace SeedShell

namespace Memory

/-- The rows of a table ascend by their keys. -/
def Ascends (rows : List (String × String)) : Prop := rows.Pairwise (·.1 < ·.1)

/-- Puts a row in its place, over one with the same key. -/
def insertRow (key value : String) : List (String × String) → List (String × String)
  | [] => [(key, value)]
  | row :: rows =>
    if key < row.1 then (key, value) :: row :: rows
    else if key = row.1 then (key, value) :: rows
    else row :: insertRow key value rows

theorem mem_insertRow {key value : String} {rows : List (String × String)}
    {row : String × String} (h : row ∈ insertRow key value rows) :
    row.1 = key ∨ row ∈ rows := by
  induction rows with
  | nil => simp_all [insertRow]
  | cons head rows ih =>
    simp only [insertRow] at h
    split at h
    · simp_all only [List.mem_cons]
      rcases h with rfl | h
      · exact .inl rfl
      · exact .inr h
    · split at h
      · rcases List.mem_cons.1 h with rfl | h
        · exact .inl rfl
        · exact .inr (List.mem_cons_of_mem _ h)
      · rcases List.mem_cons.1 h with rfl | h
        · exact .inr List.mem_cons_self
        · exact (ih h).imp_right (List.mem_cons_of_mem _)

theorem ascends_insertRow {key value : String} {rows : List (String × String)}
    (h : Ascends rows) : Ascends (insertRow key value rows) := by
  induction rows with
  | nil => simp [insertRow, Ascends]
  | cons head rows ih =>
    have hhead : ∀ row ∈ rows, head.1 < row.1 := fun _ hrow =>
      List.rel_of_pairwise_cons h hrow
    have hrows : Ascends rows := List.Pairwise.of_cons h
    simp only [insertRow]
    split
    · next hlt =>
      refine List.pairwise_cons.2 ⟨fun row hrow => ?_, h⟩
      rcases List.mem_cons.1 hrow with rfl | hrow
      · exact hlt
      · exact String.lt_trans hlt (hhead _ hrow)
    · split
      · next heq => exact List.pairwise_cons.2 ⟨fun row hrow => heq ▸ hhead _ hrow, hrows⟩
      · next hlt hne =>
        refine List.pairwise_cons.2 ⟨fun row hrow => ?_, ih hrows⟩
        rcases mem_insertRow hrow with heq | hrow
        · rcases Std.lt_trichotomy row.1 head.1 with hr | hr | hr
          · exact absurd (heq ▸ hr) hlt
          · exact absurd (heq ▸ hr) hne
          · exact hr
        · exact hhead _ hrow

/-- A row in front answers for its own key only. -/
theorem lookup_row (first old other : String) (rows : List (String × String)) :
    ((first, old) :: rows).lookup other =
      if other = first then some old else rows.lookup other := by
  by_cases h : other = first
  · simp [h]
  · have hb : (other == first) = false := beq_eq_false_iff_ne.2 h
    simp [List.lookup_cons, hb, h]

theorem lookup_insertRow (key value other : String) (rows : List (String × String)) :
    (insertRow key value rows).lookup other =
      if other = key then some value else rows.lookup other := by
  induction rows with
  | nil => exact lookup_row key value other []
  | cons head rows ih =>
    obtain ⟨first, old⟩ := head
    simp only [insertRow]
    split
    · simp only [lookup_row]
    · split
      · next heq => subst heq; by_cases h : other = key <;> simp [lookup_row, h]
      · next hne => by_cases h : other = first <;> simp_all [lookup_row, Ne.symm]

theorem lookup_filter_ne (key other : String) (rows : List (String × String)) :
    (rows.filter (·.1 ≠ key)).lookup other =
      if other = key then none else rows.lookup other := by
  induction rows with
  | nil => simp
  | cons head rows ih =>
    obtain ⟨first, old⟩ := head
    by_cases hk : first = key
    · rw [List.filter_cons_of_neg (by simp [hk]), ih, lookup_row, hk]
      by_cases h : other = key <;> simp [h]
    · rw [List.filter_cons_of_pos (by simp [hk]), lookup_row, lookup_row, ih]
      by_cases h : other = first
      · simp [h, hk]
      · simp [h]

end Memory

/-- A table of texts. -/
structure Memory where
  rows : List (String × String)
  ascends : Memory.Ascends rows
  deriving DecidableEq

namespace Memory

def empty : Memory := ⟨[], List.Pairwise.nil⟩

def get? (m : Memory) (key : String) : Option String := m.rows.lookup key

def insert (m : Memory) (key value : String) : Memory :=
  ⟨insertRow key value m.rows, ascends_insertRow m.ascends⟩

def erase (m : Memory) (key : String) : Memory :=
  ⟨m.rows.filter (·.1 ≠ key), List.Pairwise.filter _ m.ascends⟩

theorem get?_empty (other : String) : empty.get? other = none := rfl

/-- A table holds what was put last under a key, and keeps the rest. -/
theorem get?_insert (m : Memory) (key value other : String) :
    (m.insert key value).get? other = if other = key then some value else m.get? other :=
  lookup_insertRow key value other m.rows

/-- An erased key is gone, and the rest is kept. -/
theorem get?_erase (m : Memory) (key other : String) :
    (m.erase key).get? other = if other = key then none else m.get? other :=
  lookup_filter_ne key other m.rows

/-- The table with the given rows, the last one of each key. -/
def ofRows (rows : List (String × String)) : Memory :=
  rows.foldl (fun m row => m.insert row.1 row.2) empty

/-- The table as a text. -/
def toText (m : Memory) : String := Json.ofMembers m.rows

/-- The table that a text describes. -/
def ofText? (text : String) : Option Memory := do
  match ← Json.parse? text with
  | .object members =>
    let rows ← members.mapM fun (key, value) => do return (← key, ← value.string?)
    return ofRows rows
  | _ => none

instance : KeyValueStore Memory where
  get? := get?
  insert m key value := (.ok (), m.insert key value)
  erase m key := (.ok (), m.erase key)

end Memory

/-- A table that can be read only: every write is refused. -/
structure ReadOnly where
  table : Memory

instance : KeyValueStore ReadOnly where
  get? store := store.table.get?
  insert store _ _ := (.error .readOnly, store)
  erase store _ := (.error .readOnly, store)

end SeedShell
