import Mathlib.Order.Bounds.Defs
import Mathlib.Order.Monotone.Defs
import SeedShell.Proofs.PromptNotices

/-!
# Cursors in two units

A character index is at or after an offset in code units exactly if it takes up that many, so the
conversion of an offset gives the least such index. It undoes the conversion of an index, and the
cursor that a terminal gives back stands for the very index that completion has computed.
-/

namespace SeedShell.Proofs

open Text.Units

/-! ### Code units of a text -/

/-- The code units of a text. -/
def unitsOf (cs : List Char) : Nat := cs.foldr (fun c units => width c + units) 0

section Units

variable {c : Char} {cs : List Char} {s : String} {units k : Nat}

lemma unitsOf_cons (c : Char) (cs : List Char) : unitsOf (c :: cs) = width c + unitsOf cs := rfl

lemma ofChars_eq (s : String) (k : Nat) : ofChars s k = unitsOf (s.toList.take k) := rfl

lemma width_pos (c : Char) : 0 < width c := by
  unfold width
  split
  · exact Nat.one_pos
  · exact Nat.two_pos

lemma unitsOf_le_append (as bs : List Char) : unitsOf as ≤ unitsOf (as ++ bs) := by
  induction as with
  | nil => exact Nat.zero_le _
  | cons a as ih => exact Nat.add_le_add_left ih _

/-- At most `k` characters start before an offset if the first `k` take up that many units or there
are no more than `k`. -/
lemma charsBefore_le_iff :
    charsBefore units cs ≤ k ↔ units ≤ unitsOf (cs.take k) ∨ cs.length ≤ k := by
  induction cs generalizing units k with
  | nil => simp [charsBefore]
  | cons c cs ih =>
    cases units with
    | zero => simp [charsBefore]
    | succ units =>
      rw [charsBefore]
      cases k with
      | zero => simp [unitsOf]
      | succ k =>
        rw [Nat.succ_le_succ_iff, ih, List.take_succ_cons, unitsOf_cons, List.length_cons,
          Nat.sub_le_iff_le_add', Nat.succ_le_succ_iff]

/-- A character is passed as a whole, whether it has one unit or two. -/
lemma charsBefore_unitsOf_take (cs : List Char) (k : Nat) :
    charsBefore (unitsOf (cs.take k)) cs = min k cs.length := by
  induction cs generalizing k with
  | nil => simp [charsBefore]
  | cons c cs ih =>
    cases k with
    | zero => simp [charsBefore, unitsOf]
    | succ k =>
      have hpos : width c + unitsOf (cs.take k) ≠ 0 :=
        Nat.ne_of_gt (Nat.add_pos_left (width_pos c) _)
      obtain ⟨units, hunits⟩ : ∃ units, width c + unitsOf (cs.take k) = units + 1 :=
        Nat.exists_eq_succ_of_ne_zero hpos
      rw [List.take_succ_cons, unitsOf_cons, hunits, charsBefore, ← hunits, Nat.add_sub_cancel_left,
        ih, List.length_cons, Nat.succ_min_succ]

end Units

/-! ### Converting offsets -/

section Offsets

variable {s : String} {units k : Nat}

lemma toChars_le_iff : toChars s units ≤ k ↔ units ≤ ofChars s k ∨ s.length ≤ k := by
  rw [toChars, charsBefore_le_iff, ofChars_eq, String.length_toList]

lemma toChars_le_length : toChars s units ≤ s.length :=
  toChars_le_iff.mpr (.inr (Nat.le_refl _))

lemma toChars_ofChars (s : String) (k : Nat) : toChars s (ofChars s k) = min k s.length := by
  rw [toChars, ofChars_eq, charsBefore_unitsOf_take, String.length_toList]

lemma monotone_ofChars (s : String) : Monotone (ofChars s) := by
  intro k l hle
  obtain ⟨more, hmore⟩ : s.toList.take k <+: s.toList.take l := List.take_prefix_take_left hle
  rw [ofChars_eq, ofChars_eq, ← hmore]
  exact unitsOf_le_append _ _

lemma monotone_toChars (s : String) : Monotone (toChars s) := by
  intro units more hle
  rw [toChars_le_iff]
  exact (toChars_le_iff.mp (Nat.le_refl (toChars s more))).imp_left hle.trans

lemma ofChars_le_length (s : String) (k : Nat) : ofChars s k ≤ ofChars s s.length := by
  rcases Nat.le_total k s.length with hle | hge
  · exact monotone_ofChars s hle
  · rw [ofChars_eq, ofChars_eq, ← String.length_toList, List.take_length,
      List.take_of_length_le (by rwa [String.length_toList])]

lemma isLeast_toChars (hreached : ∃ k, units ≤ ofChars s k) :
    IsLeast {k | units ≤ ofChars s k} (toChars s units) := by
  obtain ⟨k, hk⟩ := hreached
  refine ⟨?_, fun l hl => toChars_le_iff.mpr (.inl hl)⟩
  rcases toChars_le_iff.mp (Nat.le_refl (toChars s units)) with hle | hend
  · exact hle
  · exact (hk.trans (ofChars_le_length s k)).trans (monotone_ofChars s hend)

lemma toChars_of_past (hpast : ∀ k, ofChars s k < units) : toChars s units = s.length := by
  refine Nat.le_antisymm toChars_le_length ?_
  rcases toChars_le_iff.mp (Nat.le_refl (toChars s units)) with hle | hend
  · exact absurd hle (Nat.not_le_of_lt (hpast _))
  · exact hend

end Offsets

/-- How the offsets of a text in code units and in characters belong together. An offset within a
character stands for the index behind it, and one past the end for the end. -/
structure ConvertsOffsets (s : String) : Prop where
  isLeast : ∀ units, (∃ k, units ≤ ofChars s k) →
    IsLeast {k | units ≤ ofChars s k} (toChars s units)
  eq_length : ∀ units, (∀ k, ofChars s k < units) → toChars s units = s.length
  toChars_ofChars : ∀ k, toChars s (ofChars s k) = min k s.length
  monotone_toChars : Monotone (toChars s)
  monotone_ofChars : Monotone (ofChars s)

lemma convertsOffsets (s : String) : ConvertsOffsets s :=
  ⟨fun _ => isLeast_toChars, fun _ => toChars_of_past, toChars_ofChars s, monotone_toChars s,
    monotone_ofChars s⟩

/-- The second of the offsets is within a character of two units, and the last one past the end. -/
example : [5, 6, 7, 100].map (toChars "cat é🦀/x") = [5, 6, 6, 8] := by decide

/-! ### Cursors of a terminal -/

/-- Completion leaves the cursor within the new line. -/
lemma position_le_length {σ : Type} {r : Registry σ} {session : Session σ} {buffer edited : String}
    {cursor position : Nat} {press : Press}
    (h : Completion.complete r session buffer cursor press = .edit edited position) :
    position ≤ edited.length := by
  unfold Completion.complete at h
  dsimp only at h
  split at h
  · cases h
  split at h
  · cases h
  split at h
  · cases h
  · obtain ⟨rfl, rfl⟩ := Completion.edit.inj h
    rw [String.length_ofList]
    exact (List.prefix_append _ _).length_le

lemma inUnits_eq_edit_iff {completion : Completion} {edited : String} {offset : Nat} :
    completion.inUnits = .edit edited offset ↔
      ∃ position, completion = .edit edited position ∧ offset = ofChars edited position := by
  cases completion with
  | edit buffer position =>
    simp only [Completion.inUnits, Completion.edit.injEq]
    constructor
    · rintro ⟨rfl, rfl⟩
      exact ⟨position, ⟨rfl, rfl⟩, rfl⟩
    · rintro ⟨-, ⟨rfl, rfl⟩, rfl⟩
      exact ⟨rfl, rfl⟩
  | listing names => simp [Completion.inUnits]
  | unchanged => simp [Completion.inUnits]

/-- The cursor of an edited line stands for a position that completion has computed in characters:
any terminal that is given it with that line completes at that position. -/
structure StandsFor (edited : String) (offset position : Nat) : Prop where
  le_length : position ≤ edited.length
  offset_eq : offset = ofChars edited position
  toChars_eq : toChars edited offset = position
  complete_eq : ∀ (t : Terminal) (now : Nat), (t.complete edited offset now).1 =
    (t.shell.complete edited position now).1.inUnits

lemma standsFor_of_le_length {edited : String} {position : Nat} (h : position ≤ edited.length) :
    StandsFor edited (ofChars edited position) position := by
  have hback : toChars edited (ofChars edited position) = position := by
    rw [toChars_ofChars, Nat.min_eq_left h]
  refine ⟨h, rfl, hback, fun t now => ?_⟩
  rw [Terminal.complete, hback]

/-- The conversions of offsets are exact for every text, and every cursor that a terminal gives back
stands for the position that completion has computed. -/
theorem cursor_conversion_is_exact :
    (∀ s, ConvertsOffsets s) ∧
    ∀ (t : Terminal) (buffer : String) (cursor now : Nat) (edited : String) (offset : Nat),
      (t.complete buffer cursor now).1 = .edit edited offset →
      ∃ position, (t.shell.complete buffer (toChars buffer cursor) now).1 = .edit edited position ∧
        StandsFor edited offset position := by
  refine ⟨convertsOffsets, fun t buffer cursor now edited offset hedit => ?_⟩
  obtain ⟨position, hcomplete, rfl⟩ := inUnits_eq_edit_iff.mp hedit
  exact ⟨position, hcomplete, standsFor_of_le_length (position_le_length hcomplete)⟩

/-- A path is completed between two characters of two units each. -/
theorem cursor_conversion_is_exact_crabs : ∃ t, Terminal.onPage {} id = .ok t ∧
    (t.complete "ls 🦀 /et🦀" 9 0).1 = .edit "ls 🦀 /etc/🦀" 11 ∧
    toChars "ls 🦀 /et🦀" 9 = 8 ∧
    (t.shell.complete "ls 🦀 /et🦀" 8 0).1 = .edit "ls 🦀 /etc/🦀" 10 ∧
    StandsFor "ls 🦀 /etc/🦀" 11 10 := by
  have hedits : (Terminal.onPage {} id).map (fun t => (t.complete "ls 🦀 /et🦀" 9 0).1) =
      .ok (.edit "ls 🦀 /etc/🦀" 11) := by decide +kernel
  obtain ⟨t, hterminal, hedit⟩ := of_map_eq_ok hedits
  obtain ⟨position, hcomplete, hstands⟩ := cursor_conversion_is_exact.2 t _ _ _ _ _ hedit
  have hchars : toChars "ls 🦀 /et🦀" 9 = 8 := by decide
  obtain rfl : 10 = position := by
    rw [← hstands.toChars_eq]
    decide
  rw [hchars] at hcomplete
  exact ⟨t, hterminal, hedit, hchars, hcomplete, hstands⟩

end SeedShell.Proofs
