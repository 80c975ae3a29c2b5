import Mathlib
import OperatorGrammar.Proofs.Text.Positions

/-!
# Slices of a text

Where a text can be cut, by byte offsets: between two characters only. What stands between two
positions of a text is a slice of it.
-/

namespace OperatorGrammar

theorem utf8ByteSize_ofList (text : List Char) : (String.ofList text).utf8ByteSize = width text := by
  rw [String.utf8ByteSize_ofList]
  induction text with
  | nil => rfl
  | cons c text ih => rw [String.utf8Len_cons, ih, width_cons, Nat.add_comm]

/-- An offset between two characters of a text, or at one of its ends. -/
def Boundary (text : List Char) (offset : Nat) : Prop :=
  ∃ before after, text = before ++ after ∧ offset = width before

/-- The bytes of a text between two offsets are the characters `slice`. -/
def IsSlice (text : List Char) (first last : Nat) (slice : List Char) : Prop :=
  ∃ before after, text = before ++ slice ++ after ∧
    first = width before ∧ last = first + width slice

variable {text slice : List Char} {first last offset : Nat}

theorem Boundary.le_width (h : Boundary text offset) : offset ≤ width text := by
  obtain ⟨before, after, rfl, rfl⟩ := h
  rw [width_append]
  exact Nat.le_add_right _ _

theorem Boundary.isSlice_to_end (h : Boundary text offset) :
    ∃ slice, IsSlice text offset (width text) slice := by
  obtain ⟨before, after, rfl, rfl⟩ := h
  exact ⟨after, before, [], (List.append_nil _).symm, rfl, width_append before after⟩

theorem IsSlice.boundary_first (h : IsSlice text first last slice) : Boundary text first := by
  obtain ⟨before, after, rfl, rfl, -⟩ := h
  exact ⟨before, slice ++ after, List.append_assoc _ _ _, rfl⟩

namespace Cursor

theorem boundary (cur : Cursor) : Boundary cur.text cur.offset :=
  ⟨cur.before.reverse, cur.after, rfl, by rw [width_reverse, cur.offset_eq]⟩

theorem isSlice_upTo {cur later : Cursor} (h : later ∈ cur.positions) :
    IsSlice cur.text cur.offset later.offset (cur.upTo later) := by
  refine ⟨cur.before.reverse, later.after, ?_, ?_, offset_eq_add_width_upTo h⟩
  · rw [List.append_assoc, ← after_eq_upTo_append h, text]
  · rw [width_reverse, cur.offset_eq]

end Cursor

end OperatorGrammar
