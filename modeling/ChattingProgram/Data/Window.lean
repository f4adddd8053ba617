import Mathlib.Data.List.Basic

namespace ChattingProgram.Data

/-! # Windows of a flat buffer

`window` reads a range of a buffer, `overwrite` stores a block into it.  Both
are used below the end of the buffer only.
-/

variable {α : Type}

def window (buffer : List α) (offset count : Nat) : List α :=
  (buffer.drop offset).take count

def overwrite (buffer : List α) (offset : Nat) (block : List α) : List α :=
  buffer.take offset ++ block ++ buffer.drop (offset + block.length)

theorem length_window (within : offset + count ≤ buffer.length) :
    (window (α := α) buffer offset count).length = count := by
  rw [window, List.length_take, List.length_drop]
  omega

@[simp] theorem window_zero (buffer : List α) (offset : Nat) : window buffer offset 0 = [] := by
  simp [window]

theorem window_add (buffer : List α) (offset first second : Nat) :
    window buffer offset (first + second) =
      window buffer offset first ++ window buffer (offset + first) second := by
  rw [window, window, window, List.take_add, List.drop_drop]

theorem drop_window (buffer : List α) (offset count skipped : Nat) :
    (window buffer offset count).drop skipped =
      window buffer (offset + skipped) (count - skipped) := by
  rw [window, window, List.drop_take, List.drop_drop]

theorem getElem?_window (buffer : List α) (offset count index : Nat) :
    (window buffer offset count)[index]? = if index <
      count then buffer[offset + index]? else none := by
  rw [window, List.getElem?_take, List.getElem?_drop]

@[simp] theorem length_overwrite (within : offset + block.length ≤ buffer.length) :
    (overwrite (α := α) buffer offset block).length = buffer.length := by
  simp only [overwrite, List.length_append, List.length_take, List.length_drop]
  omega

theorem getElem?_overwrite (within : offset + block.length ≤ buffer.length) (index : Nat) :
    (overwrite (α := α) buffer offset block)[index]? =
      if offset ≤ index ∧ index < offset + block.length then block[index - offset]?
      else buffer[index]? := by
  have front : (buffer.take offset).length = offset := by rw [List.length_take]; omega
  rw [overwrite, List.append_assoc]
  by_cases before : index < offset
  · rw [List.getElem?_append_left (by omega), List.getElem?_take_of_lt before, if_neg (by omega)]
  · rw [List.getElem?_append_right (by omega), front]
    by_cases inside : index < offset + block.length
    · rw [List.getElem?_append_left (by omega), if_pos (by omega)]
    · rw [List.getElem?_append_right (by omega), List.getElem?_drop, if_neg (by omega)]
      congr 1
      omega

/-- A stored block is read back unaltered. -/
theorem window_overwrite_self (within : offset + block.length ≤ buffer.length) :
    window (overwrite (α := α) buffer offset block) offset block.length = block := by
  apply List.ext_getElem?
  intro index
  rw [getElem?_window]
  by_cases bound : index < block.length
  · rw [if_pos bound, getElem?_overwrite within, if_pos (by omega)]
    congr 1
    omega
  · rw [if_neg bound, List.getElem?_eq_none (by omega)]

/-- A store leaves every disjoint window alone. -/
theorem window_overwrite_disjoint (within : offset + block.length ≤ buffer.length)
    (apart : other + count ≤ offset ∨ offset + block.length ≤ other) :
    window (overwrite (α := α) buffer offset block) other count = window buffer other count := by
  apply List.ext_getElem?
  intro index
  rw [getElem?_window, getElem?_window]
  by_cases bound : index < count
  · rw [if_pos bound, if_pos bound, getElem?_overwrite within, if_neg (by omega)]
  · rw [if_neg bound, if_neg bound]

/-- A block stored right behind a window prolongs it. -/
theorem window_overwrite_extend (within : offset + count + block.length ≤ buffer.length) :
    window (overwrite (α := α) buffer (offset + count) block) offset (count + block.length) =
      window buffer offset count ++ block := by
  rw [window_add, window_overwrite_disjoint within (.inl (Nat.le_refl _)),
    window_overwrite_self within]

end ChattingProgram.Data
