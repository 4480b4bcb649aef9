import FrameTap.Bytes

set_option autoImplicit false

namespace FrameTap.Bytes

theorem getElem?_slice (bytes : Bytes) (offset length index : Nat) :
    (bytes.slice offset length)[index]? =
      if index < length then bytes[offset + index]? else none := by
  simp [slice, List.getElem?_take, List.getElem?_drop]

theorem getElem?_overwrite {bytes new : Bytes} {offset : Nat}
    (inside : offset + new.length ≤ bytes.length) (index : Nat) :
    (bytes.overwrite offset new)[index]? =
      if offset ≤ index ∧ index < offset + new.length then
        new[index - offset]?
      else
        bytes[index]? := by
  have whole : new.take (bytes.length - offset) = new := List.take_of_length_le (by omega)
  have front : (bytes.take offset).length = offset := by
    rw [List.length_take]
    omega
  rw [overwrite, whole, List.append_assoc, List.getElem?_append, List.getElem?_append, front]
  -- The position lies before the bytes written, among them or after them.
  by_cases before : index < offset
  · rw [if_pos before, if_neg (by omega), List.getElem?_take, if_pos before]
  by_cases within : index < offset + new.length
  · rw [if_neg before, if_pos (by omega), if_pos (by omega)]
  · rw [if_neg before, if_neg (by omega), if_neg (by omega), List.getElem?_drop]
    congr 1
    omega

theorem slice_overwrite_apart {bytes new : Bytes} {offset start length : Nat}
    (inside : offset + new.length ≤ bytes.length)
    (apart : start + length ≤ offset ∨ offset + new.length ≤ start) :
    (bytes.overwrite offset new).slice start length = bytes.slice start length := by
  apply List.ext_getElem?
  intro index
  rw [getElem?_slice, getElem?_slice, getElem?_overwrite inside]
  by_cases within : index < length
  · rw [if_pos within, if_pos within, if_neg (by omega)]
  · rw [if_neg within, if_neg within]

theorem slice_overwrite_within {bytes new : Bytes} {start length offset : Nat}
    (inside : start + length ≤ bytes.length) (within : offset + new.length ≤ length) :
    (bytes.overwrite (start + offset) new).slice start length =
      (bytes.slice start length).overwrite offset new := by
  have room : offset + new.length ≤ (bytes.slice start length).length := by
    rw [length_slice inside]
    exact within
  apply List.ext_getElem?
  intro index
  rw [getElem?_slice, getElem?_overwrite (by omega), getElem?_overwrite room, getElem?_slice]
  by_cases written : offset ≤ index ∧ index < offset + new.length
  · rw [if_pos (by omega), if_pos (by omega), if_pos written]
    congr 1
    omega
  · rw [if_neg (by omega : ¬(start + offset ≤ start + index ∧ _)), if_neg written]

theorem slice_take {bytes : Bytes} {front offset length : Nat} (inside : offset + length ≤ front) :
    slice (bytes.take front) offset length = bytes.slice offset length := by
  rw [slice, slice, List.drop_take, List.take_take, Nat.min_eq_left (by omega)]

theorem slice_append_after (front rest : Bytes) (offset length : Nat) :
    (front ++ rest).slice (front.length + offset) length = rest.slice offset length := by
  rw [slice, List.drop_length_add_append, slice]

-- Writing a whole byte string over another of its length leaves nothing of the other.
theorem overwrite_whole {bytes new : Bytes} (same : new.length = bytes.length) :
    bytes.overwrite 0 new = new := by
  simp [overwrite, same, List.take_of_length_le]

end FrameTap.Bytes
