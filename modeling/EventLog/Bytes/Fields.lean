import EventLog.Bytes

/-!
# Fields of byte strings

What stands in a byte string is said field by field: a part and what follows it stand at an offset
if the slice there is the part (`append_prefix_drop_iff`), and a slice is a word or a list of words
if the words are those at its offsets. A changed byte changes the fields that it lies in and no
others (`slice_set_inside`, `slice_set_outside`).
-/

namespace EventLog.Bytes

/-- A part and what follows it stand at an offset if the slice there is the part, and what follows
stands behind it. -/
theorem append_prefix_drop_iff {part : Bytes} {size : Nat} (sized : part.length = size)
    (rest bytes : Bytes) (offset : Nat) :
    part ++ rest <+: bytes.drop offset ↔
      bytes.slice offset size = part ∧ rest <+: bytes.drop (offset + size) := by
  rw [slice, ← List.drop_drop, ← sized]
  constructor
  · rintro ⟨last, joined⟩
    rw [← joined, List.append_assoc, List.take_left, List.drop_left]
    exact ⟨rfl, List.prefix_append rest last⟩
  · rintro ⟨front, last, joined⟩
    refine ⟨last, ?_⟩
    calc part ++ rest ++ last
        = part ++ (rest ++ last) := List.append_assoc ..
      _ = (bytes.drop offset).take part.length ++ (bytes.drop offset).drop part.length := by
          rw [front, joined]
      _ = bytes.drop offset := List.take_append_drop ..

/-- A part is at the front if it stands at offset zero, with nothing that follows. -/
theorem prefix_iff_prefix_drop (part bytes : Bytes) :
    part <+: bytes ↔ part ++ [] <+: bytes.drop 0 := by
  rw [List.append_nil, List.drop_zero]

/-- Bytes that are accepted only if they are as long as a part have it at their front, if that is so
of all bytes that are as long. -/
theorem iff_prefix_of_long {part bytes : Bytes} {accepted : Prop}
    (needs : accepted → part.length ≤ bytes.length)
    (same : part.length ≤ bytes.length → (accepted ↔ part <+: bytes)) :
    accepted ↔ part <+: bytes :=
  ⟨fun holds => (same (needs holds)).mp holds, fun front => (same front.length_le).mpr front⟩

/-- A slice is the four bytes of a word if the word is the one at its offset. -/
theorem slice_eq_ofWord32_iff {bytes : Bytes} {offset : Nat} (room : offset + 4 ≤ bytes.length)
    (word : UInt32) : bytes.slice offset 4 = ofWord32 word ↔ word = bytes.word32 offset := by
  rw [← ofWord32_word32 room]
  constructor
  · intro same
    have back := word32_ofWord32_append word []
    rw [← same, word32_ofWord32_append] at back
    exact back.symm
  · rintro rfl
    rfl

/-- A slice is the four bytes of a number if the word at its offset is the number. -/
theorem slice_eq_ofNat_iff {bytes : Bytes} {offset number : Nat} (room : offset + 4 ≤ bytes.length)
    (small : number < UInt32.size) :
    bytes.slice offset 4 = ofNat 4 number ↔ (bytes.word32 offset).toNat = number := by
  have written : ofNat 4 number = ofWord32 (.ofNat number) := by
    rw [ofWord32, UInt32.toNat_ofNat_of_lt' small]
  rw [written, slice_eq_ofWord32_iff room, ← UInt32.toNat_inj, UInt32.toNat_ofNat_of_lt' small,
    eq_comm]

/-- A slice of one byte is that byte, and the byte is the number that the slice holds. -/
theorem slice_eq_singleton_iff {bytes : Bytes} {offset : Nat} (room : offset < bytes.length)
    (byte : UInt8) :
    bytes.slice offset 1 = [byte] ↔ byte = .ofNat (bytes.slice offset 1).littleEndian := by
  have single : bytes.slice offset 1 = [bytes[offset]] := by
    rw [slice, List.drop_eq_getElem_cons room, List.take_succ_cons, List.take_zero]
  rw [single, littleEndian, littleEndian, Nat.mul_zero, Nat.add_zero, UInt8.ofNat_toNat,
    List.cons.injEq, and_iff_left rfl, eq_comm]

/-- A slice holds the bytes of a number, most significant first, if it is as long and holds the
number. -/
theorem slice_eq_reverse_ofNat_iff {bytes : Bytes} {offset width number : Nat}
    (room : offset + width ≤ bytes.length) (small : number < capacity width) :
    bytes.slice offset width = (ofNat width number).reverse ↔
      (bytes.slice offset width).bigEndian = number := by
  have length : (bytes.slice offset width).reverse.length = width := by
    rw [List.length_reverse, length_slice]
    omega
  rw [← List.reverse_eq_iff, bigEndian]
  constructor
  · intro same
    rw [same, littleEndian_ofNat, Nat.mod_eq_of_lt small]
  · rintro rfl
    have back := ofNat_littleEndian (bytes.slice offset width).reverse
    rw [length] at back
    exact back.symm

/-- Words stand one after the other from an offset on if each is the word at its own offset. -/
theorem words_prefix_drop_iff {bytes : Bytes} {words : List UInt32} {offset : Nat}
    (room : offset + 4 * words.length ≤ bytes.length) :
    words.flatMap ofWord32 <+: bytes.drop offset ↔
      words = (List.range words.length).map fun i => bytes.word32 (offset + 4 * i) := by
  induction words generalizing offset with
  | nil => exact iff_of_true (List.nil_prefix) rfl
  | cons word words ih =>
    rw [List.length_cons] at room
    have next (i : Nat) : offset + 4 * (i + 1) = offset + 4 + 4 * i := by omega
    rw [List.flatMap_cons, append_prefix_drop_iff (length_ofWord32 word),
      slice_eq_ofWord32_iff (by omega), ih (by omega), List.length_cons, List.range_succ_eq_map,
      List.map_cons, List.cons.injEq, List.map_map]
    simp only [Function.comp_def, Nat.succ_eq_add_one, next, Nat.mul_zero, Nat.add_zero]

/-- A changed byte outside of a slice does not change the slice. -/
theorem slice_set_outside {index offset size : Nat}
    (outside : index < offset ∨ offset + size ≤ index) (bytes : Bytes) (byte : UInt8) :
    Bytes.slice (bytes.set index byte) offset size = bytes.slice offset size := by
  unfold slice
  rw [List.drop_set]
  split
  · rfl
  · rw [List.take_set, List.set_eq_of_length_le]
    rw [List.length_take]
    omega

/-- A changed byte inside of a slice changes the slice. -/
theorem slice_set_inside {bytes : Bytes} {index offset size : Nat} {byte : UInt8}
    (starts : offset ≤ index) (stops : index < offset + size) (within : index < bytes.length)
    (changes : bytes[index]? ≠ some byte) :
    Bytes.slice (bytes.set index byte) offset size ≠ bytes.slice offset size := by
  intro same
  have at_index (other : Bytes) : (other.slice offset size)[index - offset]? = other[index]? := by
    rw [slice, List.getElem?_take_of_lt (by omega), List.getElem?_drop,
      Nat.add_sub_cancel' starts]
  have kept := at_index (bytes.set index byte)
  rw [same, at_index, List.getElem?_set_self within] at kept
  exact changes kept

/-- A changed byte outside of a word does not change the word. -/
theorem word32_set_outside {index offset : Nat} (outside : index < offset ∨ offset + 4 ≤ index)
    (bytes : Bytes) (byte : UInt8) :
    Bytes.word32 (bytes.set index byte) offset = bytes.word32 offset := by
  rw [word32, word32, slice_set_outside outside]

/-- A changed byte inside of a word changes the word. -/
theorem word32_set_inside {bytes : Bytes} {index offset : Nat} {byte : UInt8}
    (starts : offset ≤ index) (stops : index < offset + 4) (room : offset + 4 ≤ bytes.length)
    (changes : bytes[index]? ≠ some byte) :
    Bytes.word32 (bytes.set index byte) offset ≠ bytes.word32 offset := by
  intro same
  have written := @ofWord32_word32 (bytes.set index byte) offset (by rwa [List.length_set])
  rw [same, ofWord32_word32 room] at written
  exact slice_set_inside starts stops (by omega) changes written.symm

end EventLog.Bytes
