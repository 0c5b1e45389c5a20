/-!
# Byte strings and the words they hold

Every structure of a log is a byte string with words at fixed offsets, least significant byte
first. `littleEndian` reads such a word and `ofNat` writes it; `littleEndian_ofNat` and
`ofNat_littleEndian` say that the two undo each other, and `append_slice` that cutting a string in
two loses nothing.
-/

namespace EventLog

/-- A finite byte string. -/
abbrev Bytes := List UInt8

namespace Bytes

/-- The `size` bytes that start at `offset`; fewer if the string ends before. -/
def slice (bytes : Bytes) (offset size : Nat) : Bytes := (bytes.drop offset).take size

/-- A slice is as long as asked for, or as what is left. -/
@[simp] theorem length_slice (bytes : Bytes) (offset size : Nat) :
    (bytes.slice offset size).length = min size (bytes.length - offset) := by
  simp [slice]

/-- Two neighbouring slices join to one. -/
theorem append_slice (bytes : Bytes) (offset first second : Nat) :
    bytes.slice offset first ++ bytes.slice (offset + first) second =
      bytes.slice offset (first + second) := by
  simp [slice, ← List.drop_drop, List.take_add]

/-- A slice lies in every front part that is long enough. -/
theorem slice_take {bytes : Bytes} {offset size front : Nat} (h : offset + size ≤ front) :
    Bytes.slice (bytes.take front) offset size = bytes.slice offset size := by
  rw [slice, slice, List.drop_take, List.take_take, Nat.min_eq_left (by omega)]

/-- A slice of a front part that is long enough is a slice of the whole. -/
theorem slice_slice_zero {bytes : Bytes} {offset size front : Nat} (h : offset + size ≤ front) :
    Bytes.slice (bytes.slice 0 front) offset size = bytes.slice offset size := slice_take h

/-- A slice that starts at or after the end of a front part lies in the rest. -/
theorem slice_append_right {front : Bytes} {offset : Nat} (past : front.length ≤ offset)
    (rest : Bytes) (size : Nat) :
    slice (front ++ rest) offset size = slice rest (offset - front.length) size := by
  rw [slice, slice, List.drop_append, List.drop_eq_nil_of_le past, List.nil_append]

/-- What stands between a front part and the rest is the slice from the end of the front on. -/
theorem slice_between {front : Bytes} {offset : Nat} (starts : front.length = offset)
    (middle rest : Bytes) : slice (front ++ (middle ++ rest)) offset middle.length = middle := by
  rw [slice_append_right (Nat.le_of_eq starts), starts, Nat.sub_self, slice, List.drop_zero,
    List.take_left]

/-- The number whose bytes these are, least significant first. -/
def littleEndian : Bytes → Nat
  | [] => 0
  | b :: rest => b.toNat + 256 * littleEndian rest

/-- The number whose bytes these are, most significant first. -/
def bigEndian (bytes : Bytes) : Nat := littleEndian bytes.reverse

/-- The lowest `width` bytes of a number, least significant first. -/
def ofNat : (width : Nat) → Nat → Bytes
  | 0, _ => []
  | width + 1, n => UInt8.ofNat (n % 256) :: ofNat width (n / 256)

/-- A number written in `width` bytes takes exactly `width` bytes. -/
@[simp] theorem length_ofNat (width n : Nat) : (ofNat width n).length = width := by
  induction width generalizing n with
  | zero => rfl
  | succ width ih => simp [ofNat, ih]

/-- How many numbers a number of bytes can tell apart. -/
def capacity : (width : Nat) → Nat
  | 0 => 1
  | width + 1 => 256 * capacity width

/-- Reading back what was written gives the number, less the bits that did not fit. -/
theorem littleEndian_ofNat (width n : Nat) : littleEndian (ofNat width n) = n % capacity width := by
  induction width generalizing n with
  | zero => rw [ofNat, littleEndian, capacity, Nat.mod_one]
  | succ width ih =>
    have low : (UInt8.ofNat (n % 256)).toNat = n % 256 := by simp
    rw [ofNat, littleEndian, ih, low, capacity, Nat.mod_mul]

/-- Writing the number that a byte string holds gives the string back. -/
theorem ofNat_littleEndian (bytes : Bytes) : ofNat bytes.length (littleEndian bytes) = bytes := by
  induction bytes with
  | nil => rfl
  | cons b rest ih =>
    have hb : b.toNat < 256 := b.toNat_lt
    have low : (b.toNat + 256 * littleEndian rest) % 256 = b.toNat := by omega
    have high : (b.toNat + 256 * littleEndian rest) / 256 = littleEndian rest := by omega
    simp [ofNat, littleEndian, low, high, ih]

/-- A byte string holds one of the numbers that its bytes can tell apart. -/
theorem littleEndian_lt (bytes : Bytes) : littleEndian bytes < capacity bytes.length := by
  induction bytes with
  | nil => exact Nat.zero_lt_one
  | cons b rest ih =>
    have hb : b.toNat < 256 := b.toNat_lt
    rw [littleEndian, List.length_cons, capacity]
    omega

/-- The 16-bit word at an offset; bytes past the end count as zero. -/
def word16 (bytes : Bytes) (offset : Nat) : UInt16 := .ofNat (bytes.slice offset 2).littleEndian

/-- The 32-bit word at an offset; bytes past the end count as zero. -/
def word32 (bytes : Bytes) (offset : Nat) : UInt32 := .ofNat (bytes.slice offset 4).littleEndian

/-- A word lies in every front part that is long enough. -/
theorem word32_take {bytes : Bytes} {offset front : Nat} (h : offset + 4 ≤ front) :
    Bytes.word32 (bytes.take front) offset = bytes.word32 offset := by
  rw [word32, word32, slice_take h]

/-- The two bytes of a 16-bit word. -/
def ofWord16 (word : UInt16) : Bytes := ofNat 2 word.toNat

/-- The four bytes of a 32-bit word. -/
def ofWord32 (word : UInt32) : Bytes := ofNat 4 word.toNat

/-- A 16-bit word takes two bytes. -/
@[simp] theorem length_ofWord16 (word : UInt16) : (ofWord16 word).length = 2 := length_ofNat 2 _

/-- A 32-bit word takes four bytes. -/
@[simp] theorem length_ofWord32 (word : UInt32) : (ofWord32 word).length = 4 := length_ofNat 4 _

/-- A 16-bit word at or after the end of a front part lies in the rest. -/
theorem word16_append_right {front : Bytes} {offset : Nat} (past : front.length ≤ offset)
    (rest : Bytes) : word16 (front ++ rest) offset = word16 rest (offset - front.length) := by
  rw [word16, word16, slice_append_right past]

/-- A 32-bit word at or after the end of a front part lies in the rest. -/
theorem word32_append_right {front : Bytes} {offset : Nat} (past : front.length ≤ offset)
    (rest : Bytes) : word32 (front ++ rest) offset = word32 rest (offset - front.length) := by
  rw [word32, word32, slice_append_right past]

/-- A word written in its two bytes is the slice that it was read from. -/
theorem ofWord16_word16 {bytes : Bytes} {offset : Nat} (room : offset + 2 ≤ bytes.length) :
    ofWord16 (bytes.word16 offset) = bytes.slice offset 2 := by
  have length : (bytes.slice offset 2).length = 2 := by
    rw [length_slice]
    omega
  have small := littleEndian_lt (bytes.slice offset 2)
  have back := ofNat_littleEndian (bytes.slice offset 2)
  rw [length] at small back
  rw [ofWord16, word16, UInt16.toNat_ofNat_of_lt' small, back]

/-- A word written in its four bytes is the slice that it was read from. -/
theorem ofWord32_word32 {bytes : Bytes} {offset : Nat} (room : offset + 4 ≤ bytes.length) :
    ofWord32 (bytes.word32 offset) = bytes.slice offset 4 := by
  have length : (bytes.slice offset 4).length = 4 := by
    rw [length_slice]
    omega
  have small := littleEndian_lt (bytes.slice offset 4)
  have back := ofNat_littleEndian (bytes.slice offset 4)
  rw [length] at small back
  rw [ofWord32, word32, UInt32.toNat_ofNat_of_lt' small, back]

/-- A word read from its own two bytes is the word. -/
theorem word16_ofWord16_append (word : UInt16) (rest : Bytes) :
    word16 (ofWord16 word ++ rest) 0 = word := by
  have h : word.toNat < capacity 2 := word.toNat_lt
  have hs : slice (ofWord16 word ++ rest) 0 2 = ofNat 2 word.toNat := by
    simp [slice, ofWord16]
  rw [word16, hs, littleEndian_ofNat, Nat.mod_eq_of_lt h, UInt16.ofNat_toNat]

/-- A word read from its own four bytes is the word. -/
theorem word32_ofWord32_append (word : UInt32) (rest : Bytes) :
    word32 (ofWord32 word ++ rest) 0 = word := by
  have h : word.toNat < capacity 4 := word.toNat_lt
  have hs : slice (ofWord32 word ++ rest) 0 4 = ofNat 4 word.toNat := by
    simp [slice, ofWord32]
  rw [word32, hs, littleEndian_ofNat, Nat.mod_eq_of_lt h, UInt32.ofNat_toNat]

end Bytes

end EventLog
