import EventLog.Machine.Word
import EventLog.Text.CodeUnits

/-!
# Reading byte strings field by field on the machine

A cursor goes through a byte string and moves on over what it reads. Whether a field is there is
found out without a sum that could stop the machine (`pieceAt`); the sum that moves the cursor is
safe because the field was there (`take_eq`). A text is read up to the first zero unit before a
limit, which is looked for unit by unit (`text_eq`).
-/

namespace EventLog.Machine

open Decoding

/-- A piece of a byte string, if it is there. -/
def pieceAt (part : Part) (bytes : Bytes) (offset size : Nat) : Decoding Bytes :=
  ends (if offset + size < UInt64.size ∧ offset + size ≤ bytes.length then
      .ok (bytes.slice offset size)
    else .error (.truncated part offset size (bytes.length - offset)))

/-- A piece that is there. -/
theorem pieceAt_eq {part : Part} {bytes : Bytes} {offset size : Nat}
    (fits : offset + size < UInt64.size) (room : offset + size ≤ bytes.length) :
    pieceAt part bytes offset size = ends (.ok (bytes.slice offset size)) := by
  rw [pieceAt, if_pos ⟨fits, room⟩]

/-- A piece that is not there. -/
theorem pieceAt_eq_error {part : Part} {bytes : Bytes} {offset size : Nat}
    (short : bytes.length < offset + size) : pieceAt part bytes offset size =
      ends (.error (.truncated part offset size (bytes.length - offset))) := by
  rw [pieceAt, if_neg fun there => absurd there.2 (Nat.not_le_of_lt short)]

/-- A word of four bytes, if it is there. -/
def word32At (part : Part) (bytes : Bytes) (offset : Nat) : Decoding UInt32 := do
  let field ← pieceAt part bytes offset 4
  return .ofNat field.littleEndian

/-- A word that is there. -/
theorem word32At_eq {part : Part} {bytes : Bytes} {offset : Nat}
    (fits : offset + 4 < UInt64.size) (room : offset + 4 ≤ bytes.length) :
    word32At part bytes offset = ends (.ok (bytes.word32 offset)) := by
  rw [word32At, pieceAt_eq fits room, ends_ok_bind]
  rfl

/-- A byte string that is read from front to back. -/
structure Cursor where
  /-- The byte string. -/
  bytes : Bytes
  /-- How far it has been read. -/
  position : Nat

namespace Cursor

/-- Reads the next bytes. -/
def take (cursor : Cursor) (part : Part) (size : Nat) : Decoding (Bytes × Cursor) := do
  let piece ← pieceAt part cursor.bytes cursor.position size
  let position ← compute (add cursor.position size)
  return (piece, { cursor with position })

/-- Reads a word of four bytes. -/
def word32 (cursor : Cursor) (part : Part) : Decoding (UInt32 × Cursor) := do
  let (field, cursor) ← cursor.take part 4
  return (.ofNat field.littleEndian, cursor)

/-- Reads a word of two bytes. -/
def word16 (cursor : Cursor) (part : Part) : Decoding (UInt16 × Cursor) := do
  let (field, cursor) ← cursor.take part 2
  return (.ofNat field.littleEndian, cursor)

variable {part : Part} {bytes : Bytes} {position : Nat}

/-- Bytes that are there are read, and the cursor moves on. -/
theorem take_eq {size : Nat} (small : bytes.length < UInt64.size)
    (room : position + size ≤ bytes.length) :
    take ⟨bytes, position⟩ part size =
      ends (.ok (bytes.slice position size, ⟨bytes, position + size⟩)) := by
  have fits := Nat.lt_of_le_of_lt room small
  rw [take, pieceAt_eq fits room, ends_ok_bind, add_eq fits, compute_some, ends_ok_bind, pure_eq]

/-- A word of four bytes that is there is read, and the cursor moves on. -/
theorem word32_eq (small : bytes.length < UInt64.size) (room : position + 4 ≤ bytes.length) :
    word32 ⟨bytes, position⟩ part =
      ends (.ok (bytes.word32 position, ⟨bytes, position + 4⟩)) := by
  rw [word32, take_eq small room, ends_ok_bind]
  rfl

/-- A word of two bytes that is there is read, and the cursor moves on. -/
theorem word16_eq (small : bytes.length < UInt64.size) (room : position + 2 ≤ bytes.length) :
    word16 ⟨bytes, position⟩ part =
      ends (.ok (bytes.word16 position, ⟨bytes, position + 2⟩)) := by
  rw [word16, take_eq small room, ends_ok_bind]
  rfl

/-- The offset of the first zero unit. -/
def zeroUnit (bytes : Bytes) : Option (Option Nat) :=
  match (CodeUnits.ofBytes bytes).findIdx? (· == 0) with
  | some index => (mul index 2).map some
  | none => some none

/-- Reads the next bytes up to the first zero unit and with it; it must stand before a limit. -/
def text (cursor : Cursor) (part : Part) (limit : Nat) : Decoding (Bytes × Cursor) :=
  let stop := min limit cursor.bytes.length
  match slice cursor.bytes cursor.position stop with
  | none => ends (.error (.outOfBounds part cursor.position 0 limit))
  | some region => do
    match ← compute (zeroUnit region) with
    | some offset =>
      let size ← compute (add offset 2)
      cursor.take part size
    | none => ends (.error (.outOfBounds part cursor.position region.length limit))

/-- The first zero unit is where the text before it is cut off. -/
theorem findIdx?_zero (units : CodeUnits) :
    units.findIdx? (· == 0) = units.cut?.map fun cut => cut.1.length := by
  induction units with
  | nil => rfl
  | cons u units ih =>
    rw [List.findIdx?_cons, CodeUnits.cut?, ih]
    by_cases zero : u = 0
    · rw [if_pos zero, zero]
      rfl
    · rw [if_neg zero, if_neg (by rw [beq_iff_eq]; exact zero), Option.map_map, Option.map_map]
      rfl

/-- What is cut off the units before a limit is the text that stands in front, with its zero unit;
the rest are the units after both. -/
theorem cut_slice {limit : Nat} (within : limit ≤ bytes.length) {units rest : CodeUnits}
    (cut : (CodeUnits.ofBytes (bytes.slice position (limit - position))).cut? =
      some (units, rest)) :
    position + (2 * units.length + 2) ≤ limit ∧ 0 ∉ units ∧
      bytes.slice position (2 * units.length + 2) = CodeUnits.toBytes (units ++ [0]) ∧
      CodeUnits.ofBytes (bytes.slice (position + (2 * units.length + 2))
        (limit - (position + (2 * units.length + 2)))) = rest := by
  obtain ⟨split, whole⟩ := CodeUnits.cut?_eq_some_iff.mp cut
  rw [List.append_cons] at split
  obtain ⟨tail, region, units_eq⟩ := CodeUnits.ofBytes_eq_append_iff.mp split
  have size : (CodeUnits.toBytes (units ++ [0])).length = 2 * units.length + 2 := by
    rw [CodeUnits.length_toBytes, List.length_append, List.length_singleton]
    omega
  have length := congrArg List.length region
  rw [Bytes.length_slice, List.length_append, size] at length
  refine ⟨by omega, whole, ?_, ?_⟩
  · have shorter : bytes.slice position (2 * units.length + 2) =
        (bytes.slice position (limit - position)).take (2 * units.length + 2) := by
      rw [Bytes.slice, Bytes.slice, List.take_take, Nat.min_eq_left (by omega)]
    rw [shorter, region, List.take_left' size]
  · have later : bytes.slice (position + (2 * units.length + 2))
          (limit - (position + (2 * units.length + 2))) =
        (bytes.slice position (limit - position)).drop (2 * units.length + 2) := by
      rw [Bytes.slice, Bytes.slice, List.drop_take, List.drop_drop, Nat.sub_sub]
    rw [later, region, List.drop_left' size, units_eq]

/-- A text before a limit is what is cut off the units between, with its zero unit; the cursor moves
on over both. -/
theorem text_eq {limit : Nat} (order : position ≤ limit) (within : limit ≤ bytes.length)
    (small : bytes.length < UInt64.size) :
    text ⟨bytes, position⟩ part limit =
      match (CodeUnits.ofBytes (bytes.slice position (limit - position))).cut? with
      | some (units, _) => ends (.ok (CodeUnits.toBytes (units ++ [0]),
          ⟨bytes, position + (2 * units.length + 2)⟩))
      | none => ends (.error (.outOfBounds part position (limit - position) limit)) := by
  unfold text
  dsimp only
  rw [Nat.min_eq_left within, slice_eq order within]
  dsimp only
  rw [zeroUnit, findIdx?_zero]
  cases cut : (CodeUnits.ofBytes (bytes.slice position (limit - position))).cut? with
  | none =>
    rw [Bytes.length_slice, Nat.min_eq_left (by omega)]
    rfl
  | some parts =>
    obtain ⟨room, -, front, -⟩ := cut_slice within cut
    dsimp only [Option.map_some]
    rw [mul_eq (by omega)]
    dsimp only [Option.map_some]
    rw [compute_some, ends_ok_bind, Nat.mul_comm _ 2]
    dsimp only
    rw [add_eq (by omega), compute_some, ends_ok_bind, take_eq small (by omega), front]

end Cursor

end EventLog.Machine
