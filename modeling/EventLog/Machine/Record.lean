import EventLog.Machine.Codecs
import EventLog.Record

/-!
# Decoding event records on the machine

The offsets and sizes in a record are words that anyone may have written, and the machine adds and
subtracts them. `Places.validate` checks them in the order in which the regions stand in the record;
only what has been checked is sliced. On every byte string whose length is a word, the machine comes
to an end, with just what decoding delivers (`decodeRecord_eq`).
-/

namespace EventLog.Machine

open Decoding

/-- Where the regions of a record start and stop. -/
structure Places where
  /-- The two names. -/
  members : Nat × Nat
  /-- The user's security identifier. -/
  sid : Option (Nat × Nat)
  /-- The strings. -/
  strings : Option (Nat × Nat)
  /-- The binary data. -/
  data : Option (Nat × Nat)

namespace Places

/-- Where a region starts and stops. -/
def ofRegion (region : Region) : Nat × Nat := (region.start, region.stop)

/-- Where the regions of a layout start and stop. -/
def ofLayout (layout : Layout) : Places where
  members := ofRegion layout.members
  sid := layout.sid.map ofRegion
  strings := layout.strings.map ofRegion
  data := layout.data.map ofRegion

/-- Where the next region may start: where a present one stops, else where it could before. -/
def after (place : Option (Nat × Nat)) (lower : Nat) : Nat := (place.map Prod.snd).getD lower

/-- A region that is given by its offset and size and must lie between two bounds. -/
def between (part : Part) (offset size lower limit : Nat) : Decoding (Nat × Nat) := do
  let stop ← compute (add offset size)
  ends (if offset < lower ∨ limit < stop then .error (.outOfBounds part offset size limit)
    else .ok (offset, stop))

/-- The region of the names. -/
def membersOf (fields : RecordFields) (limit : Nat) : Decoding (Nat × Nat) :=
  if fields.membersEnd < RecordFields.width then
    ends (.error (.outOfBounds .members fields.membersEnd 0 limit))
  else do
    let size ← compute (sub fields.membersEnd RecordFields.width)
    between .members RecordFields.width size RecordFields.width limit

/-- The region of the security identifier, if it is present. -/
def sidOf (fields : RecordFields) (lower limit : Nat) : Decoding (Option (Nat × Nat)) :=
  if fields.sidSize = 0 then return none
  else some <$> between .userSid fields.sidOffset.toNat fields.sidSize.toNat lower limit

/-- The region of the strings, if it is present. -/
def stringsOf (fields : RecordFields) (lower limit : Nat) : Decoding (Option (Nat × Nat)) :=
  if fields.stringCount = 0 then return none
  else if fields.dataOffset.toNat < fields.stringsOffset.toNat then
    ends (.error (.outOfBounds .strings fields.stringsOffset.toNat 0 fields.dataOffset.toNat))
  else do
    let size ← compute (sub fields.dataOffset.toNat fields.stringsOffset.toNat)
    some <$> between .strings fields.stringsOffset.toNat size lower limit

/-- The region of the binary data, if it is present. -/
def dataOf (fields : RecordFields) (lower limit : Nat) : Decoding (Option (Nat × Nat)) :=
  if fields.dataSize = 0 then return none
  else some <$> between .data fields.dataOffset.toNat fields.dataSize.toNat lower limit

/-- Checks the regions that the fields describe, in order. -/
def validate (fields : RecordFields) : Decoding Places := do
  let limit ← compute (sub fields.size.toNat 4)
  let members ← membersOf fields limit
  let sid ← sidOf fields members.2 limit
  let strings ← stringsOf fields (after sid members.2) limit
  let data ← dataOf fields (after strings (after sid members.2)) limit
  return ⟨members, sid, strings, data⟩

variable {fields : RecordFields}

/-- A region whose end is a word is checked. -/
theorem between_eq {part : Part} {offset size lower limit : Nat}
    (fits : offset + size < UInt64.size) : between part offset size lower limit =
      ends ((Region.between part offset size lower limit).map ofRegion) := by
  rw [between, add_eq fits, compute_some, ends_ok_bind, Region.between]
  split <;> rfl

/-- Offset and size of a region end at a word. -/
theorem word32_add_lt (offset size : UInt32) : offset.toNat + size.toNat < UInt64.size := by
  have words := words_eq
  have first := offset.toNat_lt
  have second := size.toNat_lt
  omega

/-- The region of the names is checked. -/
theorem membersOf_eq (fields : RecordFields) : membersOf fields fields.limit =
    ends ((Layout.membersOf fields).map ofRegion) := by
  unfold membersOf Layout.membersOf
  split
  · rfl
  · rename_i room
    have small : fields.membersEnd < UInt64.size := by
      have zero := word32_add_lt fields.sidOffset 0
      have zero' := word32_add_lt fields.stringsOffset 0
      rw [UInt32.toNat_zero, Nat.add_zero] at zero zero'
      unfold RecordFields.membersEnd
      split
      · exact zero
      · exact zero'
    rw [sub_eq (by omega), compute_some, ends_ok_bind, between_eq (by omega)]

/-- The region of the security identifier is checked. -/
theorem sidOf_eq (fields : RecordFields) (lower : Nat) : sidOf fields lower fields.limit =
    ends ((Layout.sidOf fields lower).map (Option.map ofRegion)) := by
  unfold sidOf Layout.sidOf
  split
  · rfl
  · rw [between_eq (word32_add_lt _ _), map_ends]
    cases Region.between .userSid fields.sidOffset.toNat fields.sidSize.toNat lower fields.limit <;>
      rfl

/-- The region of the strings is checked. -/
theorem stringsOf_eq (fields : RecordFields) (lower : Nat) : stringsOf fields lower fields.limit =
    ends ((Layout.stringsOf fields lower).map (Option.map ofRegion)) := by
  unfold stringsOf Layout.stringsOf
  split
  · rfl
  · split
    · rfl
    · have small := word32_add_lt fields.dataOffset 0
      rw [UInt32.toNat_zero] at small
      rw [sub_eq (by omega), compute_some, ends_ok_bind, between_eq (by omega), map_ends]
      cases Region.between .strings fields.stringsOffset.toNat
        (fields.dataOffset.toNat - fields.stringsOffset.toNat) lower fields.limit <;> rfl

/-- The region of the data is checked. -/
theorem dataOf_eq (fields : RecordFields) (lower : Nat) : dataOf fields lower fields.limit =
    ends ((Layout.dataOf fields lower).map (Option.map ofRegion)) := by
  unfold dataOf Layout.dataOf
  split
  · rfl
  · rw [between_eq (word32_add_lt _ _), map_ends]
    cases Region.between .data fields.dataOffset.toNat fields.dataSize.toNat lower fields.limit <;>
      rfl

/-- The next region may start where it may in the layout. -/
theorem after_map (region : Option Region) (lower : Nat) :
    after (region.map ofRegion) lower = Layout.after region lower := by
  cases region <;> rfl

/-- The machine checks the regions of every record that has room for its trailing size, as the
layout has them. -/
theorem validate_eq (room : 4 ≤ fields.size.toNat) :
    validate fields = ends ((Layout.ofFields fields).map ofLayout) := by
  have limit : fields.size.toNat - 4 = fields.limit := rfl
  unfold validate Layout.ofFields
  rw [sub_eq room, compute_some, ends_ok_bind, limit, membersOf_eq, ends_map_bind]
  cases Layout.membersOf fields with
  | error e => rfl
  | ok members =>
    have stop : (ofRegion members).2 = members.stop := rfl
    rw [ends_ok_bind, ok_bind, stop, sidOf_eq, ends_map_bind]
    cases Layout.sidOf fields members.stop with
    | error e => rfl
    | ok sid =>
      rw [ends_ok_bind, ok_bind, after_map, stringsOf_eq, ends_map_bind]
      cases Layout.stringsOf fields (Layout.after sid members.stop) with
      | error e => rfl
      | ok strings =>
        rw [ends_ok_bind, ok_bind, after_map, dataOf_eq, ends_map_bind]
        cases Layout.dataOf fields (Layout.after strings (Layout.after sid members.stop)) <;> rfl

end Places

/-- Reads the fixed part of a record on the machine. -/
def decodeFront (bytes : Bytes) : Decoding (RecordFields × Cursor) := do
  let _ ← pieceAt .record bytes 0 Record.minimumSize
  let (size, cursor) ← Cursor.word32 ⟨bytes, 0⟩ .recordSize
  ensureSize .recordSize bytes.length size.toNat
  let (signature, cursor) ← cursor.take .recordSignature 4
  ensureSignature .recordSignature logSignature signature
  let (number, cursor) ← cursor.word32 .record
  let (created, cursor) ← cursor.word32 .record
  let (written, cursor) ← cursor.word32 .record
  let (identifier, cursor) ← cursor.word32 .record
  let (kind, cursor) ← cursor.word16 .record
  let (stringCount, cursor) ← cursor.word16 .record
  let (category, cursor) ← cursor.word16 .record
  let (flags, cursor) ← cursor.word16 .record
  let (closingNumber, cursor) ← cursor.word32 .record
  let (stringsOffset, cursor) ← cursor.word32 .record
  let (sidSize, cursor) ← cursor.word32 .record
  let (sidOffset, cursor) ← cursor.word32 .record
  let (dataSize, cursor) ← cursor.word32 .record
  let (dataOffset, cursor) ← cursor.word32 .record
  return ({ size, number, created, written, identifier := ⟨identifier⟩, kind := ⟨kind⟩, stringCount,
            category, flags, closingNumber, stringsOffset, sidSize, sidOffset, dataSize,
            dataOffset }, cursor)

/-- Reads the two names on the machine, which must end before a limit. -/
def decodeNames (cursor : Cursor) (limit : Nat) : Decoding (CodeUnits × CodeUnits) := do
  let (source, cursor) ← cursor.text .sourceName limit
  let (computer, _) ← cursor.text .computerName limit
  return (CodeUnits.textUnits source, CodeUnits.textUnits computer)

/-- The bytes of a place, if it is present. -/
def sliceAt (bytes : Bytes) : Option (Nat × Nat) → Decoding (Option Bytes)
  | some place => compute ((slice bytes place.1 place.2).map some)
  | none => return none

/-- Reads the strings on the machine, if they are present. -/
def decodeStrings (bytes : Bytes) (place : Option (Nat × Nat)) :
    Decoding (Option StringTable) := do
  match ← sliceAt bytes place with
  | some region => some <$> decodeTable region
  | none => return none

/-- Checks the trailing size of a record on the machine. -/
def checkBack (bytes : Bytes) (size : UInt32) : Decoding Unit := do
  let last ← compute (sub bytes.length 4)
  let copy ← word32At .recordSizeCopy bytes last
  ensureSize .recordSizeCopy size.toNat copy.toNat

/-- Reads a record on the machine. -/
def decodeRecord (bytes : Bytes) : Decoding Record := do
  let (fields, cursor) ← decodeFront bytes
  let places ← Places.validate fields
  let (source, computer) ← decodeNames cursor places.members.2
  let sid ← sliceAt bytes places.sid
  let strings ← decodeStrings bytes places.strings
  let data ← sliceAt bytes places.data
  checkBack bytes fields.size
  return { toRecordFields := fields
           offset := 0
           sourceName := source
           computerName := computer
           sidBytes := sid
           strings
           data := data.getD [] }

variable {bytes : Bytes}

/-- The machine reads the fixed part of every record, and goes on after it. -/
theorem decodeFront_eq (small : bytes.length < UInt64.size) : decodeFront bytes =
    ends ((Record.checkFront bytes).map fun _ => (RecordFields.ofBytes bytes, ⟨bytes, 56⟩)) := by
  unfold decodeFront Record.checkFront
  rw [Record.minimumSize]
  by_cases short : bytes.length < 60
  · rw [if_pos short, pieceAt_eq_error (by omega), ends_error_bind]
    rfl
  · rw [if_neg short, pieceAt_eq (by decide) (by omega), ends_ok_bind,
      Cursor.word32_eq small (by omega), ends_ok_bind]
    dsimp only
    rw [ensureSize_bind]
    split
    · rfl
    · rw [Cursor.take_eq small (by omega), ends_ok_bind]
      dsimp only
      rw [ensureSignature_bind]
      split
      · rfl
      · iterate 4
          rw [Cursor.word32_eq small (by omega), ends_ok_bind]
          dsimp only
        iterate 4
          rw [Cursor.word16_eq small (by omega), ends_ok_bind]
          dsimp only
        iterate 6
          rw [Cursor.word32_eq small (by omega), ends_ok_bind]
          dsimp only
        rfl

/-- The machine reads the names in every region that lies within the bytes. -/
theorem decodeNames_eq {region : Region} (within : region.stop ≤ bytes.length)
    (small : bytes.length < UInt64.size) :
    decodeNames ⟨bytes, region.start⟩ region.stop = ends (Record.names bytes region) := by
  have forwards : region.start ≤ region.stop := Nat.le_add_right _ _
  have size : region.size = region.stop - region.start := (Nat.add_sub_cancel_left ..).symm
  unfold decodeNames Record.names Record.cutName
  rw [Cursor.text_eq forwards within small, Region.of, size]
  cases first : (CodeUnits.ofBytes
      (bytes.slice region.start (region.stop - region.start))).cut? with
  | none => rfl
  | some cut =>
    obtain ⟨source, rest⟩ := cut
    obtain ⟨room, sourceWhole, -, tail⟩ := Cursor.cut_slice within first
    dsimp only
    rw [ends_ok_bind]
    dsimp only
    rw [Cursor.text_eq room within small, tail, ok_bind]
    dsimp only
    have moved : region.start + 2 * source.utf16Size = region.start + (2 * source.length + 2) := rfl
    rw [moved]
    cases second : rest.cut? with
    | none => rfl
    | some cut =>
      obtain ⟨computer, last⟩ := cut
      obtain ⟨-, computerWhole⟩ := CodeUnits.cut?_eq_some_iff.mp second
      dsimp only
      rw [ends_ok_bind, ok_bind]
      dsimp only
      rw [(CodeUnits.terminated sourceWhole).text, (CodeUnits.terminated computerWhole).text]
      rfl

/-- The machine slices every region that lies within the bytes. -/
theorem sliceAt_eq {region : Option Region}
    (within : ∀ present ∈ region, present.stop ≤ bytes.length) :
    sliceAt bytes (region.map Places.ofRegion) = ends (.ok (region.map (Region.of bytes))) := by
  cases region with
  | none => rfl
  | some present =>
    have forwards : present.start ≤ present.stop := Nat.le_add_right _ _
    have size : present.stop - present.start = present.size := Nat.add_sub_cancel_left ..
    rw [Option.map_some, sliceAt, Places.ofRegion, slice_eq forwards (within present rfl), size]
    rfl

/-- The machine reads the strings in every region that lies within the bytes. -/
theorem decodeStrings_eq {region : Option Region}
    (within : ∀ present ∈ region, present.stop ≤ bytes.length)
    (small : bytes.length < UInt64.size) :
    decodeStrings bytes (region.map Places.ofRegion) = ends (Record.stringsIn bytes region) := by
  rw [decodeStrings, sliceAt_eq within, ends_ok_bind]
  cases region with
  | none => rfl
  | some present =>
    have shorter : (present.of bytes).length < UInt64.size := by
      rw [Region.of, Bytes.length_slice]
      omega
    rw [Option.map_some]
    dsimp only
    rw [decodeTable_eq shorter, map_ends, Record.stringsIn]

/-- The machine checks the trailing size of every record that has room for it. -/
theorem checkBack_eq {size : UInt32} (long : 4 ≤ bytes.length)
    (shown : size.toNat = bytes.length) (small : bytes.length < UInt64.size) :
    checkBack bytes size = ends (Record.checkBack bytes) := by
  rw [checkBack, sub_eq long, compute_some, ends_ok_bind, word32At_eq (by omega) (by omega),
    ends_ok_bind, shown]
  rfl

/-- The machine reads every event record as decoding does, if its bytes are not more than a word can
count. -/
theorem decodeRecord_eq (small : bytes.length < UInt64.size) :
    decodeRecord bytes = ends (Record.decode bytes) := by
  unfold decodeRecord Record.decode
  rw [decodeFront_eq small, ends_map_bind]
  cases front : Record.checkFront bytes with
  | error e => rfl
  | ok checked =>
    obtain ⟨long, shown, -⟩ := Record.checkFront_eq_ok_iff.mp front
    rw [Record.minimumSize] at long
    have size : (RecordFields.ofBytes bytes).size.toNat = bytes.length := shown
    rw [ends_ok_bind, ok_bind]
    dsimp only
    rw [Places.validate_eq (by omega), ends_map_bind]
    cases described : Layout.ofFields (RecordFields.ofBytes bytes) with
    | error e => rfl
    | ok layout =>
      obtain ⟨ordered, rfl⟩ := Layout.ofFields_eq_ok_iff.mp described
      have limit : (RecordFields.ofBytes bytes).limit = bytes.length - 4 := by
        rw [RecordFields.limit, size]
      have within : ∀ region ∈ (RecordFields.ofBytes bytes).layout.regions,
          region.stop ≤ bytes.length := by
        intro region member
        have bounds := ((Layout.regions_inOrder ordered).bounds.2 region member).2
        omega
      simp only [Layout.regions, List.mem_cons, List.mem_append, Option.mem_toList] at within
      have sid := fun region member => within region (.inr (.inl member))
      have strings := fun region member => within region (.inr (.inr (.inl member)))
      have data := fun region member => within region (.inr (.inr (.inr member)))
      have names := decodeNames_eq (within _ (.inl rfl)) small
      have starts : (RecordFields.ofBytes bytes).layout.members.start = 56 := rfl
      rw [starts] at names
      rw [ends_ok_bind, ok_bind]
      dsimp only [Places.ofLayout, Places.ofRegion]
      rw [names]
      cases Record.names bytes (RecordFields.ofBytes bytes).layout.members with
      | error e => rfl
      | ok pair =>
        rw [ends_ok_bind, ok_bind, sliceAt_eq sid, ends_ok_bind, decodeStrings_eq strings small]
        cases Record.stringsIn bytes (RecordFields.ofBytes bytes).layout.strings with
        | error e => rfl
        | ok table =>
          rw [ends_ok_bind, ok_bind, sliceAt_eq data, ends_ok_bind,
            checkBack_eq (by omega) size small]
          cases Record.checkBack bytes <;> rfl

end EventLog.Machine
