import EventLog.Event

/-!
# Which bytes are an event record

`Accepted` is the grammar of event records, said of the bytes alone: the size on both ends, the
signature, regions that follow one another, two names at the front of the first of them and an even
number of bytes for strings. Decoding succeeds on just these bytes, and delivers what stands in the
regions, which share no byte and lie between the fixed part and the trailing size
(`decodes_iff_accepted`).
-/

namespace EventLog.Record

open RecordFields

/-- The bytes are an event record. -/
structure Accepted (bytes : Bytes) : Prop where
  /-- There is room for the fixed part and the trailing size. -/
  long : minimumSize ≤ bytes.length
  /-- The first word is the length. -/
  front : (bytes.word32 0).toNat = bytes.length
  /-- The last word is the length. -/
  back : (bytes.word32 (bytes.length - 4)).toNat = bytes.length
  /-- The signature follows the size. -/
  signed : bytes.slice 4 4 = logSignature
  /-- The regions follow one another after the fixed part and before the trailing size. -/
  ordered : (ofBytes bytes).Ordered (bytes.length - 4)
  /-- Two names, each with a zero unit, stand at the front of their region. -/
  names : ∃ source computer : CodeUnits,
    StringTable.encodeEntry source ++ StringTable.encodeEntry computer <+:
        bytes.slice width ((ofBytes bytes).membersEnd - width) ∧
      0 ∉ source ∧ 0 ∉ computer
  /-- The region of the strings, if there are any, has an even number of bytes, at least two. -/
  even : (ofBytes bytes).stringCount ≠ 0 →
    2 ≤ (ofBytes bytes).dataOffset.toNat - (ofBytes bytes).stringsOffset.toNat ∧
      ((ofBytes bytes).dataOffset.toNat - (ofBytes bytes).stringsOffset.toNat) % 2 = 0

/-- A record holds what the bytes of an event record say. -/
structure Reads (bytes : Bytes) (record : Record) : Prop where
  /-- The numbers are the words at their offsets. -/
  fields : record.toRecordFields = ofBytes bytes
  /-- Written back, with the signature, the numbers are the first bytes. -/
  fixed : record.toBytes = bytes.take width
  /-- The names are the two at the front of their region. -/
  names : StringTable.encodeEntry record.sourceName ++
        StringTable.encodeEntry record.computerName <+:
      bytes.slice width (record.membersEnd - width) ∧
    0 ∉ record.sourceName ∧ 0 ∉ record.computerName
  /-- The security identifier has the bytes of its region, and is absent if its size is zero. -/
  sid : record.sidBytes =
    if record.sidSize = 0 then none
    else some (bytes.slice record.sidOffset.toNat record.sidSize.toNat)
  /-- There is no table of strings if no strings are declared. -/
  noStrings : record.stringCount = 0 → record.strings = none
  /-- Else the table splits all bytes of its region at the zero units. -/
  strings : record.stringCount ≠ 0 → ∃ table, record.strings = some table ∧
    table.encode = bytes.slice record.stringsOffset.toNat
      (record.dataOffset.toNat - record.stringsOffset.toNat) ∧
    (∀ entry ∈ table.entries, 0 ∉ entry) ∧ 0 ∉ table.rest
  /-- The data has the bytes of its region. -/
  data : record.data = bytes.slice record.dataOffset.toNat record.dataSize.toNat
  /-- No region starts before the end of one that comes before it. -/
  apart : record.layout.regions.Pairwise fun first second => first.stop ≤ second.start
  /-- All regions lie between the fixed part and the trailing size. -/
  within : ∀ region ∈ record.layout.regions,
    width ≤ region.start ∧ region.stop ≤ bytes.length - 4

/-- Where the regions end before a limit that is within the bytes, strings have as many bytes as
their offsets say. -/
theorem length_strings {bytes : Bytes} {limit : Nat} {fields : RecordFields}
    (ordered : fields.Ordered limit) (within : limit ≤ bytes.length)
    (present : fields.stringCount ≠ 0) :
    (bytes.slice fields.stringsOffset.toNat
        (fields.dataOffset.toNat - fields.stringsOffset.toNat)).length =
      fields.dataOffset.toNat - fields.stringsOffset.toNat := by
  have bounds := ordered.strings present
  rw [Bytes.length_slice]
  omega

/-- The region of the strings that fields describe. -/
theorem mem_layout_strings {fields : RecordFields} {region : Region} :
    region ∈ fields.layout.strings ↔ fields.stringCount ≠ 0 ∧
      region = ⟨fields.stringsOffset.toNat,
        fields.dataOffset.toNat - fields.stringsOffset.toNat⟩ := by
  unfold layout
  dsimp only
  by_cases absent : fields.stringCount = 0
  · rw [if_pos absent]
    exact ⟨nofun, fun present => absurd absent present.1⟩
  · rw [if_neg absent, Option.mem_some_iff, eq_comm]
    exact ⟨fun same => ⟨absent, same⟩, fun same => same.2⟩

/-- In bytes that begin with their length, the regions end before the last four bytes. -/
theorem limit_ofBytes {bytes : Bytes} (front : (bytes.word32 0).toNat = bytes.length) :
    (ofBytes bytes).limit = bytes.length - 4 :=
  congrArg (· - 4) front

/-- Bytes that are decoded are an event record. -/
theorem accepted_of_decode {bytes : Bytes} {record : Record} (decoded : decode bytes = .ok record) :
    Accepted bytes := by
  obtain ⟨front, back, ordered, names, strings, -⟩ := decode_eq_ok_iff.mp decoded
  obtain ⟨long, size, signed⟩ := checkFront_eq_ok_iff.mp front
  rw [limit_ofBytes size] at ordered
  refine ⟨long, size, checkBack_eq_ok_iff.mp back, signed, ordered,
    ⟨_, _, names_eq_ok_iff.mp names⟩, ?_⟩
  intro present
  have even := (stringsIn_eq_ok_iff.mp strings).1 _ (mem_layout_strings.mpr ⟨present, rfl⟩)
  rw [Region.of, length_strings ordered (Nat.sub_le _ _) present] at even
  exact even

/-- An event record is decoded. -/
theorem Accepted.decodes {bytes : Bytes} (accepted : Accepted bytes) :
    ∃ record, decode bytes = .ok record := by
  obtain ⟨source, computer, names⟩ := accepted.names
  have ordered := accepted.ordered
  rw [← limit_ofBytes accepted.front] at ordered
  have even : ∀ region ∈ (ofBytes bytes).layout.strings,
      2 ≤ (region.of bytes).length ∧ (region.of bytes).length % 2 = 0 := by
    intro region member
    obtain ⟨present, rfl⟩ := mem_layout_strings.mp member
    rw [Region.of, length_strings accepted.ordered (Nat.sub_le _ _) present]
    exact accepted.even present
  exact ⟨⟨ofBytes bytes, 0, source, computer, _, _, _⟩, decode_eq_ok_iff.mpr
    ⟨checkFront_eq_ok_iff.mpr ⟨accepted.long, accepted.front, accepted.signed⟩,
      checkBack_eq_ok_iff.mpr accepted.back, ordered, names_eq_ok_iff.mpr names,
      stringsIn_eq_ok_iff.mpr ⟨even, rfl⟩, rfl, rfl, rfl, rfl⟩⟩

/-- The table that is read from the region of the strings, if there are any, splits the bytes of
that region at the zero units. -/
theorem table_of_stringsIn {bytes : Bytes} {fields : RecordFields} {table : Option StringTable}
    (reads : stringsIn bytes fields.layout.strings = .ok table) :
    (fields.stringCount = 0 → table = none) ∧
      (fields.stringCount ≠ 0 → ∃ strings, table = some strings ∧
        strings.encode = bytes.slice fields.stringsOffset.toNat
          (fields.dataOffset.toNat - fields.stringsOffset.toNat) ∧
        (∀ entry ∈ strings.entries, 0 ∉ entry) ∧ 0 ∉ strings.rest) := by
  obtain ⟨even, rfl⟩ := stringsIn_eq_ok_iff.mp reads
  constructor
  · intro absent
    rw [layout]
    dsimp only
    rw [if_pos absent]
    rfl
  · intro present
    have region := mem_layout_strings.mpr ⟨present, rfl⟩
    have even := (even _ region).2
    rw [Option.mem_def.mp region, Option.map_some]
    refine ⟨_, rfl, ?_, StringTable.zero_not_mem_ofUnits _⟩
    rw [StringTable.encode_ofUnits, CodeUnits.toBytes_ofBytes even]
    rfl

/-- What is decoded from bytes is what these say. -/
theorem reads_of_decode {bytes : Bytes} {record : Record} (decoded : decode bytes = .ok record) :
    Reads bytes record := by
  obtain ⟨front, -, ordered, names, strings, fields, -, sid, data⟩ := decode_eq_ok_iff.mp decoded
  obtain ⟨long, size, signed⟩ := checkFront_eq_ok_iff.mp front
  rw [limit_ofBytes size] at ordered
  have inOrder := Layout.regions_inOrder ordered
  rw [← fields] at inOrder names strings sid data
  obtain ⟨noStrings, someStrings⟩ := table_of_stringsIn strings
  refine ⟨fields, ?_, names_eq_ok_iff.mp names, ?_, noStrings, someStrings, ?_, inOrder.pairwise,
    inOrder.bounds.2⟩
  · rw [minimumSize] at long
    rw [fields]
    exact toBytes_ofBytes (by rw [width]; omega) signed
  · rw [sid, layout]
    dsimp only
    split <;> rfl
  · rw [data, layout]
    dsimp only
    split
    · rename_i absent
      rw [absent]
      rfl
    · rfl

/-- Decoding succeeds on just the bytes that are an event record, and what it delivers is what those
say. -/
theorem decodes_iff_accepted (bytes : Bytes) :
    ((∃ record, decode bytes = .ok record) ↔ Accepted bytes) ∧
      ∀ record, decode bytes = .ok record → Reads bytes record :=
  ⟨⟨fun ⟨_, decoded⟩ => accepted_of_decode decoded, Accepted.decodes⟩,
    fun _ => reads_of_decode⟩

/-- An event with everything that a record can hold: a security identifier, two strings, one of them
empty, and data. -/
def fullEvent : Event where
  number := 7
  created := 1000
  written := 1001
  identifier := ⟨0x40000001⟩
  kind := ⟨4⟩
  category := 0
  flags := 0
  closingNumber := 0
  sourceName := "S"
  computerName := "C"
  sidBytes := some [1, 0, 0, 0, 0, 0, 0, 5]
  strings := ["A", ""]
  data := [1, 2, 3]

/-- The bytes that a log writer stores for that event are an event record, and are read as what they
say. -/
theorem fullEvent_accepted : Accepted fullEvent.encode ∧
    ∃ record, decode fullEvent.encode = .ok record ∧ Reads fullEvent.encode record := by
  obtain ⟨accepts, reads⟩ := decodes_iff_accepted fullEvent.encode
  have decoded : ∃ record, decode fullEvent.encode = .ok record := ⟨_, rfl⟩
  obtain ⟨record, done⟩ := decoded
  exact ⟨accepts.mp ⟨record, done⟩, record, done, reads record done⟩

end EventLog.Record
