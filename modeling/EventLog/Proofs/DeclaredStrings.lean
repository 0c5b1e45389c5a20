import EventLog.Proofs.PrimaryRecords
import EventLog.Proofs.RecordGrammar
import EventLog.Proofs.StringTables

/-!
# How many strings a record has

A record declares a number of strings, and all that is taken from it is whether there are any. How
many there are the bytes say: one for each zero unit between the offset of the strings and that of
the data (`held`). For the indices below that number, and for no others, a record answers for its
strings (`counts_of_decode`). The declared number may be another one.
-/

namespace EventLog.Record

/-- The answer is not that there is no such index. -/
def InRange {α : Type} (answer : Except DecodeError α) : Prop :=
  ∀ index size limit, answer ≠ .error (.outOfBounds .stringIndex index size limit)

/-- One answer that builds on another is in range if both are. -/
theorem InRange.bind {α β : Type} {answer : Except DecodeError α} {next : α → Except DecodeError β}
    (first : InRange answer) (after : ∀ value, InRange (next value)) :
    InRange (answer >>= next) := by
  intro index size limit failed
  rcases bind_eq_error_iff.mp failed with here | ⟨value, -, later⟩
  · exact first index size limit here
  · exact after value index size limit later

/-- Reading units as a text does not look for an index. -/
theorem inRange_text (part : Part) (units : CodeUnits) : InRange (units.text part) := by
  intro index size limit failed
  cases (CodeUnits.text_eq_error failed).2

/-- Measuring units in UTF-8 does not look for an index. -/
theorem inRange_utf8Size (part : Part) (units : CodeUnits) : InRange (units.utf8Size part) := by
  intro index size limit failed
  exact inRange_text part units index size limit (map_eq_error_iff.mp failed)

/-- Encoding a text does not look for an index. -/
theorem inRange_encode (codepage : Codepage) (text : String) : InRange (codepage.encode text) := by
  intro index size limit failed
  unfold Codepage.encode at failed
  split at failed <;> cases failed

variable {bytes : Bytes} {record : Record}

/-- The units of the string at an index. -/
def entryAt (record : Record) (index : Nat) : Except DecodeError CodeUnits :=
  record.tableFor index >>= fun table => table.entry index

/-- A record has units at each index below the number of its strings, and at no other. -/
theorem entryAt_cases (record : Record) (index : Nat) :
    (index < record.stringTotal ∧ ∃ units, record.entryAt index = .ok units) ∨
      (record.stringTotal ≤ index ∧
        record.entryAt index = .error (.outOfBounds .stringIndex index 1 record.stringTotal)) := by
  unfold entryAt tableFor stringTotal
  cases record.strings with
  | none => exact .inr ⟨Nat.zero_le index, rfl⟩
  | some table =>
    show (index < table.size ∧ ∃ units, table.entry index = .ok units) ∨
      (table.size ≤ index ∧
        table.entry index = .error (.outOfBounds .stringIndex index 1 table.size))
    rcases Nat.lt_or_ge index table.size with within | beyond
    · have there : table.entries[index]? = some table.entries[index] :=
        List.getElem?_eq_getElem within
      refine .inl ⟨within, table.entries[index], ?_⟩
      rw [StringTable.entry, there]
    · exact .inr ⟨beyond, (StringTable.noEntry beyond).units⟩

/-- What is made of the units at an index is in range just if the index is. -/
theorem inRange_entryAt {α : Type} {make : CodeUnits → Except DecodeError α}
    (made : ∀ units, InRange (make units)) (record : Record) (index : Nat) :
    InRange (record.entryAt index >>= make) ↔ index < record.stringTotal := by
  rcases record.entryAt_cases index with ⟨within, units, here⟩ | ⟨beyond, none⟩
  · rw [here]
    exact iff_of_true (made units) within
  · rw [none]
    exact iff_of_false (fun inRange => inRange _ _ _ rfl) (Nat.not_lt.mpr beyond)

/-- A string is the text of the units at its index. -/
theorem string_eq (record : Record) (index : Nat) :
    record.string index = record.entryAt index >>= CodeUnits.text .string := by
  rw [entryAt, bind_assoc]
  rfl

/-- The size of a string in UTF-8 is that of the units at its index. -/
theorem utf8Size_eq (record : Record) (index : Nat) :
    record.utf8Size index = record.entryAt index >>= CodeUnits.utf8Size .string := by
  rw [entryAt, bind_assoc]
  rfl

/-- A narrow string is the encoded text of the units at its index. -/
theorem narrow_eq (record : Record) (codepage : Codepage) (index : Nat) :
    record.narrow codepage index =
      record.entryAt index >>= fun units => units.text .string >>= codepage.encode := by
  rw [← bind_assoc, ← string_eq, Record.string, bind_assoc]
  rfl

/-- How many strings bytes hold for these fields: one for each zero unit between the offset of the
strings and that of the data, if any strings are declared. -/
def held (bytes : Bytes) (fields : RecordFields) : Nat :=
  if fields.stringCount = 0 then 0
  else (CodeUnits.ofBytes (bytes.slice fields.stringsOffset.toNat
    (fields.dataOffset.toNat - fields.stringsOffset.toNat))).count 0

/-- How many strings a record that was read from bytes has, and for which indices it answers. -/
structure Counts (bytes : Bytes) (record : Record) : Prop where
  /-- There is a table just if any strings are declared. -/
  present : record.strings.isSome = true ↔ record.stringCount ≠ 0
  /-- There are as many strings as the bytes hold. -/
  total : record.stringTotal = held bytes record.toRecordFields
  /-- Each index below that number has a string, if it is a text. -/
  string : ∀ index, InRange (record.string index) ↔ index < record.stringTotal
  /-- Each index below that number has a size in UTF-8. -/
  utf8 : ∀ index, InRange (record.utf8Size index) ↔ index < record.stringTotal
  /-- Each index below that number has a string in a codepage. -/
  narrow : ∀ codepage index,
    InRange (record.narrow codepage index) ↔ index < record.stringTotal
  /-- From that number on every answer is that there is no such index. -/
  beyond : ∀ index, record.stringTotal ≤ index →
    record.string index = .error (.outOfBounds .stringIndex index 1 record.stringTotal) ∧
    record.utf8Size index = .error (.outOfBounds .stringIndex index 1 record.stringTotal) ∧
    ∀ codepage, record.narrow codepage index =
      .error (.outOfBounds .stringIndex index 1 record.stringTotal)

/-- A record that was read has as many strings as its bytes hold. -/
theorem stringTotal_of_decode (decoded : decode bytes = .ok record) :
    (record.strings.isSome = true ↔ record.stringCount ≠ 0) ∧
      record.stringTotal = held bytes record.toRecordFields := by
  obtain ⟨-, -, -, -, strings, fields, -⟩ := decode_eq_ok_iff.mp decoded
  rw [← fields] at strings
  have table := (stringsIn_eq_ok_iff.mp strings).2
  unfold RecordFields.layout at table
  dsimp only at table
  unfold stringTotal held
  by_cases absent : record.stringCount = 0
  · rw [if_pos absent] at table ⊢
    rw [table]
    exact ⟨iff_of_false Bool.noConfusion (not_not_intro absent), rfl⟩
  · rw [if_neg absent] at table ⊢
    rw [table]
    exact ⟨iff_of_true rfl absent, StringTable.size_ofUnits _⟩

/-- A record that was read has as many strings as there are zero units in the region of its strings,
or none if it declares none, and answers for just the indices below that number. -/
theorem counts_of_decode (decoded : decode bytes = .ok record) : Counts bytes record := by
  obtain ⟨present, total⟩ := stringTotal_of_decode decoded
  refine ⟨present, total, ?_, ?_, ?_, ?_⟩
  · intro index
    rw [string_eq]
    exact inRange_entryAt (inRange_text _) record index
  · intro index
    rw [utf8Size_eq]
    exact inRange_entryAt (inRange_utf8Size _) record index
  · intro codepage index
    rw [narrow_eq]
    exact inRange_entryAt (fun units => (inRange_text _ units).bind (inRange_encode codepage))
      record index
  · intro index beyond
    rcases record.entryAt_cases index with ⟨within, -⟩ | ⟨-, none⟩
    · exact absurd within (Nat.not_lt.mpr beyond)
    · refine ⟨?_, ?_, fun codepage => ?_⟩
      · rw [string_eq, none]
        rfl
      · rw [utf8Size_eq, none]
        rfl
      · rw [narrow_eq, none]
        rfl

/-- A record that declares two strings and holds one. -/
def miscountedRecord : Record :=
  { Session.plainRecord 8 with
    size := 68
    stringCount := 2
    dataOffset := 64
    strings := some ⟨[[65]], []⟩ }

/-- The bytes of that record. -/
def miscountedBytes : Bytes :=
  miscountedRecord.toBytes ++ List.replicate 4 0 ++ [0x41, 0x00, 0x00, 0x00] ++ Bytes.ofNat 4 68

/-- The record answers for the string that it holds, and for no other index. -/
theorem miscounted_record_answers : decode miscountedBytes = .ok miscountedRecord ∧
    ∀ index, InRange (miscountedRecord.string index) ↔ index < 1 := by
  have decoded : decode miscountedBytes = .ok miscountedRecord := rfl
  exact ⟨decoded, (counts_of_decode decoded).string⟩

/-- The bytes are an event record. The second string that it declares is not there. -/
theorem miscounted_record_short : decode miscountedBytes = .ok miscountedRecord ∧
    miscountedRecord.stringCount = 2 ∧ miscountedRecord.stringTotal = 1 ∧
    miscountedRecord.string 1 = .error (.outOfBounds .stringIndex 1 1 1) :=
  ⟨rfl, rfl, rfl, rfl⟩

end EventLog.Record
