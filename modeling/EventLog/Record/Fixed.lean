import EventLog.EventId
import EventLog.Header
import EventLog.Timestamp

/-!
# The fixed part of an event record

The first 56 bytes of an event record hold its numbers, and the offsets and sizes of the regions
that follow. Offsets count from the start of the record.
-/

namespace EventLog

/-- The numbers at the start of an event record. -/
structure RecordFields where
  /-- The size of the whole record. -/
  size : UInt32
  /-- The number of the record. -/
  number : UInt32
  /-- When the event happened. -/
  created : Timestamp
  /-- When the record was written. -/
  written : Timestamp
  /-- Which event it is. -/
  identifier : EventId
  /-- What kind of event it is. -/
  kind : EventKind
  /-- How many strings the record declares. -/
  stringCount : UInt16
  /-- The category that the source gave to the event. -/
  category : UInt16
  /-- Reserved flags. -/
  flags : UInt16
  /-- The number of the last record of a group of records. -/
  closingNumber : UInt32
  /-- Where the strings start. -/
  stringsOffset : UInt32
  /-- The size of the user's security identifier; zero if there is none. -/
  sidSize : UInt32
  /-- Where the user's security identifier starts. -/
  sidOffset : UInt32
  /-- The size of the binary data; zero if there is none. -/
  dataSize : UInt32
  /-- Where the binary data starts. -/
  dataOffset : UInt32
  deriving DecidableEq, Repr

namespace RecordFields

/-- How many bytes the fixed part takes. -/
def width : Nat := 56

/-- The fields at their offsets. -/
def ofBytes (bytes : Bytes) : RecordFields where
  size := bytes.word32 0
  number := bytes.word32 8
  created := bytes.word32 12
  written := bytes.word32 16
  identifier := ⟨bytes.word32 20⟩
  kind := ⟨bytes.word16 24⟩
  stringCount := bytes.word16 26
  category := bytes.word16 28
  flags := bytes.word16 30
  closingNumber := bytes.word32 32
  stringsOffset := bytes.word32 36
  sidSize := bytes.word32 40
  sidOffset := bytes.word32 44
  dataSize := bytes.word32 48
  dataOffset := bytes.word32 52

/-- The bytes of the fixed part, with the signature after the size. -/
def toBytes (fields : RecordFields) : Bytes :=
  Bytes.ofWord32 fields.size ++ logSignature ++ Bytes.ofWord32 fields.number ++
    Bytes.ofWord32 fields.created ++ Bytes.ofWord32 fields.written ++
    Bytes.ofWord32 fields.identifier.value ++ Bytes.ofWord16 fields.kind.bits ++
    Bytes.ofWord16 fields.stringCount ++ Bytes.ofWord16 fields.category ++
    Bytes.ofWord16 fields.flags ++ Bytes.ofWord32 fields.closingNumber ++
    Bytes.ofWord32 fields.stringsOffset ++ Bytes.ofWord32 fields.sidSize ++
    Bytes.ofWord32 fields.sidOffset ++ Bytes.ofWord32 fields.dataSize ++
    Bytes.ofWord32 fields.dataOffset

/-- The fixed part takes as many bytes as it should. -/
@[simp] theorem length_toBytes (fields : RecordFields) : fields.toBytes.length = width := by
  simp [toBytes, width, Bytes.ofWord32, Bytes.ofWord16, logSignature]

/-- Writing the fields of a long enough and signed byte string gives its front back. -/
theorem toBytes_ofBytes {bytes : Bytes} (long : width ≤ bytes.length)
    (signed : bytes.slice 4 4 = logSignature) : (ofBytes bytes).toBytes = bytes.take width := by
  rw [width] at long ⊢
  have word32 {offset : Nat} (room : offset + 4 ≤ 56) :
      Bytes.ofWord32 (bytes.word32 offset) = bytes.slice offset 4 :=
    Bytes.ofWord32_word32 (Nat.le_trans room long)
  have word16 {offset : Nat} (room : offset + 2 ≤ 56) :
      Bytes.ofWord16 (bytes.word16 offset) = bytes.slice offset 2 :=
    Bytes.ofWord16_word16 (Nat.le_trans room long)
  have join (first second : Nat) :
      bytes.slice 0 first ++ bytes.slice first second = bytes.slice 0 (first + second) := by
    rw [← Bytes.append_slice, Nat.zero_add]
  simp only [toBytes, ofBytes, ← signed]
  rw [word32 (by decide), word32 (by decide), word32 (by decide), word32 (by decide),
    word32 (by decide), word32 (by decide), word32 (by decide), word32 (by decide),
    word32 (by decide), word32 (by decide), word32 (by decide), word16 (by decide),
    word16 (by decide), word16 (by decide), word16 (by decide)]
  simp only [join, Nat.reduceAdd]
  rw [Bytes.slice, List.drop_zero]

/-- Reading the fields from their bytes, whatever follows, gives them back. -/
theorem ofBytes_toBytes_append (fields : RecordFields) (rest : Bytes) :
    ofBytes (fields.toBytes ++ rest) = fields := by
  have signature : logSignature.length = 4 := rfl
  simp only [ofBytes, toBytes, List.append_assoc, Bytes.word32_append_right,
    Bytes.word16_append_right, Bytes.length_ofWord32, Bytes.length_ofWord16, signature,
    Nat.reduceLeDiff, Nat.reduceSub, Bytes.word32_ofWord32_append, Bytes.word16_ofWord16_append]

/-- The signature stands after the size. -/
theorem slice_toBytes_append (fields : RecordFields) (rest : Bytes) :
    Bytes.slice (fields.toBytes ++ rest) 4 4 = logSignature := by
  simp only [toBytes, List.append_assoc]
  exact Bytes.slice_between (Bytes.length_ofWord32 _) logSignature _

/-- Where the region of the names ends: the next region starts there, which is the security
identifier if there is one. -/
def membersEnd (fields : RecordFields) : Nat :=
  if fields.sidSize ≠ 0 then fields.sidOffset.toNat else fields.stringsOffset.toNat

/-- Where all regions end: the trailing copy of the size takes the last four bytes. -/
def limit (fields : RecordFields) : Nat := fields.size.toNat - 4

end RecordFields

end EventLog
