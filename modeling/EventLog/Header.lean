import EventLog.Error

/-!
# The file header

A log starts with 48 bytes that carry its size on both ends, a signature, and where the oldest
record and the end of the records are. `decode` checks the signature first and the two sizes last.
-/

namespace EventLog

/-- The four bytes that mark the file header and every event record. -/
def logSignature : Bytes := [0x4C, 0x66, 0x4C, 0x65]

/-- What the file header says. -/
structure Header where
  /-- The major version of the format. -/
  majorVersion : UInt32
  /-- The minor version of the format. -/
  minorVersion : UInt32
  /-- Where the oldest record starts. -/
  firstRecordOffset : UInt32
  /-- Where the end of file record starts. -/
  sentinelOffset : UInt32
  /-- The number that the next record will get. -/
  nextRecordNumber : UInt32
  /-- The number of the oldest record. -/
  firstRecordNumber : UInt32
  /-- How large the file may grow. -/
  maximumFileSize : UInt32
  /-- The state flags, kept as they are stored. -/
  flags : UInt32
  /-- How long records are kept, in seconds. -/
  retention : UInt32
  deriving DecidableEq, Repr

namespace Header

/-- The size of a header, which its first and last word repeat. -/
def size : Nat := 48

/-- The known state flags: the number of the bit and the name. -/
def flagTable : List (Nat × String) := [(0, "DIRTY"), (1, "WRAPPED"), (2, "FULL"), (3, "ARCHIVE")]

/-- The names of the known flags that are set. -/
def flagNames (header : Header) : List String :=
  (flagTable.filter fun (bit, _) => header.flags.toNat.testBit bit).map Prod.snd

/-- The log was not closed properly, so that offsets may be stale. -/
def isDirty (header : Header) : Bool := header.flags.toNat.testBit 0

/-- The records have wrapped around. -/
def isWrapped (header : Header) : Bool := header.flags.toNat.testBit 1

/-- The fields of a header at their offsets. -/
def ofFields (bytes : Bytes) : Header where
  majorVersion := bytes.word32 8
  minorVersion := bytes.word32 12
  firstRecordOffset := bytes.word32 16
  sentinelOffset := bytes.word32 20
  nextRecordNumber := bytes.word32 24
  firstRecordNumber := bytes.word32 28
  maximumFileSize := bytes.word32 32
  flags := bytes.word32 36
  retention := bytes.word32 40

/-- Reads a header from the front of the bytes. -/
def decode (bytes : Bytes) : Except DecodeError Header :=
  if bytes.length < size then .error (.truncated .header 0 size bytes.length)
  else if bytes.slice 4 4 ≠ logSignature then
    .error (.signatureMismatch .headerSignature logSignature (bytes.slice 4 4))
  else if (bytes.word32 0).toNat ≠ size then
    .error (.sizeMismatch .headerSize size (bytes.word32 0).toNat)
  else if (bytes.word32 44).toNat ≠ size then
    .error (.sizeMismatch .headerSizeCopy size (bytes.word32 44).toNat)
  else .ok (ofFields bytes)

/-- Bytes that start with a header: it is there as a whole, has the signature and shows its size on
both ends. -/
structure Valid (bytes : Bytes) : Prop where
  /-- The bytes are enough for a header. -/
  long : size ≤ bytes.length
  /-- The signature is that of a log. -/
  signed : bytes.slice 4 4 = logSignature
  /-- The leading size is that of a header. -/
  shown : (bytes.word32 0).toNat = size
  /-- The trailing size is that of a header. -/
  repeated : (bytes.word32 44).toNat = size

/-- A header is read just from bytes that start with one, and holds the fields at their offsets. -/
theorem decode_eq_ok_iff {bytes : Bytes} {header : Header} :
    decode bytes = .ok header ↔ Valid bytes ∧ header = ofFields bytes := by
  unfold decode
  by_cases short : bytes.length < size
  · rw [if_pos short]
    exact ⟨nofun, fun h => absurd h.1.long (Nat.not_le_of_lt short)⟩
  · rw [if_neg short]
    by_cases unsigned : bytes.slice 4 4 ≠ logSignature
    · rw [if_pos unsigned]
      exact ⟨nofun, fun h => absurd h.1.signed unsigned⟩
    · rw [if_neg unsigned]
      by_cases other : (bytes.word32 0).toNat ≠ size
      · rw [if_pos other]
        exact ⟨nofun, fun h => absurd h.1.shown other⟩
      · rw [if_neg other]
        by_cases copy : (bytes.word32 44).toNat ≠ size
        · rw [if_pos copy]
          exact ⟨nofun, fun h => absurd h.1.repeated copy⟩
        · rw [if_neg copy, Except.ok.injEq, eq_comm]
          have valid : Valid bytes :=
            ⟨Nat.le_of_not_lt short, Decidable.not_not.mp unsigned, Decidable.not_not.mp other,
              Decidable.not_not.mp copy⟩
          exact ⟨fun same => ⟨valid, same⟩, fun h => h.2⟩

/-- The bytes of a header. -/
def encode (header : Header) : Bytes :=
  Bytes.ofNat 4 size ++ logSignature ++ Bytes.ofWord32 header.majorVersion ++
    Bytes.ofWord32 header.minorVersion ++ Bytes.ofWord32 header.firstRecordOffset ++
    Bytes.ofWord32 header.sentinelOffset ++ Bytes.ofWord32 header.nextRecordNumber ++
    Bytes.ofWord32 header.firstRecordNumber ++ Bytes.ofWord32 header.maximumFileSize ++
    Bytes.ofWord32 header.flags ++ Bytes.ofWord32 header.retention ++ Bytes.ofNat 4 size

end Header

end EventLog
