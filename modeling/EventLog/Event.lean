import EventLog.Record

/-!
# Events as a log writer stores them

An event is what a log writer is given to store. `encode` lays it out as a record: the fixed part,
the two names, the security identifier, the strings, the binary data, zero bytes up to a multiple of
four, and the size once more. Every region starts where the one before ends, so that an absent
security identifier has the offset of the strings. `length_encode` says that the record has the size
that it declares, as long as that fits into a word.
-/

namespace EventLog

/-- An event that is to be stored. -/
structure Event where
  /-- The number that its record gets. -/
  number : UInt32
  /-- When the event happened. -/
  created : Timestamp
  /-- When the record is written. -/
  written : Timestamp
  /-- Which event it is. -/
  identifier : EventId
  /-- What kind of event it is. -/
  kind : EventKind
  /-- The category that the source gave to the event. -/
  category : UInt16
  /-- Reserved flags. -/
  flags : UInt16
  /-- The number of the last record of a group of records. -/
  closingNumber : UInt32
  /-- The name of the source. -/
  sourceName : String
  /-- The name of the computer. -/
  computerName : String
  /-- The bytes of the user's security identifier. -/
  sidBytes : Option Bytes
  /-- The strings. -/
  strings : List String
  /-- The binary data; empty if there is none. -/
  data : Bytes
  deriving DecidableEq, Repr

namespace Event

/-- The bytes of a text with the zero unit that ends it. -/
def encodeText (text : String) : Bytes := StringTable.encodeEntry (CodeUnits.encode text.toList)

/-- The region of the two names. -/
def members (event : Event) : Bytes := encodeText event.sourceName ++ encodeText event.computerName

/-- The region of the security identifier; empty if there is none. -/
def sid (event : Event) : Bytes := event.sidBytes.getD []

/-- The region of the strings; empty if there are none. -/
def packed (event : Event) : Bytes := event.strings.flatMap encodeText

/-- Where the security identifier stands, or would. -/
def sidOffset (event : Event) : Nat := RecordFields.width + event.members.length

/-- Where the strings stand, or would. -/
def stringsOffset (event : Event) : Nat := event.sidOffset + event.sid.length

/-- Where the binary data stands, or would. -/
def dataOffset (event : Event) : Nat := event.stringsOffset + event.packed.length

/-- How many zero bytes follow the binary data, so that the size is a multiple of four. -/
def padding (event : Event) : Nat := (4 - (event.dataOffset + event.data.length) % 4) % 4

/-- The size of the whole record. -/
def size (event : Event) : Nat := event.dataOffset + event.data.length + event.padding + 4

/-- The fixed part of the record. -/
def fields (event : Event) : RecordFields where
  size := .ofNat event.size
  number := event.number
  created := event.created
  written := event.written
  identifier := event.identifier
  kind := event.kind
  stringCount := .ofNat event.strings.length
  category := event.category
  flags := event.flags
  closingNumber := event.closingNumber
  stringsOffset := .ofNat event.stringsOffset
  sidSize := .ofNat event.sid.length
  sidOffset := .ofNat event.sidOffset
  dataSize := .ofNat event.data.length
  dataOffset := .ofNat event.dataOffset

/-- The bytes of the record. -/
def encode (event : Event) : Bytes :=
  event.fields.toBytes ++ event.members ++ event.sid ++ event.packed ++ event.data ++
    List.replicate event.padding 0 ++ Bytes.ofNat 4 event.size

/-- A record is as long as its size says. -/
theorem length_encode (event : Event) : event.encode.length = event.size := by
  simp only [encode, size, dataOffset, stringsOffset, sidOffset, List.length_append,
    RecordFields.length_toBytes, List.length_replicate, Bytes.length_ofNat]

/-- A record that fits into 32 bits declares the size that it has. -/
theorem toNat_size_fields (event : Event) (h : event.size < UInt32.size) :
    event.fields.size.toNat = event.encode.length := by
  rw [length_encode]
  exact UInt32.toNat_ofNat_of_lt' h

end Event

end EventLog
