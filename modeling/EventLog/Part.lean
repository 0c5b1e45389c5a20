/-!
# The parts of a log that an error can name

One name per structure, field or region that decoding can fail on, and the label under which an
error message mentions it.
-/

namespace EventLog

/-- A structure, field or region that decoding can fail on. -/
inductive Part where
  /-- The 48 bytes at the start of the file. -/
  | header
  /-- The leading size of the header. -/
  | headerSize
  /-- The signature of the header. -/
  | headerSignature
  /-- The trailing size of the header. -/
  | headerSizeCopy
  /-- The 40 bytes that end the record region. -/
  | sentinel
  /-- The leading size of the end of file record. -/
  | sentinelSize
  /-- One of the four signatures of the end of file record, counted from one. -/
  | sentinelSignature (position : Nat)
  /-- The trailing size of the end of file record. -/
  | sentinelSizeCopy
  /-- The fixed part of an event record with its trailing size. -/
  | record
  /-- The leading size of an event record. -/
  | recordSize
  /-- The signature of an event record. -/
  | recordSignature
  /-- The trailing size of an event record. -/
  | recordSizeCopy
  /-- The region of an event record that holds the two names. -/
  | members
  /-- The name of the source of an event. -/
  | sourceName
  /-- The name of the computer of an event. -/
  | computerName
  /-- The region of an event record that holds the user's security identifier. -/
  | userSid
  /-- The region of an event record that holds its strings. -/
  | strings
  /-- The region of an event record that holds its binary data. -/
  | data
  /-- A packed table of strings. -/
  | stringTable
  /-- The index of a string in a table. -/
  | stringIndex
  /-- One string of a table. -/
  | string
  /-- The revision byte of a security identifier. -/
  | sidRevision
  /-- The count byte of a security identifier. -/
  | sidCount
  /-- The authority bytes of a security identifier. -/
  | sidAuthority
  /-- The list of sub-authorities of a security identifier. -/
  | sidSubAuthorities
  /-- The circular region of records. -/
  | ring
  /-- The bytes of one record in the ring. -/
  | ringRecord
  /-- The bytes of a record that continue after the file header. -/
  | wrappedRecord
  /-- The size that a record in the ring declares. -/
  | declaredSize
  /-- The offset of the oldest record in the header. -/
  | firstRecordOffset
  /-- One of the blocks that recovery searches. -/
  | recoveryBlock
  deriving DecidableEq, Repr

/-- The label of a part in an error message. -/
def Part.label : Part → String
  | header => "file header"
  | headerSize => "file header size"
  | headerSignature => "file header signature"
  | headerSizeCopy => "file header copy_of_size"
  | sentinel => "end of file record"
  | sentinelSize => "end of file record size"
  | sentinelSignature position => "end of file record signature" ++ toString position
  | sentinelSizeCopy => "end of file record copy_of_size"
  | record => "event record"
  | recordSize => "event record size"
  | recordSignature => "event record signature"
  | recordSizeCopy => "event record copy_of_size"
  | members => "members"
  | sourceName => "source_name"
  | computerName => "computer_name"
  | userSid => "user security identifier"
  | strings => "strings"
  | data => "data"
  | stringTable => "strings array"
  | stringIndex => "strings array index"
  | string => "strings array string"
  | sidRevision => "sid revision"
  | sidCount => "sid sub authority count"
  | sidAuthority => "sid identifier authority"
  | sidSubAuthorities => "sid sub authorities"
  | ring => "record ring"
  | ringRecord => "record"
  | wrappedRecord => "wrapped record"
  | declaredSize => "record size"
  | firstRecordOffset => "first_record_offset"
  | recoveryBlock => "recovery block"

end EventLog
