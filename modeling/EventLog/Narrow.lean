import EventLog.Codepage
import EventLog.Record

/-!
# Narrow strings of records

The names and strings of a record in the bytes of a codepage. What is no text fails as text does,
before the codepage is asked.
-/

namespace EventLog

namespace StringTable

/-- The string at an index, in the bytes of a codepage. -/
def narrow (table : StringTable) (codepage : Codepage) (index : Nat) : Except DecodeError Bytes :=
  table.text index >>= codepage.encode

end StringTable

namespace Record

/-- The name of the source, in the bytes of a codepage. -/
def narrowSource (record : Record) (codepage : Codepage) : Except DecodeError Bytes :=
  record.sourceText >>= codepage.encode

/-- The name of the computer, in the bytes of a codepage. -/
def narrowComputer (record : Record) (codepage : Codepage) : Except DecodeError Bytes :=
  record.computerText >>= codepage.encode

/-- The string at an index, in the bytes of a codepage. -/
def narrow (record : Record) (codepage : Codepage) (index : Nat) : Except DecodeError Bytes :=
  record.tableFor index >>= fun table => table.narrow codepage index

end Record

end EventLog
