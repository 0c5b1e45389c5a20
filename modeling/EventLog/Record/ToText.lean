import EventLog.Codepage
import EventLog.Hexdump
import EventLog.Json
import EventLog.Record

/-!
# Records as text

A record becomes lines of a label and a value, and a hexdump of its binary data. The text is a byte
string, because names and strings can be asked for in a codepage; one that the codepage cannot
hold is written in UTF-8, and one that is no text is left empty. So only the security identifier can
make the rendering fail.
-/

namespace EventLog.Record

/-- A text in UTF-8. -/
def utf8 (text : String) : Bytes := text.toUTF8.data.toList

/-- The bytes of a name or string, in the codepage if one is asked for. -/
def fieldBytes (codepage : Option Codepage) (field : Except DecodeError String) : Bytes :=
  match field, codepage with
  | .error _, _ => []
  | .ok text, none => utf8 text
  | .ok text, some codepage =>
    match codepage.encode text with
    | .ok bytes => bytes
    | .error _ => utf8 text

/-- A line of a label and a value. -/
def textLine (label : String) (value : Bytes) : Bytes := utf8 (label ++ ": ") ++ value ++ [0x0A]

/-- The value of the line for the event identifier. -/
def identifierText (id : EventId) : String :=
  Hex.literal 8 id.value.toNat ++ " (code " ++ Json.digits id.code ++ ", severity " ++
    id.severity.name ++ ")"

/-- The value of the line for the event kind. -/
def kindText (kind : EventKind) : String :=
  kind.text ++ " (" ++ Hex.literal 4 kind.bits.toNat ++ ")"

/-- The lines of the numbers and times at the front of a record. -/
def numberLines (record : Record) : Bytes :=
  textLine "Event number\t\t\t" (utf8 (Json.digits record.number.toNat)) ++
    textLine "Creation time\t\t\t" (utf8 record.created.text) ++
    textLine "Written time\t\t\t" (utf8 record.written.text) ++
    textLine "Event identifier\t\t" (utf8 (identifierText record.identifier)) ++
    textLine "Event type\t\t\t" (utf8 (kindText record.kind)) ++
    textLine "Event category\t\t\t" (utf8 (Json.digits record.category.toNat))

/-- The lines of the names. -/
def nameLines (record : Record) (codepage : Option Codepage) : Bytes :=
  textLine "Source name\t\t\t" (fieldBytes codepage record.sourceText) ++
    textLine "Computer name\t\t\t" (fieldBytes codepage record.computerText)

/-- The line of the user's security identifier; none without one. -/
def sidLine (sid : Option Sid) : Bytes :=
  sid.elim [] fun s => textLine "User security identifier\t" (utf8 s.text)

/-- The lines of the strings, numbered from one, under their number. -/
def stringLines (record : Record) (codepage : Option Codepage) : Bytes :=
  textLine "Number of strings\t\t" (utf8 (Json.digits record.stringTotal)) ++
    (record.texts.mapIdx fun i text =>
      textLine ("String: " ++ Json.digits (i + 1) ++ "\t\t\t") (fieldBytes codepage text)).flatten

/-- The lines of the binary data; none without any. -/
def dataLines (record : Record) : Bytes :=
  if record.data.isEmpty then [] else utf8 ("Data\t\t\t\t:\n" ++ Hexdump.render record.data 0)

/-- The text of a record, with names and strings in a codepage if one is given. -/
def textBytes (record : Record) (codepage : Option Codepage) : Except DecodeError Bytes :=
  record.sid.map fun sid =>
    record.numberLines ++ record.nameLines codepage ++ sidLine sid ++
      record.stringLines codepage ++ record.dataLines

end EventLog.Record
