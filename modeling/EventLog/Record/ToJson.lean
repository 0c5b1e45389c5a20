import EventLog.Json
import EventLog.Record

/-!
# Records as JSON

A record becomes one object `Event` with the numbers and names under `System` and the strings and
binary data under `EventData`. A field that cannot be decoded makes the rendering fail: the security
identifier first, then the names, then the first string that is no text.
-/

namespace EventLog.Record

/-- Reads a field for rendering. -/
def reading {α : Type} (field : Except DecodeError α) : Except RenderError α :=
  field.mapError .field

/-- The binary data in upper-case hexadecimal. -/
def hexData (record : Record) : String := String.ofList (Hex.bytes .upper record.data)

/-- The part of the value that describes the event. -/
def systemJson (record : Record) (source computer : String) (sid : Option Sid) : Json :=
  .object [
    ("Provider", .object [("Name", .string source)]),
    ("EventID", .object [
      ("Qualifiers", .number record.identifier.qualifiers),
      ("Value", .number record.identifier.code)]),
    ("Severity", .string record.identifier.severity.name),
    ("Level", .string record.kind.text),
    ("Task", .number record.category.toNat),
    ("TimeCreated", .object [("SystemTime", .string record.created.text)]),
    ("TimeWritten", .object [("SystemTime", .string record.written.text)]),
    ("EventRecordID", .number record.number.toNat),
    ("Computer", .string computer),
    ("Security", .object [
      ("UserID", (sid.map fun s => Json.string s.text).getD .null)])]

/-- The part of the value that holds strings and, if there are any, binary data. -/
def dataJson (record : Record) (texts : List String) : Json :=
  .object (("Data", .array (texts.map .string)) ::
    if record.data.isEmpty then [] else [("Binary", .string record.hexData)])

/-- The JSON value of a record. -/
def toJson (record : Record) : Except RenderError Json := do
  let sid ← reading record.sid
  let source ← reading record.sourceText
  let computer ← reading record.computerText
  let texts ← reading (record.texts.mapM id)
  return .object [("Event", .object [
    ("System", record.systemJson source computer sid),
    ("EventData", record.dataJson texts)])]

/-- The JSON text of a record. -/
def jsonText (record : Record) (indent : Bool) : Except RenderError String :=
  record.toJson.map (Json.render indent)

end EventLog.Record
