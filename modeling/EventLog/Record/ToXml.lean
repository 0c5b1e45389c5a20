import EventLog.Record.ToJson
import EventLog.Xml

/-!
# Records as XML

A record becomes one element `Event` with the numbers and names under `System` and the strings and
binary data under `EventData`. The names and the security identifier are decoded before anything is
written, but a string only when its turn comes: a string that is no text leaves the elements open
that were started before it.
-/

namespace EventLog.Record

open Xml (Piece Writer)

/-- An element that holds nothing but text. -/
def textElement (name : String) (attributes : List (String × String)) (content : String) :
    List Piece :=
  [.start name attributes, .text content, .stop name]

/-- The pieces up to the strings. -/
def systemPieces (record : Record) (source computer : String) (sid : Option Sid) : List Piece :=
  [.start "Event" [], .start "System" [], .empty "Provider" [("Name", source)]] ++
    textElement "EventID" [("Qualifiers", Json.digits record.identifier.qualifiers)]
      (Json.digits record.identifier.code) ++
    textElement "Level" [] record.kind.text ++
    textElement "Task" [] (Json.digits record.category.toNat) ++
    [.empty "TimeCreated" [("SystemTime", record.created.text)],
      .empty "TimeWritten" [("SystemTime", record.written.text)]] ++
    textElement "EventRecordID" [] (Json.digits record.number.toNat) ++
    textElement "Computer" [] computer ++
    [.empty "Security" (sid.elim [] fun s => [("UserID", s.text)]), .stop "System",
      .start "EventData" []]

/-- The pieces of the strings up to the first that is no text, and the error of that one. -/
def stringPieces : List (Except DecodeError String) → List Piece × Option DecodeError
  | [] => ([], none)
  | .error e :: _ => ([], some e)
  | .ok text :: rest =>
    let (pieces, failure) := stringPieces rest
    (textElement "Data" [] text ++ pieces, failure)

/-- The pieces after the strings. -/
def closingPieces (record : Record) : List Piece :=
  (if record.data.isEmpty then [] else textElement "Binary" [] record.hexData) ++
    [.stop "EventData", .stop "Event"]

/-- The pieces of a record, and the error of a string that ends them early. -/
def pieces (record : Record) : Except RenderError (List Piece × Option DecodeError) := do
  let source ← reading record.sourceText
  let computer ← reading record.computerText
  let sid ← reading record.sid
  let front := record.systemPieces source computer sid
  match stringPieces record.texts with
  | (middle, some failure) => return (front ++ middle, some failure)
  | (middle, none) => return (front ++ middle ++ record.closingPieces, none)

/-- Writes a record: how that ended, and the writer afterwards. -/
def writeXml (record : Record) (writer : Writer) : Except RenderError Unit × Writer :=
  match record.pieces with
  | .error e => (.error e, writer)
  | .ok (pieces, failure) =>
    match writer.writeAll pieces with
    | .error e => (.error e, writer)
    | .ok writer =>
      match failure with
      | some e => (.error (.field e), writer)
      | none => (.ok (), writer)

/-- The XML text of a record. -/
def xmlText (record : Record) (indent : Bool) : Except RenderError String :=
  match record.writeXml (.new indent none) with
  | (.ok (), writer) => .ok writer.written
  | (.error e, _) => .error e

end EventLog.Record
