import EventLog.Record.ToXml

/-!
# Records in one document

Records can be written one after the other by the same writer. A record that cannot be rendered does
not end the document, and the ones after it are written all the same; a record that the target
refuses does, for the target may have taken a part of it.
-/

namespace EventLog.Record

open Xml (Writer)

/-- What became of records that were written by one writer. -/
structure Stream where
  /-- How the writing of each record ended, up to the first that the target refused. -/
  results : List (Except RenderError Unit)
  /-- The writer afterwards; none if the target refused a record. -/
  writer : Option Writer

/-- Writes records one after the other, up to the first that the target refuses. -/
def stream : List Record → Writer → Stream
  | [], writer => ⟨[], some writer⟩
  | record :: rest, writer =>
    match record.writeXml writer with
    | (.error (.output reason), _) => ⟨[.error (.output reason)], none⟩
    | (result, writer) =>
      let later := stream rest writer
      ⟨result :: later.results, later.writer⟩

end EventLog.Record
