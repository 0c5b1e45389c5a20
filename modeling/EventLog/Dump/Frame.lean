import EventLog.Dump.Arguments
import EventLog.Record.ToText
import EventLog.Record.ToXml
import EventLog.Session

/-!
# Framing records in the output

The records of a log follow each other in the output, each in a frame of its own: a line that
announces its number, the record in the form asked for, and the end of a line. A record that cannot
be rendered leaves nothing in the output and one line among the diagnostics.
-/

namespace EventLog.Dump

/-- How records are written. -/
structure Style where
  /-- The form of a record. -/
  format : Format
  /-- Records are indented. -/
  indent : Bool
  /-- Records are announced by their number. -/
  numbered : Bool
  /-- The codepage of text; none if text is to be UTF-8. -/
  codepage : Option Codepage
  deriving DecidableEq, Repr

/-- The form that options ask for. -/
def Options.form (options : Options) : Format := options.format.getD .text

/-- The style that options ask for. Lines of JSON hold nothing but the records. -/
def Options.style (options : Options) (codepage : Option Codepage) : Style where
  format := options.form
  indent := !options.flat && options.form != .jsonLines
  numbered := !options.hideNumbers && options.form != .jsonLines
  codepage := codepage

/-- Where the records of a log come from. -/
inductive Origin where
  /-- They were met on the walk. -/
  | walked
  /-- They were recovered. -/
  | recovered
  deriving DecidableEq, Repr

/-- What the line that announces a record starts with. -/
def Origin.label : Origin → String
  | walked => "Record"
  | recovered => "Recovered record"

/-- What is written: bytes of output, and text of diagnostics. -/
structure Written where
  /-- The output. -/
  output : Bytes
  /-- The diagnostics. -/
  diagnostics : String
  deriving DecidableEq, Repr

namespace Written

/-- Nothing written. -/
def nothing : Written := ⟨[], ""⟩

/-- One thing written after another. -/
def append (first second : Written) : Written :=
  ⟨first.output ++ second.output, first.diagnostics ++ second.diagnostics⟩

/-- All written in order. -/
def all (parts : List Written) : Written := parts.foldr append nothing

/-- The output of all is the output of each, in order. -/
theorem output_all (parts : List Written) : (all parts).output = parts.flatMap (·.output) := by
  induction parts with
  | nil => rfl
  | cons first rest ih =>
    have step : (all (first :: rest)).output = first.output ++ (all rest).output := rfl
    rw [step, ih, List.flatMap_cons]

/-- The diagnostics of all are the diagnostics of each, in order. -/
theorem diagnostics_all (parts : List Written) :
    (all parts).diagnostics = String.join (parts.map (·.diagnostics)) := by
  induction parts with
  | nil => rfl
  | cons first rest ih =>
    have step : (all (first :: rest)).diagnostics = first.diagnostics ++ (all rest).diagnostics :=
      rfl
    rw [step, ih, List.map_cons, String.join_cons]

end Written

/-- The bytes of a record in a style, or the wording of why it cannot be rendered. -/
def Style.render (style : Style) (record : Record) : Except String Bytes :=
  match style.format with
  | .text => (record.textBytes style.codepage).mapError DecodeError.message
  | .json | .jsonLines =>
    ((record.jsonText style.indent).map Record.utf8).mapError RenderError.message
  | .xml => ((record.xmlText style.indent).map Record.utf8).mapError RenderError.message

/-- The line that announces a record. -/
def Style.announcement (style : Style) (origin : Origin) (record : Record) : Bytes :=
  if style.numbered then
    Record.utf8 (origin.label ++ " " ++ Json.digits record.number.toNat ++ "\n")
  else []

/-- The line among the diagnostics for a record that cannot be rendered. -/
def complaint (record : Record) (reason : String) : String :=
  "Failed to render record " ++ Json.digits record.number.toNat ++ " at offset " ++
    Json.digits record.offset ++ ": " ++ reason ++ "\n"

/-- What is written for a record. -/
def Style.frame (style : Style) (origin : Origin) (record : Record) : Written :=
  match style.render record with
  | .ok bytes => ⟨style.announcement origin record ++ bytes ++ [0x0A], ""⟩
  | .error reason => ⟨[], complaint record reason⟩

/-- The line among the diagnostics for a walk that met bytes it could not go on from. -/
def corruption : Outcome → String
  | .corrupted offset error =>
    "Log is corrupted at offset " ++ Json.digits offset ++
      ", only part of the records could be read: " ++ error.message ++ "\n"
  | _ => ""

/-- What is written for an opened log: the records of the walk, then the recovered ones. -/
def Style.dump (style : Style) (session : Session) : Written :=
  .append ⟨[], corruption session.outcome⟩
    (.all (session.records.map (style.frame .walked) ++
      session.recovered.map (style.frame .recovered)))

end EventLog.Dump
