import EventLog.Dump.Frame
import EventLog.Proofs.RecordXml
import EventLog.Xml.Progress
import Mathlib.Data.Set.List

/-!
# Which records can be rendered

The fields of a record are decoded when it is rendered, and the renderings decode them in different
orders: JSON starts with the security identifier, XML with the names, and XML has written half of
its text when a string turns out to be none. Even so they agree: a record renders as JSON just if it
renders as XML, which is just if all of its fields can be decoded (`Legible`), and an error is that
of a field that cannot (`Illegible`). The plain text decodes strings one by one and notes what is
wrong with each, so that only the security identifier can keep it from rendering.
-/

namespace EventLog.Record

open Xml (Piece Writer)

/-- All fields of the record that are decoded for rendering can be decoded. -/
structure Legible (record : Record) : Prop where
  /-- The security identifier is as long as it says, if there is one. -/
  sid : ∀ bytes ∈ record.sidBytes, Sid.Whole bytes
  /-- The name of the source is a text. -/
  source : record.sourceName.IsText
  /-- The name of the computer is a text. -/
  computer : record.computerName.IsText
  /-- Every string is a text. -/
  strings : ∀ table ∈ record.strings, ∀ units ∈ table.entries, units.IsText

/-- The errors of the fields of a record that cannot be decoded. -/
inductive Illegible (record : Record) : DecodeError → Prop
  /-- The security identifier is cut short. -/
  | sid {bytes : Bytes} (present : bytes ∈ record.sidBytes) (short : ¬Sid.Whole bytes)
    {cause : DecodeError} (failed : Sid.decode bytes = .error cause) : Illegible record cause
  /-- The name of the source is no text. -/
  | source (broken : ¬record.sourceName.IsText) : Illegible record (.invalidText .sourceName)
  /-- The name of the computer is no text. -/
  | computer (broken : ¬record.computerName.IsText) : Illegible record (.invalidText .computerName)
  /-- A string is no text. -/
  | string {table : StringTable} (present : table ∈ record.strings) {units : CodeUnits}
    (member : units ∈ table.entries) (broken : ¬units.IsText) : Illegible record (.invalidText .string)

variable {record : Record}

/-- A record of which a field cannot be decoded is not legible. -/
theorem Illegible.not_legible {cause : DecodeError} (illegible : record.Illegible cause) :
    ¬record.Legible := by
  intro legible
  cases illegible with
  | sid present short failed => exact short (legible.sid _ present)
  | source broken => exact broken legible.source
  | computer broken => exact broken legible.computer
  | string present member broken => exact broken (legible.strings _ present _ member)

/-- The security identifier is decoded just if it is whole or there is none. -/
theorem exists_sid_iff :
    (∃ sid, record.sid = .ok sid) ↔ ∀ bytes ∈ record.sidBytes, Sid.Whole bytes := by
  unfold Record.sid
  cases record.sidBytes with
  | none => exact ⟨fun _ => nofun, fun _ => ⟨none, rfl⟩⟩
  | some bytes =>
    simp only [map_eq_ok_iff, Option.mem_def, Option.some.injEq, forall_eq', Sid.whole_iff]
    constructor
    · rintro ⟨_, sid, decoded, -⟩
      exact ⟨sid, decoded⟩
    · rintro ⟨sid, decoded⟩
      exact ⟨some sid, sid, decoded, rfl⟩

/-- A security identifier that is not decoded is cut short. -/
theorem illegible_of_sid {cause : DecodeError} (failed : record.sid = .error cause) :
    ∃ bytes ∈ record.sidBytes, ¬Sid.Whole bytes ∧ Sid.decode bytes = .error cause := by
  unfold Record.sid at failed
  cases present : record.sidBytes with
  | none =>
    rw [present] at failed
    cases failed
  | some bytes =>
    rw [present] at failed
    have failed' : Sid.decode bytes = .error cause := map_eq_error_iff.mp failed
    refine ⟨bytes, rfl, ?_, failed'⟩
    intro whole
    obtain ⟨sid, decoded⟩ := Sid.whole_iff.mp whole
    rw [decoded] at failed'
    cases failed'

/-- A result among those of the strings is that of the units of one of them. -/
theorem mem_texts_iff {result : Except DecodeError String} :
    result ∈ record.texts ↔
      ∃ table ∈ record.strings, ∃ units ∈ table.entries, units.text .string = result := by
  unfold Record.texts
  cases record.strings with
  | none => simp only [Option.map_none, Option.getD_none, List.not_mem_nil, Option.not_mem_none,
      false_and, exists_false]
  | some table =>
    simp only [Option.map_some, Option.getD_some, StringTable.texts, List.mem_map, Option.mem_def,
      Option.some.injEq, exists_eq_left']

/-- All strings are read just if each of them is a text. -/
theorem exists_texts_iff :
    (∃ texts : List String, record.texts = texts.map .ok) ↔
      ∀ table ∈ record.strings, ∀ units ∈ table.entries, units.IsText := by
  constructor
  · rintro ⟨texts, all⟩ table present units member
    have read : units.text .string ∈ record.texts :=
      mem_texts_iff.mpr ⟨table, present, units, member, rfl⟩
    rw [all] at read
    obtain ⟨text, -, same⟩ := List.mem_map.mp read
    exact CodeUnits.isText_iff.mpr ⟨text, same.symm⟩
  · intro whole
    have each : ∀ result ∈ record.texts, ∃ text, Except.ok text = result := by
      intro result member
      obtain ⟨table, present, units, listed, rfl⟩ := mem_texts_iff.mp member
      obtain ⟨text, read⟩ : ∃ text, units.text .string = .ok text :=
        CodeUnits.isText_iff.mp (whole table present units listed)
      exact ⟨text, read.symm⟩
    have mapped : record.texts ∈ Set.range (List.map Except.ok) := by
      rw [Set.range_list_map]
      exact each
    obtain ⟨texts, all⟩ := mapped
    exact ⟨texts, all.symm⟩

/-- A record is legible just if all of its fields are decoded. -/
theorem legible_iff :
    record.Legible ↔ ∃ source computer sid texts, record.sourceText = .ok source ∧
      record.computerText = .ok computer ∧ record.sid = .ok sid ∧
      record.texts = List.map .ok texts := by
  constructor
  · intro legible
    obtain ⟨source, named⟩ : ∃ source, record.sourceText = .ok source :=
      CodeUnits.isText_iff.mp legible.source
    obtain ⟨computer, named'⟩ : ∃ computer, record.computerText = .ok computer :=
      CodeUnits.isText_iff.mp legible.computer
    obtain ⟨sid, identified⟩ := exists_sid_iff.mpr legible.sid
    obtain ⟨texts, all⟩ := exists_texts_iff.mpr legible.strings
    exact ⟨source, computer, sid, texts, named, named', identified, all⟩
  · rintro ⟨source, computer, sid, texts, named, named', identified, all⟩
    exact ⟨exists_sid_iff.mp ⟨sid, identified⟩, CodeUnits.isText_iff.mpr ⟨source, named⟩,
      CodeUnits.isText_iff.mpr ⟨computer, named'⟩, exists_texts_iff.mp ⟨texts, all⟩⟩

/-- A string that is not read is no text. -/
theorem illegible_of_texts {cause : DecodeError} (failed : .error cause ∈ record.texts) :
    record.Illegible cause := by
  obtain ⟨table, present, units, member, unread⟩ := mem_texts_iff.mp failed
  obtain ⟨broken, rfl⟩ := CodeUnits.text_eq_error unread
  exact .string present member broken

/-- A field that is not decoded makes the rendering fail with its error. -/
theorem reading_eq_error {α : Type} {field : Except DecodeError α} {error : RenderError}
    (failed : reading field = .error error) :
    ∃ cause, error = .field cause ∧ field = .error cause := by
  obtain ⟨cause, unread, rfl⟩ := mapError_eq_error_iff.mp failed
  exact ⟨cause, rfl, unread⟩

/-- Why the fields that are read before the strings make a rendering fail. -/
theorem illegible_of_reading {error : RenderError}
    (failed : (∃ cause, error = .field cause ∧ record.sourceText = .error cause) ∨
      (∃ cause, error = .field cause ∧ record.computerText = .error cause) ∨
      ∃ cause, error = .field cause ∧ record.sid = .error cause) :
    ∃ cause, error = .field cause ∧ record.Illegible cause := by
  rcases failed with ⟨cause, same, unread⟩ | ⟨cause, same, unread⟩ | ⟨cause, same, unread⟩
  · obtain ⟨broken, rfl⟩ := CodeUnits.text_eq_error unread
    exact ⟨_, same, .source broken⟩
  · obtain ⟨broken, rfl⟩ := CodeUnits.text_eq_error unread
    exact ⟨_, same, .computer broken⟩
  · obtain ⟨bytes, present, short, failed⟩ := illegible_of_sid unread
    exact ⟨cause, same, .sid present short failed⟩

section Lists

variable {results : List (Except DecodeError String)}

/-- A list of results is a list of values just if each result is a value. -/
theorem mapM_eq_ok_iff {texts : List String} :
    results.mapM id = .ok texts ↔ results = texts.map .ok := by
  induction results generalizing texts with
  | nil =>
    rw [List.mapM_nil]
    cases texts with
    | nil => exact iff_of_true rfl rfl
    | cons text texts => exact iff_of_false nofun nofun
  | cons result results ih =>
    simp only [List.mapM_cons, id_eq, bind_eq_ok_iff, ih]
    constructor
    · rintro ⟨text, rfl, texts, rfl, done⟩
      cases done
      rfl
    · intro all
      cases texts with
      | nil => cases all
      | cons text texts =>
        obtain ⟨first, rest⟩ := List.cons.inj all
        exact ⟨text, first, texts, rest, rfl⟩

/-- A list of results that fails does so with the error of one of them. -/
theorem mem_of_mapM_eq_error {cause : DecodeError} (failed : results.mapM id = .error cause) :
    .error cause ∈ results := by
  induction results with
  | nil => cases failed
  | cons result results ih =>
    simp only [List.mapM_cons, id_eq, bind_eq_error_iff] at failed
    rcases failed with first | ⟨text, -, later | ⟨texts, -, done⟩⟩
    · exact List.mem_cons.mpr (.inl first.symm)
    · exact List.mem_cons_of_mem _ (ih later)
    · cases done

/-- The error that ends the pieces of strings early is that of one of them. -/
theorem mem_of_stringPieces {pieces : List Piece} {cause : DecodeError}
    (failed : stringPieces results = (pieces, some cause)) : .error cause ∈ results := by
  induction results generalizing pieces with
  | nil => cases failed
  | cons result results ih =>
    cases result with
    | error other =>
      cases failed
      exact List.mem_cons_self
    | ok text =>
      rw [stringPieces] at failed
      obtain ⟨-, ended⟩ := Prod.mk.inj failed
      exact List.mem_cons_of_mem _ (ih (Prod.ext rfl ended))

end Lists

/-- The value that shows a record. -/
def eventJson (record : Record) (source computer : String) (sid : Option Sid)
    (texts : List String) : Json :=
  .object [("Event", .object [
    ("System", record.systemJson source computer sid),
    ("EventData", record.dataJson texts)])]

/-- A record has a JSON value just if all of its fields are decoded. -/
theorem toJson_eq_ok_iff {value : Json} :
    record.toJson = .ok value ↔ ∃ source computer sid texts, record.sourceText = .ok source ∧
      record.computerText = .ok computer ∧ record.sid = .ok sid ∧
      record.texts = List.map .ok texts ∧
      value = record.eventJson source computer sid texts := by
  simp only [toJson, bind_eq_ok_iff, reading_eq_ok_iff, mapM_eq_ok_iff]
  constructor
  · rintro ⟨sid, identified, source, named, computer, named', texts, all, done⟩
    cases done
    exact ⟨source, computer, sid, texts, named, named', identified, all, rfl⟩
  · rintro ⟨source, computer, sid, texts, named, named', identified, all, rfl⟩
    exact ⟨sid, identified, source, named, computer, named', texts, all, rfl⟩

/-- A record has no JSON text because of its security identifier, or else of a name, or else of its
strings. -/
theorem jsonText_eq_error_iff {indent : Bool} {error : RenderError} :
    record.jsonText indent = .error error ↔
      reading record.sid = .error error ∨ ∃ sid, record.sid = .ok sid ∧
        (reading record.sourceText = .error error ∨ ∃ source, record.sourceText = .ok source ∧
          (reading record.computerText = .error error ∨
            ∃ computer, record.computerText = .ok computer ∧
              reading (record.texts.mapM id) = .error error)) := by
  have done {value : Json} : ¬(pure value : Except RenderError Json) = .error error := nofun
  simp only [jsonText, map_eq_error_iff, toJson, bind_eq_error_iff, reading_eq_ok_iff, done,
    and_false, exists_false, or_false]

/-- The pieces of a record start with the names and the security identifier, and what ends them
early, if anything does, is the error of a string. -/
theorem exists_pieces_eq (record : Record) :
    ∃ body : List Piece, record.pieces =
      reading record.sourceText >>= fun source =>
        reading record.computerText >>= fun computer =>
          reading record.sid >>= fun sid =>
            .ok (record.systemPieces source computer sid ++ body,
              (stringPieces record.texts).2) := by
  unfold pieces
  cases stringPieces record.texts with
  | mk middle failure =>
    cases failure with
    | some cause => exact ⟨middle, rfl⟩
    | none =>
      refine ⟨middle ++ record.closingPieces, ?_⟩
      simp only [List.append_assoc]
      rfl

/-- Pieces that are made are written, and the record has an XML text unless they end early. -/
theorem xmlText_of_pieces {pieces : List Piece} {failure : Option DecodeError}
    (made : record.pieces = .ok (pieces, failure)) (indent : Bool) (error : RenderError) :
    record.xmlText indent = .error error ↔ failure.map .field = some error := by
  have free : (Writer.new indent none).limit = none := rfl
  have wrote := Writer.writeAll_free free pieces
  unfold xmlText writeXml
  rw [made]
  dsimp only
  rw [wrote]
  cases failure with
  | none => exact iff_of_false nofun nofun
  | some cause => simp only [Except.error.injEq, Option.map_some, Option.some.injEq]

/-- A record has no XML text because of a name, or else of its security identifier, or else of its
first string that is no text. -/
theorem xmlText_eq_error_iff {indent : Bool} {error : RenderError} :
    record.xmlText indent = .error error ↔
      reading record.sourceText = .error error ∨ ∃ source, record.sourceText = .ok source ∧
        (reading record.computerText = .error error ∨
          ∃ computer, record.computerText = .ok computer ∧
            (reading record.sid = .error error ∨ ∃ sid, record.sid = .ok sid ∧
              (stringPieces record.texts).2.map .field = some error)) := by
  obtain ⟨body, equal⟩ := record.exists_pieces_eq
  have unmade {other : RenderError} (failed : record.pieces = .error other) :
      record.xmlText indent = .error other := by
    rw [xmlText, writeXml, failed]
  -- One field after the other, in the order in which they are decoded for XML: the first that is not
  -- decoded settles the matter.
  cases source : record.sourceText with
  | error cause =>
    rw [source] at equal
    simp only [unmade equal, reading, Except.mapError, reduceCtorEq, false_and, exists_false,
      or_false]
  | ok name =>
    cases computer : record.computerText with
    | error cause =>
      rw [source, computer] at equal
      simp only [unmade equal, reading, Except.mapError, reduceCtorEq, Except.ok.injEq,
        exists_eq_left', false_and, exists_false, or_false, false_or]
    | ok name' =>
      cases sid : record.sid with
      | error cause =>
        rw [source, computer, sid] at equal
        simp only [unmade equal, reading, Except.mapError, reduceCtorEq, Except.ok.injEq,
          Except.error.injEq, exists_eq_left', false_and, exists_false, or_false, false_or]
      | ok identifier =>
        rw [source, computer, sid] at equal
        simp only [xmlText_of_pieces equal, reading, Except.mapError, reduceCtorEq,
          Except.ok.injEq, exists_eq_left', false_or]

/-- A record without a JSON text has a field that cannot be decoded. -/
theorem illegible_of_jsonText {indent : Bool} {error : RenderError}
    (failed : record.jsonText indent = .error error) :
    ∃ cause, error = .field cause ∧ record.Illegible cause := by
  rcases jsonText_eq_error_iff.mp failed with sid | ⟨_, -, source | ⟨_, -, computer | ⟨_, -, texts⟩⟩⟩
  · exact illegible_of_reading (.inr (.inr (reading_eq_error sid)))
  · exact illegible_of_reading (.inl (reading_eq_error source))
  · exact illegible_of_reading (.inr (.inl (reading_eq_error computer)))
  · obtain ⟨cause, same, unread⟩ := reading_eq_error texts
    exact ⟨cause, same, illegible_of_texts (mem_of_mapM_eq_error unread)⟩

/-- A record without an XML text has a field that cannot be decoded. -/
theorem illegible_of_xmlText {indent : Bool} {error : RenderError}
    (failed : record.xmlText indent = .error error) :
    ∃ cause, error = .field cause ∧ record.Illegible cause := by
  rcases xmlText_eq_error_iff.mp failed with source | ⟨_, -, computer | ⟨_, -, sid | ⟨_, -, cut⟩⟩⟩
  · exact illegible_of_reading (.inl (reading_eq_error source))
  · exact illegible_of_reading (.inr (.inl (reading_eq_error computer)))
  · exact illegible_of_reading (.inr (.inr (reading_eq_error sid)))
  · obtain ⟨cause, ended, same⟩ := Option.map_eq_some_iff.mp cut
    exact ⟨cause, same.symm, illegible_of_texts (mem_of_stringPieces (Prod.ext rfl ended))⟩

/-- What renders if it is legible, and else fails with the error of a field that is not, renders
just if it is legible. -/
theorem exists_ok_iff_legible {α : Type} {rendered : Except RenderError α}
    (reads : ∀ document, rendered = .ok document → record.Legible)
    (fails : ∀ error, rendered = .error error →
      ∃ cause, error = .field cause ∧ record.Illegible cause) :
    (∃ document, rendered = .ok document) ↔ record.Legible := by
  constructor
  · rintro ⟨document, renders⟩
    exact reads document renders
  · intro legible
    cases rendered with
    | ok document => exact ⟨document, rfl⟩
    | error error =>
      obtain ⟨cause, -, illegible⟩ := fails error rfl
      exact absurd legible illegible.not_legible

/-- How the renderings of a record come out. -/
structure Verdict (record : Record) : Prop where
  /-- It has a JSON text, indented or not, just if it is legible. -/
  json : ∀ indent, (∃ document, record.jsonText indent = .ok document) ↔ record.Legible
  /-- It has an XML text, indented or not, just if it is legible. -/
  xml : ∀ indent, (∃ document, record.xmlText indent = .ok document) ↔ record.Legible
  /-- An error is that of a field which cannot be decoded, and of its class. -/
  error : ∀ indent error,
    record.jsonText indent = .error error ∨ record.xmlText indent = .error error →
      ∃ cause, error = .field cause ∧ record.Illegible cause ∧ error.category = cause.category
  /-- It has a plain text, in any style, just if its security identifier is whole or missing. -/
  text : ∀ indent numbered codepage,
    (∃ bytes, Dump.Style.render ⟨.text, indent, numbered, codepage⟩ record = .ok bytes) ↔
      ∀ bytes ∈ record.sidBytes, Sid.Whole bytes
  /-- The times are never the reason why it does not render. -/
  times : ∀ created written indent error,
    (({ record with created, written }.jsonText indent = .error error ↔
        record.jsonText indent = .error error) ∧
      ({ record with created, written }.xmlText indent = .error error ↔
        record.xmlText indent = .error error))

/-- Whatever a record holds, its renderings come out alike: it has both a JSON and an XML text, or
neither, and that is up to its fields and not to its times; its plain text is up to the security
identifier alone. -/
theorem verdict (record : Record) : record.Verdict where
  json indent := by
    refine exists_ok_iff_legible ?_ fun _ => illegible_of_jsonText
    intro document renders
    obtain ⟨value, shown, -⟩ := map_eq_ok_iff.mp renders
    obtain ⟨source, computer, sid, texts, named, named', identified, all, -⟩ :=
      toJson_eq_ok_iff.mp shown
    exact legible_iff.mpr ⟨source, computer, sid, texts, named, named', identified, all⟩
  xml indent := by
    refine exists_ok_iff_legible ?_ fun _ => illegible_of_xmlText
    intro document renders
    obtain ⟨pieces, writer, whole, -⟩ := xmlText_eq_ok_iff.mp renders
    obtain ⟨source, computer, sid, texts, named, named', identified, all, -⟩ := pieces_eq_ok whole
    exact legible_iff.mpr ⟨source, computer, sid, texts, named, named', identified, all⟩
  error indent error failed := by
    obtain ⟨cause, rfl, illegible⟩ :=
      failed.elim illegible_of_jsonText illegible_of_xmlText
    exact ⟨cause, rfl, illegible, rfl⟩
  text indent numbered codepage := by
    rw [← exists_sid_iff]
    unfold Dump.Style.render textBytes
    cases record.sid with
    | error cause => exact iff_of_false nofun nofun
    | ok sid => exact iff_of_true ⟨_, rfl⟩ ⟨sid, rfl⟩
  times created written indent error := by
    rw [jsonText_eq_error_iff, jsonText_eq_error_iff, xmlText_eq_error_iff, xmlText_eq_error_iff]
    exact ⟨.rfl, .rfl⟩

end EventLog.Record
