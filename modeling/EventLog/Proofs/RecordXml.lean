import EventLog.Proofs.PrimaryRecords
import EventLog.Proofs.XmlWriting
import EventLog.Record.ToXml

/-!
# What the XML of a record shows

The XML text of a record, with or without indentation, is one element tree with fixed names, and
reading it gives back the names, the security identifier, every string and the binary data exactly
as the record answers for them (`xml_reads_back`).
-/

namespace EventLog.Record

open Xml

variable {record : Record}

/-- The elements that hold elements; blank text directly inside them does not count. -/
def containers : List String := ["Event", "System", "EventData"]

/-- An element that holds a text and nothing else. -/
def textNode (name : String) (attributes : List (String × String)) (content : String) : Node :=
  .element name attributes [.text content]

/-- The elements that describe the event. -/
def systemNodes (record : Record) (source computer : String) (sid : Option Sid) : List Node :=
  [.element "Provider" [("Name", source)] [],
    textNode "EventID" [("Qualifiers", Json.digits record.identifier.qualifiers)]
      (Json.digits record.identifier.code),
    textNode "Level" [] record.kind.text,
    textNode "Task" [] (Json.digits record.category.toNat),
    .element "TimeCreated" [("SystemTime", record.created.text)] [],
    .element "TimeWritten" [("SystemTime", record.written.text)] [],
    textNode "EventRecordID" [] (Json.digits record.number.toNat),
    textNode "Computer" [] computer,
    .element "Security" (sid.elim [] fun s => [("UserID", s.text)]) []]

/-- The elements that hold the strings, and the one that holds the binary data, if there are any. -/
def dataNodes (texts : List String) (binary : Option String) : List Node :=
  texts.map (textNode "Data" []) ++ binary.toList.map (textNode "Binary" [])

/-- The element that shows a record. -/
def eventNode (record : Record) (source computer : String) (sid : Option Sid) (texts : List String)
    (binary : Option String) : Node :=
  .element "Event" []
    [.element "System" [] (record.systemNodes source computer sid),
      .element "EventData" [] (dataNodes texts binary)]

/-- What a record answers for the fields that are text. -/
structure Answers (record : Record) (source computer : String) (sid : Option Sid)
    (texts : List String) (binary : Option String) : Prop where
  /-- The name of the source. -/
  source : record.sourceText = .ok source
  /-- The name of the computer. -/
  computer : record.computerText = .ok computer
  /-- The user's security identifier, if the record has one. -/
  sid : record.sid = .ok sid
  /-- All strings are there. -/
  count : texts.length = record.stringTotal
  /-- The strings are in order. -/
  string : ∀ index text, texts[index]? = some text → record.string index = .ok text
  /-- There is binary data just if it is not empty. -/
  present : binary.isSome = true ↔ record.data ≠ []
  /-- The digits are those of the binary data. -/
  digits : ∀ hex ∈ binary, Hex.readBytes? hex.toList = some record.data

/-- A field was read for rendering just if it was decoded. -/
theorem reading_eq_ok_iff {α : Type} {field : Except DecodeError α} {value : α} :
    reading field = .ok value ↔ field = .ok value := by
  cases field with
  | error e => exact ⟨nofun, nofun⟩
  | ok other =>
    constructor
    · intro read
      exact congrArg Except.ok (Except.ok.inj read)
    · intro read
      exact congrArg Except.ok (Except.ok.inj read)

/-- If no string ends the pieces early, each string is a text and has its element. -/
theorem texts_of_stringPieces {strings : List (Except DecodeError String)} {pieces : List Piece}
    (whole : stringPieces strings = (pieces, none)) :
    ∃ texts : List String, strings = texts.map .ok ∧
      pieces = texts.flatMap (textElement "Data" []) := by
  induction strings generalizing pieces with
  | nil =>
    cases whole
    exact ⟨[], rfl, rfl⟩
  | cons string rest ih =>
    cases string with
    | error e => cases whole
    | ok text =>
      rw [stringPieces] at whole
      obtain ⟨shown, going⟩ := Prod.mk.inj whole
      obtain ⟨texts, equal, parts⟩ := ih (Prod.ext rfl going)
      refine ⟨text :: texts, congrArg (.ok text :: ·) equal, ?_⟩
      rw [← shown, List.flatMap_cons, ← parts]

/-- If no string ends the pieces early, all fields that are text have been read. -/
theorem pieces_eq_ok {pieces : List Piece} (whole : record.pieces = .ok (pieces, none)) :
    ∃ source computer sid texts, record.sourceText = .ok source ∧
      record.computerText = .ok computer ∧ record.sid = .ok sid ∧
      record.texts = List.map .ok texts ∧
      pieces = record.systemPieces source computer sid ++
        texts.flatMap (textElement "Data" []) ++ record.closingPieces := by
  obtain ⟨source, named, whole⟩ := bind_eq_ok_iff.mp whole
  obtain ⟨computer, named', whole⟩ := bind_eq_ok_iff.mp whole
  obtain ⟨sid, identified, whole⟩ := bind_eq_ok_iff.mp whole
  dsimp only at whole
  cases strings : stringPieces record.texts with
  | mk middle failure =>
    rw [strings] at whole
    cases failure with
    | some e => cases whole
    | none =>
      obtain ⟨texts, equal, parts⟩ := texts_of_stringPieces strings
      cases whole
      exact ⟨source, computer, sid, texts, reading_eq_ok_iff.mp named, reading_eq_ok_iff.mp named',
        reading_eq_ok_iff.mp identified, equal, by rw [parts]⟩

/-- If all strings are texts, they are what the record answers at their indices. -/
theorem string_of_texts {texts : List String} (all : record.texts = List.map .ok texts) :
    texts.length = record.stringTotal ∧
      ∀ index text, texts[index]? = some text → record.string index = .ok text := by
  unfold Record.texts at all
  unfold stringTotal Record.string tableFor
  cases strings : record.strings with
  | none =>
    rw [strings] at all
    have nothing : texts = [] := List.map_eq_nil_iff.mp all.symm
    subst nothing
    exact ⟨rfl, fun index text at' => by cases at'⟩
  | some table =>
    rw [strings] at all
    have all' : table.entries.map (CodeUnits.text .string) = List.map .ok texts := all
    constructor
    · have lengths := congrArg List.length all'
      rw [List.length_map, List.length_map] at lengths
      exact lengths.symm
    · intro index text found
      have here : (table.entries.map (CodeUnits.text .string))[index]? =
          (List.map Except.ok texts)[index]? := by rw [all']
      rw [List.getElem?_map, List.getElem?_map, found] at here
      obtain ⟨units, entry, decoded⟩ := Option.map_eq_some_iff.mp here
      show table.text index = .ok text
      rw [StringTable.text, StringTable.entry, entry]
      exact decoded

/-- The digits of the binary data, if there is any. -/
def binaryText (record : Record) : Option String :=
  if record.data.isEmpty then none else some record.hexData

/-- The elements of the strings are written one after the other, and then those after them. -/
theorem writesAll_texts {pieces : List Piece} {nodes : List Node}
    (later : WritesAll containers pieces nodes) (texts : List String) :
    WritesAll containers (texts.flatMap (textElement "Data" []) ++ pieces)
      (texts.map (textNode "Data" []) ++ nodes) := by
  induction texts with
  | nil => exact later
  | cons text texts ih =>
    have here : Writes containers (textElement "Data" [] text) (textNode "Data" [] text) :=
      writes_leaf (by decide) (List.forall_mem_nil _) (by decide) text
    rw [List.flatMap_cons, List.append_assoc, List.map_cons, List.cons_append]
    exact .cons here ih

/-- The elements that describe the event are written one after the other. -/
theorem writesAll_system (record : Record) (source computer : String) (sid : Option Sid) :
    ∃ pieces, WritesAll containers pieces (record.systemNodes source computer sid) ∧
      record.systemPieces source computer sid =
        .start "Event" [] :: .start "System" [] ::
          (pieces ++ [.stop "System", .start "EventData" []]) := by
  have bare := List.forall_mem_nil (fun pair : String × String => isName pair.1 = true)
  have plain {key : String} (named : isName key = true) (value : String) :
      ∀ pair ∈ [(key, value)], isName pair.1 = true := List.forall_mem_singleton.mpr named
  have security : ∀ pair ∈ sid.elim [] fun s => [("UserID", s.text)], isName pair.1 = true := by
    cases sid with
    | none => exact bare
    | some s => exact plain (by decide) _
  refine ⟨_,
    .cons (writes_empty (by decide) (plain (by decide) _)) <|
    .cons (writes_leaf (by decide) (plain (by decide) _) (by decide) _) <|
    .cons (writes_leaf (by decide) bare (by decide) _) <|
    .cons (writes_leaf (by decide) bare (by decide) _) <|
    .cons (writes_empty (by decide) (plain (by decide) _)) <|
    .cons (writes_empty (by decide) (plain (by decide) _)) <|
    .cons (writes_leaf (by decide) bare (by decide) _) <|
    .cons (writes_leaf (by decide) bare (by decide) _) <|
    .cons (writes_empty (by decide) security) .nil, ?_⟩
  rfl

/-- The element of the binary data is written, if there is any. -/
theorem writesAll_binary (record : Record) :
    ∃ pieces, WritesAll containers pieces (record.binaryText.toList.map (textNode "Binary" [])) ∧
      record.closingPieces = pieces ++ [.stop "EventData", .stop "Event"] := by
  unfold binaryText closingPieces
  cases record.data.isEmpty with
  | true => exact ⟨[], .nil, rfl⟩
  | false =>
    have here : Writes containers (textElement "Binary" [] record.hexData)
        (textNode "Binary" [] record.hexData) :=
      writes_leaf (by decide) (List.forall_mem_nil _) (by decide) _
    exact ⟨_, .cons here .nil, rfl⟩

/-- The pieces of a record write its element. -/
theorem writes_event (record : Record) (source computer : String) (sid : Option Sid)
    (texts : List String) :
    Writes containers (record.systemPieces source computer sid ++
        texts.flatMap (textElement "Data" []) ++ record.closingPieces)
      (record.eventNode source computer sid texts record.binaryText) := by
  have bare := List.forall_mem_nil (fun pair : String × String => isName pair.1 = true)
  obtain ⟨describing, writesSystem, system⟩ := writesAll_system record source computer sid
  obtain ⟨binary, writesBinary, closing⟩ := writesAll_binary record
  have writesData := writesAll_texts writesBinary texts
  have event := writes_branch (by decide) bare (show "Event" ∈ containers by decide) <|
    .cons (writes_branch (by decide) bare (show "System" ∈ containers by decide) writesSystem) <|
    .cons (writes_branch (by decide) bare (show "EventData" ∈ containers by decide) writesData) .nil
  rw [system, closing, eventNode, dataNodes]
  simpa only [List.append_assoc, List.cons_append, List.nil_append, List.append_nil] using event

/-- The digits of the binary data are there just if there is some, and are read back as it. -/
theorem binaryText_spec (record : Record) :
    (record.binaryText.isSome = true ↔ record.data ≠ []) ∧
      ∀ hex ∈ record.binaryText, Hex.readBytes? hex.toList = some record.data := by
  unfold binaryText
  cases data : record.data with
  | nil => exact ⟨⟨Bool.noConfusion, absurd rfl⟩, fun _ some => absurd some (Option.not_mem_none _)⟩
  | cons first others =>
    refine ⟨⟨fun _ => List.cons_ne_nil first others, fun _ => rfl⟩, ?_⟩
    rintro hex ⟨⟩
    rw [hexData, String.toList_ofList, Hex.readBytes?_bytes, data]

/-- A record renders just if all of its pieces can be made and are written. -/
theorem xmlText_eq_ok_iff {indent : Bool} {document : String} :
    record.xmlText indent = .ok document ↔
      ∃ pieces writer, record.pieces = .ok (pieces, none) ∧
        (Writer.new indent none).writeAll pieces = .ok writer ∧ writer.written = document := by
  unfold xmlText writeXml
  cases parts : record.pieces with
  | error e => exact ⟨nofun, fun ⟨_, _, whole, _⟩ => nomatch whole⟩
  | ok made =>
    obtain ⟨pieces, failure⟩ := made
    dsimp only
    cases wrote : (Writer.new indent none).writeAll pieces with
    | error e =>
      refine ⟨nofun, ?_⟩
      rintro ⟨_, _, ⟨⟩, writes, -⟩
      rw [wrote] at writes
      cases writes
    | ok writer =>
      cases failure with
      | some e => exact ⟨nofun, fun ⟨_, _, whole, _⟩ => nomatch whole⟩
      | none =>
        constructor
        · rintro ⟨⟩
          exact ⟨pieces, writer, rfl, wrote, rfl⟩
        · rintro ⟨_, other, ⟨⟩, writes, rfl⟩
          rw [wrote] at writes
          cases writes
          rfl

/-- The XML text of a record, with or without indentation, is read back as one element tree that
shows exactly what the record answers. -/
theorem xml_reads_back {indent : Bool} {document : String}
    (renders : record.xmlText indent = .ok document) :
    ∃ source computer sid texts binary, record.Answers source computer sid texts binary ∧
      Xml.read containers document =
        some (record.eventNode source computer sid texts binary) := by
  obtain ⟨pieces, writer, whole, wrote, rfl⟩ := xmlText_eq_ok_iff.mp renders
  obtain ⟨source, computer, sid, texts, named, named', identified, all, rfl⟩ := pieces_eq_ok whole
  obtain ⟨count, string⟩ := string_of_texts all
  obtain ⟨present, digits⟩ := binaryText_spec record
  exact ⟨source, computer, sid, texts, record.binaryText,
    ⟨named, named', identified, count, string, present, digits⟩,
    (writes_event record source computer sid texts).read indent wrote⟩

/-- A record whose strings look like a tag and a reference or are blank, with binary data. -/
def markupRecord : Record :=
  { Session.plainRecord 7 with
    stringCount := 4
    sourceName := [38]
    strings := some ⟨[[60, 98, 47, 62], [38, 108, 116, 59], [32, 10], []], []⟩
    data := [0, 171] }

/-- The XML text of a record whose strings look like markup is read back, indented. -/
theorem markup_reads_back : ∃ document, markupRecord.xmlText true = .ok document ∧
    ∃ source computer sid texts binary, markupRecord.Answers source computer sid texts binary ∧
      Xml.read containers document =
        some (markupRecord.eventNode source computer sid texts binary) :=
  ⟨_, rfl, xml_reads_back rfl⟩

end EventLog.Record
