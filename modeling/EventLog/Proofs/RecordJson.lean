import EventLog.Proofs.JsonReading
import EventLog.Proofs.Legibility
import EventLog.Record.ToText

/-!
# What the JSON of a record shows

Both JSON texts of a record, the indented and the compact one, are read as the same value, in which
names, security identifier, numbers, strings and binary data stand at fixed paths exactly as the
record answers for them (`json_reads_back`). The bytes of the compact text hold no control
character, so that it takes one line.
-/

namespace EventLog.Record

open Json (Printable)

/-- The bytes of a text are those of its characters. -/
theorem utf8_eq_flatMap (text : String) :
    utf8 text = text.toList.flatMap String.utf8EncodeChar := by
  have encoded : text.toUTF8 = (text.toList.flatMap String.utf8EncodeChar).toByteArray := by
    rw [String.toUTF8, ← String.ofList_toList (s := text), String.toByteArray_ofList,
      String.toList_ofList]
    rfl
  rw [utf8, encoded, List.toList_data_toByteArray]

/-- A character that is no control character has no byte that is one. -/
theorem le_of_mem_utf8EncodeChar {c : Char} (printable : 0x20 ≤ c.toNat) :
    ∀ byte ∈ String.utf8EncodeChar c, 0x20 ≤ byte := by
  have number : c.val.toNat = c.toNat := rfl
  have high (n : Nat) (some : 32 ≤ n % 256) : 0x20 ≤ UInt8.ofNat n := by
    rw [UInt8.le_iff_toNat_le, UInt8.toNat_ofNat']
    exact some
  -- The only byte of a short character is its number, and each byte of a longer one has its highest
  -- bit set.
  unfold String.utf8EncodeChar
  dsimp only
  rw [number]
  split
  · exact List.forall_mem_singleton.mpr (high _ (by omega))
  split
  · simp only [List.forall_mem_cons, List.not_mem_nil, false_implies, implies_true, and_true]
    exact ⟨high _ (by omega), high _ (by omega)⟩
  split
  · simp only [List.forall_mem_cons, List.not_mem_nil, false_implies, implies_true, and_true]
    exact ⟨high _ (by omega), high _ (by omega), high _ (by omega)⟩
  · simp only [List.forall_mem_cons, List.not_mem_nil, false_implies, implies_true, and_true]
    exact ⟨high _ (by omega), high _ (by omega), high _ (by omega), high _ (by omega)⟩

/-- A text without control characters has no byte that is one. -/
theorem le_of_mem_utf8 {text : String} (printable : Printable text) :
    ∀ byte ∈ utf8 text, 0x20 ≤ byte := by
  intro byte member
  rw [utf8_eq_flatMap] at member
  obtain ⟨c, present, encoded⟩ := List.mem_flatMap.mp member
  exact le_of_mem_utf8EncodeChar (printable c present) byte encoded

/-- What stands where in the value of a record. -/
structure ShownBy (record : Record) (value : Json) (source computer : String) (sid : Option Sid)
    (texts : List String) (binary : Option String) : Prop where
  /-- The name of the source. -/
  source : value.at? ["Event", "System", "Provider", "Name"] = some (.string source)
  /-- The name of the computer. -/
  computer : value.at? ["Event", "System", "Computer"] = some (.string computer)
  /-- The security identifier; no value if there is none. -/
  sid : value.at? ["Event", "System", "Security", "UserID"] =
    some (sid.elim .null fun s => .string s.text)
  /-- The code of the event. -/
  code : value.at? ["Event", "System", "EventID", "Value"] =
    some (.number record.identifier.code)
  /-- The upper half of the identifier of the event. -/
  qualifiers : value.at? ["Event", "System", "EventID", "Qualifiers"] =
    some (.number record.identifier.qualifiers)
  /-- The category. -/
  task : value.at? ["Event", "System", "Task"] = some (.number record.category.toNat)
  /-- The number of the record. -/
  number : value.at? ["Event", "System", "EventRecordID"] = some (.number record.number.toNat)
  /-- All strings, in order. -/
  strings : value.at? ["Event", "EventData", "Data"] = some (.array (texts.map .string))
  /-- The binary data, if there is any. -/
  binary : value.at? ["Event", "EventData", "Binary"] = binary.map .string

/-- The value of a record shows what it was made from. -/
theorem shownBy_eventJson (record : Record) (source computer : String) (sid : Option Sid)
    (texts : List String) :
    record.ShownBy (record.eventJson source computer sid texts) source computer sid texts
      record.binaryText where
  source := rfl
  computer := rfl
  sid := by
    cases sid with
    | none => rfl
    | some s => rfl
  code := rfl
  qualifiers := rfl
  task := rfl
  number := rfl
  strings := rfl
  binary := by
    unfold binaryText eventJson dataJson
    cases record.data.isEmpty with
    | true => rfl
    | false => rfl

/-- A record with a JSON text, indented or not, has both texts, and both are read as the same value,
which shows exactly what the record answers. The compact text holds no control character. -/
theorem json_reads_back {record : Record} {indent : Bool} {document : String}
    (renders : record.jsonText indent = .ok document) :
    ∃ flat broken value source computer sid texts binary,
      record.jsonText false = .ok flat ∧ record.jsonText true = .ok broken ∧
      Json.read flat = some value ∧ Json.read broken = some value ∧
      record.Answers source computer sid texts binary ∧
      record.ShownBy value source computer sid texts binary ∧
      ∀ byte ∈ utf8 flat, 0x20 ≤ byte := by
  obtain ⟨value, shown, -⟩ := map_eq_ok_iff.mp renders
  obtain ⟨source, computer, sid, texts, named, named', identified, all, rfl⟩ :=
    toJson_eq_ok_iff.mp shown
  obtain ⟨count, string⟩ := string_of_texts all
  obtain ⟨present, digits⟩ := binaryText_spec record
  have rendered (indent : Bool) : record.jsonText indent =
      .ok ((record.eventJson source computer sid texts).render indent) := by
    rw [jsonText, shown]
    rfl
  exact ⟨_, _, record.eventJson source computer sid texts, source, computer, sid, texts,
    record.binaryText, rendered false, rendered true, Json.read_render false _,
    Json.read_render true _, ⟨named, named', identified, count, string, present, digits⟩,
    record.shownBy_eventJson source computer sid texts,
    le_of_mem_utf8 (Json.compact_printable _)⟩

/-- A record with a quote, a backslash and a control character in its name, with strings that break
lines or lie beyond the basic plane, and with binary data. -/
def awkwardRecord : Record :=
  { Session.plainRecord 7 with
    stringCount := 3
    sourceName := [34, 92, 1]
    strings := some ⟨[[13, 10], [0xD83D, 0xDE00], []], []⟩
    data := [0, 171] }

/-- The awkward record is read back from both of its texts. -/
theorem awkward_json_reads_back : ∃ document, awkwardRecord.jsonText true = .ok document ∧
    ∃ flat broken value source computer sid texts binary,
      awkwardRecord.jsonText false = .ok flat ∧ awkwardRecord.jsonText true = .ok broken ∧
      Json.read flat = some value ∧ Json.read broken = some value ∧
      awkwardRecord.Answers source computer sid texts binary ∧
      awkwardRecord.ShownBy value source computer sid texts binary ∧
      ∀ byte ∈ utf8 flat, 0x20 ≤ byte := by
  obtain ⟨document, renders⟩ : ∃ document, awkwardRecord.jsonText true = .ok document := ⟨_, rfl⟩
  exact ⟨document, renders, json_reads_back renders⟩

end EventLog.Record
