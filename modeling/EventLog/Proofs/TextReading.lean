import EventLog.Proofs.RecordGrammar
import EventLog.Text.Pairing

/-!
# Text is read as what it spells

A text in a log is whatever units stand before the first zero unit. Reading it succeeds just if no
surrogate stands alone, and delivers the one string that has these units; for ASCII this holds on
the way without surrogates as well (`spelled`). Both sizes are those of the string and of the units,
with a terminator. The names of a record are read in the same way, off bytes that are twice as many
as their units (`named_of_decode`), so that all of it holds of them (`reads_bytes`).
-/

namespace EventLog.CodeUnits

/-- The units are the text at the front of a byte string. -/
structure FrontOf (bytes : Bytes) (units : CodeUnits) : Prop where
  /-- Their bytes are the first ones. -/
  front : units.toBytes <+: bytes
  /-- None of them is zero. -/
  whole : 0 ∉ units
  /-- Either a zero unit follows, or no unit at all. -/
  ended : bytes.slice (2 * units.length) 2 = [0, 0] ∨ bytes.length < 2 * units.length + 2

/-- The text at the front of a byte string stands there. -/
theorem frontOf_textUnits (bytes : Bytes) : FrontOf bytes (textUnits bytes) := by
  by_cases zero : 0 ∈ ofBytes bytes
  · obtain ⟨text, rest, split, whole⟩ := List.eq_append_cons_of_mem zero
    have text_eq : textUnits bytes = text := by
      rw [textUnits, split, untilZero_append_zero whole]
    rw [List.append_cons] at split
    obtain ⟨tail, rfl, -⟩ := ofBytes_eq_append_iff.mp split
    rw [text_eq]
    have ending : toBytes (text ++ [0]) ++ tail = toBytes text ++ ([0, 0] ++ tail) := by
      rw [toBytes_append, List.append_assoc]
      rfl
    rw [ending]
    exact ⟨⟨_, rfl⟩, whole, .inl (Bytes.slice_between (length_toBytes text) [0, 0] tail)⟩
  · have text_eq : textUnits bytes = ofBytes bytes := by
      have all := untilZero_append zero []
      rw [List.append_nil] at all
      exact all.trans (List.append_nil _)
    have split : ofBytes bytes = ofBytes bytes ++ [] := (List.append_nil _).symm
    obtain ⟨tail, stands, -⟩ := ofBytes_eq_append_iff.mp split
    have length := length_ofBytes bytes
    rw [text_eq]
    exact ⟨⟨tail, stands.symm⟩, zero, .inr (by omega)⟩

/-- Reading units as text is right: it succeeds on the units that spell a string, and delivers
it. -/
structure Spelled (part : Part) (units : CodeUnits) : Prop where
  /-- There is a text just if no surrogate stands alone. -/
  reads : (∃ text, units.text part = .ok text) ↔ units.Paired
  /-- Without one, the error names the part that the units are. -/
  fails : ¬units.Paired → units.text part = .error (.invalidText part)
  /-- The text is the string with these units. -/
  spells : ∀ text, units.text part = .ok text ↔ encode text.toList = units
  /-- No two strings have the same units. -/
  unique : ∀ first second : String,
    encode first.toList = units → encode second.toList = units → first = second
  /-- Units that are all ASCII can be taken one by one or paired. -/
  ascii : (∀ u ∈ units, u ≤ 0x7F) →
    units.text part = .ok units.asciiText ∧ units.pairedText part = .ok units.asciiText
  /-- On the way that is chosen for them, all units are read as if they were paired. -/
  paired : units.text part = units.pairedText part
  /-- The size in UTF-8 is that of the text and a terminator. -/
  utf8 : ∀ size, units.utf8Size part = .ok size ↔
    ∃ text, units.text part = .ok text ∧ size = text.utf8ByteSize + 1
  /-- There is no such size if there is no text, for the same reason. -/
  utf8Fails : ∀ error, units.utf8Size part = .error error ↔ units.text part = .error error
  /-- The size in UTF-16 is that of the units and a terminator. -/
  utf16 : units.utf16Size = units.length + 1

/-- Units are read as the text that they spell. -/
theorem spelled (part : Part) (units : CodeUnits) : Spelled part units where
  reads := by
    rw [paired_iff, text_eq_pairedText, pairedText]
    cases units.decode with
    | none =>
      refine iff_of_false ?_ Bool.false_ne_true
      rintro ⟨text, read⟩
      cases read
    | some chars => exact iff_of_true ⟨_, rfl⟩ rfl
  fails alone := by
    rw [paired_iff] at alone
    rw [text_eq_pairedText, pairedText, Option.not_isSome_iff_eq_none.mp alone]
  spells text := text_eq_ok_iff
  unique first second one other := by
    have read : units.text part = .ok first := text_eq_ok_iff.mpr one
    rw [text_eq_ok_iff.mpr other] at read
    exact (Except.ok.inj read).symm
  ascii small := by
    have ascii : units.isAscii = true := List.all_eq_true.mpr fun u member =>
      decide_eq_true (small u member)
    have read : units.text part = .ok units.asciiText := if_pos ascii
    exact ⟨read, text_eq_pairedText part units ▸ read⟩
  paired := text_eq_pairedText part units
  utf8 size := by
    rw [utf8Size, map_eq_ok_iff]
    exact exists_congr fun text => and_congr_right fun _ => eq_comm
  utf8Fails error := map_eq_error_iff
  utf16 := rfl

end EventLog.CodeUnits

namespace EventLog.Record

open CodeUnits

/-- The two names of a record follow its fixed part, one after the other, and are read off their
bytes. -/
theorem named_of_decode {bytes : Bytes} {record : Record} (decoded : decode bytes = .ok record) :
    ∃ source computer : Bytes,
      source ++ computer <+:
          bytes.slice RecordFields.width (record.membersEnd - RecordFields.width) ∧
        Terminated source record.sourceName ∧ Terminated computer record.computerName := by
  obtain ⟨stand, source, computer⟩ := (reads_of_decode decoded).names
  exact ⟨_, _, stand, terminated source, terminated computer⟩

/-- Text is read right off all bytes: off the units at their front up to a zero unit, and in a
record off the two names, which are half as many units, with the terminator, as bytes. -/
theorem reads_bytes (bytes : Bytes) :
    FrontOf bytes (textUnits bytes) ∧ (∀ part, Spelled part (textUnits bytes)) ∧
      ∀ record, decode bytes = .ok record → ∃ source computer : Bytes,
        source ++ computer <+:
            bytes.slice RecordFields.width (record.membersEnd - RecordFields.width) ∧
          Terminated source record.sourceName ∧ Terminated computer record.computerName ∧
          record.sourceText = (textUnits source).text .sourceName ∧
          record.computerText = (textUnits computer).text .computerName := by
  refine ⟨frontOf_textUnits bytes, fun part => spelled part _, ?_⟩
  intro record decoded
  obtain ⟨source, computer, stand, sourceBytes, computerBytes⟩ := named_of_decode decoded
  refine ⟨source, computer, stand, sourceBytes, computerBytes, ?_, ?_⟩
  · rw [sourceBytes.text, sourceText]
  · rw [computerBytes.text, computerText]

/-- An event of a computer whose name is beyond the basic plane. -/
def clefEvent : Event := { fullEvent with computerName := "𝄞" }

/-- The name of that computer has one character, two units and four bytes in UTF-8; with their zero
units, the names take half as many units as bytes. -/
theorem clefEvent_names : ∃ record, decode clefEvent.encode = .ok record ∧
    record.computerText = .ok "𝄞" ∧ record.computerName.utf8Size .computerName = .ok 5 ∧
    ∃ source computer : Bytes, record.sourceName.utf16Size * 2 = source.length ∧
      record.computerName.utf16Size * 2 = computer.length ∧ computer.length = 6 := by
  obtain ⟨-, -, names⟩ := reads_bytes clefEvent.encode
  have decoded : ∃ record, decode clefEvent.encode = .ok record ∧
      record.computerName = CodeUnits.encode "𝄞".toList := ⟨_, rfl, rfl⟩
  obtain ⟨record, decoded, name⟩ := decoded
  obtain ⟨source, computer, -, sourceBytes, computerBytes, -, -⟩ := names record decoded
  have read : record.computerText = .ok "𝄞" := by
    rw [computerText, name, text_encode]
  have units : record.computerName.length = 2 := by
    rw [name]
    rfl
  refine ⟨record, decoded, read, ?_, source, computer, sourceBytes.half, computerBytes.half, ?_⟩
  · exact ((spelled .computerName record.computerName).utf8 5).mpr ⟨_, read, by decide⟩
  · rw [← computerBytes.half, utf16Size, units]

end EventLog.Record
