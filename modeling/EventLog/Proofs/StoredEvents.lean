import EventLog.Event
import EventLog.Proofs.StringTables

/-!
# Reading back what was stored

A log writer can store an event whose texts have no zero character, whose security identifier is
absent or has a byte, whose strings can be counted in 16 bits and whose record fits into 32 bits
(`Storable`). The words of the fixed part then hold all sizes and offsets in full (`exact_fields`),
the regions follow one another (`ordered_fields`) and each holds what was put into it, so that
reading the record gives the event back (`reads_back`).
-/

namespace EventLog.Event

open RecordFields

/-- An event that a log writer can store. -/
structure Storable (event : Event) : Prop where
  /-- The name of the source has no zero character. -/
  sourceName : Char.ofNat 0 ∉ event.sourceName.toList
  /-- The name of the computer has no zero character. -/
  computerName : Char.ofNat 0 ∉ event.computerName.toList
  /-- A security identifier that is present is not empty. -/
  sid : event.sidBytes ≠ some []
  /-- No string has a zero character. -/
  strings : ∀ text ∈ event.strings, Char.ofNat 0 ∉ text.toList
  /-- There are at most as many strings as 16 bits can count. -/
  count : event.strings.length ≤ 65535
  /-- The size of the whole record fits into 32 bits. -/
  room : event.size < UInt32.size

/-- A record holds all that was put into an event. -/
structure HeldBy (event : Event) (record : Record) : Prop where
  /-- The number of the record. -/
  number : record.number = event.number
  /-- When the event happened and when it was written. -/
  times : record.created = event.created ∧ record.written = event.written
  /-- Which event it is. -/
  identifier : record.identifier = event.identifier
  /-- What kind of event it is, and its category. -/
  kind : record.kind = event.kind ∧ record.category = event.category
  /-- The reserved flags and the number of the last record of its group. -/
  reserved : record.flags = event.flags ∧ record.closingNumber = event.closingNumber
  /-- The sizes and the count are those of what was put in. -/
  sizes : record.size.toNat = event.encode.length ∧ record.sidSize.toNat = event.sid.length ∧
    record.stringCount.toNat = event.strings.length ∧ record.dataSize.toNat = event.data.length
  /-- The offsets are those at which the regions were laid out. -/
  offsets : record.sidOffset.toNat = event.sidOffset ∧
    record.stringsOffset.toNat = event.stringsOffset ∧ record.dataOffset.toNat = event.dataOffset
  /-- The name of the source is read as it was written. -/
  sourceName : record.sourceText = .ok event.sourceName
  /-- The name of the computer is read as it was written. -/
  computerName : record.computerText = .ok event.computerName
  /-- The bytes of the security identifier, or that there is none. -/
  sid : record.sidBytes = event.sidBytes
  /-- There is a table of strings just if there are strings. -/
  table : record.strings = none ↔ event.strings = []
  /-- All strings, in order. -/
  texts : record.texts = event.strings.map .ok
  /-- The string at each index, and none at any other. -/
  string : ∀ index, record.string index =
    (event.strings[index]?).elim
      (.error (.outOfBounds .stringIndex index 1 event.strings.length)) .ok
  /-- The binary data. -/
  data : record.data = event.data

/-- The strings as a table, which is absent if there are none. -/
def table (event : Event) : Option StringTable :=
  if event.strings = [] then none
  else some ⟨event.strings.map fun text => CodeUnits.encode text.toList, []⟩

/-- The record that the bytes are read as. -/
def stored (event : Event) : Record where
  toRecordFields := event.fields
  offset := 0
  sourceName := CodeUnits.encode event.sourceName.toList
  computerName := CodeUnits.encode event.computerName.toList
  sidBytes := event.sidBytes
  strings := event.table
  data := event.data

/-- The words of the fixed part hold sizes, offsets and the count in full. -/
structure Exact (event : Event) : Prop where
  /-- The size of the record. -/
  size : event.fields.size.toNat = event.size
  /-- How many strings there are. -/
  count : event.fields.stringCount.toNat = event.strings.length
  /-- Where the strings start. -/
  stringsOffset : event.fields.stringsOffset.toNat = event.stringsOffset
  /-- The size of the security identifier. -/
  sidSize : event.fields.sidSize.toNat = event.sid.length
  /-- Where the security identifier starts. -/
  sidOffset : event.fields.sidOffset.toNat = event.sidOffset
  /-- The size of the binary data. -/
  dataSize : event.fields.dataSize.toNat = event.data.length
  /-- Where the binary data starts. -/
  dataOffset : event.fields.dataOffset.toNat = event.dataOffset

variable {event : Event}

/-- The regions lie one right after the other, from the fixed part to the trailing size. -/
theorem offsets_le (event : Event) :
    width ≤ event.sidOffset ∧ event.sidOffset + event.sid.length = event.stringsOffset ∧
      event.stringsOffset + event.packed.length = event.dataOffset ∧
      event.dataOffset + event.data.length + 4 ≤ event.size := by
  refine ⟨Nat.le_add_right _ _, rfl, rfl, ?_⟩
  rw [size]
  omega

/-- What a log writer can store fits into the words of the fixed part. -/
theorem exact_fields (storable : event.Storable) : event.Exact := by
  have word {n : Nat} (le : n ≤ event.size) : (UInt32.ofNat n).toNat = n :=
    UInt32.toNat_ofNat_of_lt' (Nat.lt_of_le_of_lt le storable.room)
  have few : event.strings.length < UInt16.size := Nat.lt_succ_of_le storable.count
  have bounds := event.offsets_le
  exact ⟨word (Nat.le_refl _), UInt16.toNat_ofNat_of_lt' few, word (by omega), word (by omega),
    word (by omega), word (by omega), word (by omega)⟩

/-- A record without a security identifier declares the size zero for it. -/
theorem sidSize_eq_zero_iff (storable : event.Storable) :
    event.fields.sidSize = 0 ↔ event.sidBytes = none := by
  have size := (exact_fields storable).sidSize
  have some := storable.sid
  rw [← UInt32.toNat_inj, size, sid]
  cases present : event.sidBytes with
  | none => exact ⟨fun _ => rfl, fun _ => rfl⟩
  | some bytes =>
    have nonempty : bytes ≠ [] := by
      intro empty
      rw [present, empty] at some
      exact some rfl
    exact ⟨fun empty => absurd (List.eq_nil_of_length_eq_zero empty) nonempty, nofun⟩

/-- A record without strings declares none. -/
theorem stringCount_eq_zero_iff (storable : event.Storable) :
    event.fields.stringCount = 0 ↔ event.strings = [] := by
  have count := (exact_fields storable).count
  rw [← UInt16.toNat_inj, count]
  exact List.length_eq_zero_iff

/-- A record without binary data declares the size zero for it. -/
theorem dataSize_eq_zero_iff (storable : event.Storable) :
    event.fields.dataSize = 0 ↔ event.data = [] := by
  have size := (exact_fields storable).dataSize
  rw [← UInt32.toNat_inj, size]
  exact List.length_eq_zero_iff

/-- Without a security identifier the strings start where it would. -/
theorem stringsOffset_of_absent (absent : event.sidBytes = none) :
    event.stringsOffset = event.sidOffset := by
  rw [stringsOffset, sid, absent]
  rfl

/-- The region of the names ends where the security identifier starts, or would. -/
theorem membersEnd_fields (storable : event.Storable) :
    event.fields.membersEnd = event.sidOffset := by
  have exact := exact_fields storable
  unfold membersEnd
  split
  · exact exact.sidOffset
  · rename_i zero
    have absent := (sidSize_eq_zero_iff storable).mp (Decidable.not_not.mp zero)
    rw [exact.stringsOffset, stringsOffset_of_absent absent]

/-- The strings start where the region before them ends. -/
theorem sidEnd_fields (storable : event.Storable) :
    event.fields.sidEnd = event.stringsOffset := by
  have exact := exact_fields storable
  unfold sidEnd
  split
  · rename_i zero
    have absent := (sidSize_eq_zero_iff storable).mp zero
    rw [membersEnd_fields storable, stringsOffset_of_absent absent]
  · rw [exact.sidOffset, exact.sidSize]
    rfl

/-- The fields describe regions that follow one another before the trailing size. -/
theorem ordered_fields (storable : event.Storable) :
    event.fields.Ordered event.fields.limit := by
  have exact := exact_fields storable
  have bounds := event.offsets_le
  have limit : event.dataOffset + event.data.length ≤ event.fields.limit := by
    rw [RecordFields.limit, exact.size]
    omega
  have stringsEnd : event.fields.stringsEnd ≤ event.dataOffset := by
    unfold RecordFields.stringsEnd
    split
    · rw [sidEnd_fields storable]
      omega
    · exact Nat.le_of_eq exact.dataOffset
  refine ⟨?_, ?_, ?_, ?_⟩
  · rw [membersEnd_fields storable]
    omega
  · intro _
    rw [exact.sidOffset, exact.sidSize]
    omega
  · intro _
    rw [sidEnd_fields storable, exact.stringsOffset, exact.dataOffset]
    omega
  · intro _
    rw [exact.dataOffset, exact.dataSize]
    omega

/-- The parts of the record in the order in which they are laid out. -/
def parts (event : Event) : List Bytes :=
  [event.fields.toBytes, event.members, event.sid, event.packed, event.data,
    List.replicate event.padding 0, Bytes.ofNat 4 event.size]

/-- The bytes of the record are its parts, one after the other. -/
theorem encode_eq_flatten (event : Event) : event.encode = event.parts.flatten := by
  simp only [encode, parts, List.flatten_cons, List.flatten_nil, List.append_nil,
    List.append_assoc]

/-- Each part stands where the parts before it end. -/
theorem slice_part {index offset : Nat} {part : Bytes} (listed : event.parts[index]? = some part)
    (starts : (event.parts.take index).flatten.length = offset) :
    event.encode.slice offset part.length = part := by
  have within : index < event.parts.length := (List.getElem?_eq_some_iff.mp listed).1
  have here : event.parts[index] = part := (List.getElem?_eq_some_iff.mp listed).2
  have cut : event.parts.flatten = (event.parts.take index).flatten ++
      (part ++ (event.parts.drop (index + 1)).flatten) := by
    rw [← List.flatten_cons, ← here, ← List.drop_eq_getElem_cons within, ← List.flatten_append,
      List.take_append_drop]
  rw [encode_eq_flatten, cut]
  exact Bytes.slice_between starts _ _

/-- Where the parts before a region end, the region starts. -/
theorem length_flatten_take_parts (event : Event) :
    (event.parts.take 1).flatten.length = width ∧
      (event.parts.take 2).flatten.length = event.sidOffset ∧
      (event.parts.take 3).flatten.length = event.stringsOffset ∧
      (event.parts.take 4).flatten.length = event.dataOffset := by
  simp only [parts, List.take_succ_cons, List.take_zero, List.flatten_cons, List.flatten_nil,
    List.append_nil, List.length_append, length_toBytes, dataOffset, stringsOffset, sidOffset,
    Nat.add_assoc, and_self]

/-- The names stand at the front of their region, which is theirs alone. -/
theorem names_encode (storable : event.Storable) :
    Record.names event.encode event.fields.layout.members =
      .ok (event.stored.sourceName, event.stored.computerName) := by
  have starts := event.length_flatten_take_parts.1
  have size : event.sidOffset - width = event.members.length := by
    rw [sidOffset, Nat.add_sub_cancel_left]
  have region : event.fields.layout.members.of event.encode = event.members := by
    rw [Region.of, layout, membersEnd_fields storable, size]
    exact slice_part rfl starts
  have source := CodeUnits.zero_not_mem_encode storable.sourceName
  have computer := CodeUnits.zero_not_mem_encode storable.computerName
  rw [Record.names_eq_ok_iff, region]
  exact ⟨List.prefix_rfl, source, computer⟩

/-- The table of strings is read from the region of the strings. -/
theorem stringsIn_encode (storable : event.Storable) :
    Record.stringsIn event.encode event.fields.layout.strings = .ok event.table := by
  have exact := exact_fields storable
  have starts := event.length_flatten_take_parts.2.2.1
  have size : event.dataOffset - event.stringsOffset = event.packed.length := by
    rw [dataOffset, Nat.add_sub_cancel_left]
  have slice : event.encode.slice event.stringsOffset event.packed.length = event.packed :=
    slice_part rfl starts
  rw [layout, table]
  dsimp only
  by_cases none : event.strings = []
  · rw [if_pos ((stringCount_eq_zero_iff storable).mpr none), if_pos none]
    rfl
  · have some : event.fields.stringCount ≠ 0 :=
      fun zero => none ((stringCount_eq_zero_iff storable).mp zero)
    have even := StringTable.length_packed event.strings
    have units : StringTable.ofUnits (CodeUnits.ofBytes event.packed) =
        ⟨event.strings.map fun text => CodeUnits.encode text.toList, []⟩ :=
      StringTable.ofUnits_packed storable.strings
    rw [if_neg some, if_neg none, exact.stringsOffset, exact.dataOffset, size,
      Record.stringsIn_eq_ok_iff, Option.map_some, Region.of, slice, units]
    refine ⟨?_, rfl⟩
    intro region present
    cases present
    rw [Region.of, slice]
    exact ⟨even.2 none, even.1⟩

/-- The security identifier is read from its region, and is absent if there is none. -/
theorem sid_encode (storable : event.Storable) :
    event.fields.layout.sid.map (Region.of event.encode) = event.sidBytes := by
  have exact := exact_fields storable
  have starts := event.length_flatten_take_parts.2.1
  have slice : event.encode.slice event.sidOffset event.sid.length = event.sid :=
    slice_part rfl starts
  rw [layout]
  dsimp only
  cases present : event.sidBytes with
  | none =>
    rw [if_pos ((sidSize_eq_zero_iff storable).mpr present)]
    rfl
  | some bytes =>
    have some : event.fields.sidSize ≠ 0 := by
      intro zero
      have absent := (sidSize_eq_zero_iff storable).mp zero
      rw [present] at absent
      cases absent
    have same : event.sid = bytes := by rw [sid, present, Option.getD_some]
    rw [if_neg some, exact.sidOffset, exact.sidSize, Option.map_some, Region.of, slice, same]

/-- The binary data is read from its region. -/
theorem data_encode (storable : event.Storable) :
    (event.fields.layout.data.map (Region.of event.encode)).getD [] = event.data := by
  have exact := exact_fields storable
  have starts := event.length_flatten_take_parts.2.2.2
  have slice : event.encode.slice event.dataOffset event.data.length = event.data :=
    slice_part rfl starts
  rw [layout]
  dsimp only
  by_cases none : event.data = []
  · rw [if_pos ((dataSize_eq_zero_iff storable).mpr none), none]
    rfl
  · have some : event.fields.dataSize ≠ 0 :=
      fun zero => none ((dataSize_eq_zero_iff storable).mp zero)
    rw [if_neg some, exact.dataOffset, exact.dataSize, Option.map_some, Option.getD_some,
      Region.of, slice]

/-- The fixed part holds the fields. -/
theorem ofBytes_encode (event : Event) : ofBytes event.encode = event.fields := by
  rw [encode_eq_flatten, parts, List.flatten_cons]
  exact ofBytes_toBytes_append _ _

/-- The front of the record is right. -/
theorem checkFront_encode (storable : event.Storable) :
    Record.checkFront event.encode = .ok () := by
  have length := event.length_encode
  have bounds := event.offsets_le
  have shown : event.encode.word32 0 = event.fields.size := by
    rw [← event.ofBytes_encode, ofBytes]
  have signed : event.encode.slice 4 4 = logSignature := by
    rw [encode_eq_flatten, parts, List.flatten_cons]
    exact slice_toBytes_append _ _
  rw [Record.checkFront_eq_ok_iff, shown, (exact_fields storable).size, length, Record.minimumSize]
  rw [width] at bounds
  exact ⟨by omega, rfl, signed⟩

/-- The record repeats its size at its end. -/
theorem checkBack_encode (storable : event.Storable) :
    Record.checkBack event.encode = .ok () := by
  have length := event.length_encode
  have exact := (exact_fields storable).size
  have last : (Bytes.ofNat 4 event.size).length = 4 := Bytes.length_ofNat 4 _
  have starts : (event.parts.take 6).flatten.length = event.encode.length - 4 := by
    have whole := congrArg List.length event.encode_eq_flatten
    have cut : event.parts.flatten = (event.parts.take 6).flatten ++
        Bytes.ofNat 4 event.size := by
      rw [← List.flatten_concat]
      rfl
    rw [cut, List.length_append, last] at whole
    omega
  have slice : event.encode.slice (event.encode.length - 4) (Bytes.ofNat 4 event.size).length =
      Bytes.ofNat 4 event.size := slice_part rfl starts
  rw [last] at slice
  have small : event.size < Bytes.capacity 4 := storable.room
  have word : event.encode.word32 (event.encode.length - 4) = event.fields.size := by
    rw [Bytes.word32, slice, Bytes.littleEndian_ofNat, Nat.mod_eq_of_lt small]
    rfl
  rw [Record.checkBack_eq_ok_iff, word, exact, length]

/-- Reading the record that was stored for an event gives the stored record. -/
theorem decode_encode_stored (storable : event.Storable) :
    Record.decode event.encode = .ok event.stored := by
  rw [Record.decode_eq_ok_iff, event.ofBytes_encode]
  exact ⟨checkFront_encode storable, checkBack_encode storable, ordered_fields storable,
    names_encode storable, stringsIn_encode storable, rfl, rfl, (sid_encode storable).symm,
    (data_encode storable).symm⟩

/-- The string at an index of the stored record is the one that was put in there. -/
theorem string_stored (event : Event) (index : Nat) :
    event.stored.string index = (event.strings[index]?).elim
      (.error (.outOfBounds .stringIndex index 1 event.strings.length)) .ok := by
  unfold Record.string Record.tableFor stored table
  dsimp only
  by_cases none : event.strings = []
  · rw [if_pos none, none]
    rfl
  · rw [if_neg none]
    show StringTable.text _ index = _
    unfold StringTable.text StringTable.entry StringTable.size
    rw [List.getElem?_map, List.length_map]
    cases event.strings[index]? with
    | none => rfl
    | some text => exact CodeUnits.text_encode .string text

/-- The texts of the stored record are the strings that were put in. -/
theorem texts_stored (event : Event) : event.stored.texts = event.strings.map .ok := by
  unfold Record.texts stored table
  dsimp only
  by_cases none : event.strings = []
  · rw [if_pos none, none]
    rfl
  · rw [if_neg none, Option.map_some, Option.getD_some, StringTable.texts, List.map_map]
    refine List.map_congr_left ?_
    intro text _
    exact CodeUnits.text_encode .string text

/-- The stored record holds all that was put into the event. -/
theorem stored_heldBy (storable : event.Storable) : event.HeldBy event.stored := by
  have exact := exact_fields storable
  have table : event.table = none ↔ event.strings = [] := by
    unfold table
    split
    · rename_i none
      exact ⟨fun _ => none, fun _ => rfl⟩
    · rename_i some
      exact ⟨nofun, fun none => absurd none some⟩
  have size : event.fields.size.toNat = event.encode.length :=
    event.toNat_size_fields storable.room
  exact
    { number := rfl
      times := ⟨rfl, rfl⟩
      identifier := rfl
      kind := ⟨rfl, rfl⟩
      reserved := ⟨rfl, rfl⟩
      sizes := ⟨size, exact.sidSize, exact.count, exact.dataSize⟩
      offsets := ⟨exact.sidOffset, exact.stringsOffset, exact.dataOffset⟩
      sourceName := CodeUnits.text_encode .sourceName event.sourceName
      computerName := CodeUnits.text_encode .computerName event.computerName
      sid := rfl
      table := table
      texts := event.texts_stored
      string := event.string_stored
      data := rfl }

/-- The record that a log writer stores for an event is read, and holds all that was put into the
event. -/
theorem reads_back (storable : event.Storable) :
    ∃ record, Record.decode event.encode = .ok record ∧ event.HeldBy record :=
  ⟨event.stored, decode_encode_stored storable, stored_heldBy storable⟩

/-- An event whose texts are empty, lie beyond the basic plane, or have a zero byte inside a
unit. -/
def oddEvent : Event where
  number := 7
  created := 1000
  written := 1001
  identifier := ⟨0x40000001⟩
  kind := ⟨4⟩
  category := 3
  flags := 0
  closingNumber := 0
  sourceName := ""
  computerName := "𝄞Ā"
  sidBytes := some [1, 0, 0, 0, 0, 0, 0, 5]
  strings := ["Ā", "", "𝄞"]
  data := [0, 0, 0]

/-- That event can be stored, is read back and holds its strings. -/
theorem reads_back_odd_event : oddEvent.Storable ∧
    ∃ record, Record.decode oddEvent.encode = .ok record ∧ oddEvent.HeldBy record ∧
      record.texts = [.ok "Ā", .ok "", .ok "𝄞"] := by
  have storable : oddEvent.Storable :=
    ⟨by decide, by decide, by decide, by decide, by decide, by decide⟩
  obtain ⟨record, decoded, held⟩ := reads_back storable
  exact ⟨storable, record, decoded, held, held.texts⟩

end EventLog.Event
