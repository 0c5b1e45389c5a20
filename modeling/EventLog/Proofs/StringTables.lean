import EventLog.Event
import EventLog.Narrow
import EventLog.StringTable.Ranges

/-!
# A table of strings is its bytes, cut after every zero unit

Reading a table succeeds on every even number of bytes but none. The strings and the unfinished rest
then join to these bytes; there are as many strings as zero units, and each ends with its own
(`partition_of_decode`). What the table says of a string, it says of the bytes of that string
(`entryOf`), and beyond the last string it says that there is none (`noEntry`). Texts without a zero
character, each with a zero unit, one after the other, are read back as these texts
(`decode_packed`).
-/

namespace EventLog.StringTable

open CodeUnits

/-- What a table says of a string is right for the bytes of the string. -/
structure EntryOf (table : StringTable) (index : Nat) (bytes : Bytes) : Prop where
  /-- The bytes end with their only zero unit, and without it are the units of the string. -/
  units : ∃ units, table.entry index = .ok units ∧ Terminated bytes units
  /-- The size in UTF-16 is half the number of bytes. -/
  utf16 : ∃ size, table.utf16Size index = .ok size ∧ size * 2 = bytes.length
  /-- The text has these bytes in UTF-16 with a terminator, and the size in UTF-8 is its own with a
  terminator. -/
  text : ∀ text, table.text index = .ok text →
    encodeEntry (CodeUnits.encode text.toList) = bytes ∧
      table.utf8Size index = .ok (text.utf8ByteSize + 1)

/-- There is no string at an index, and whatever is asked of it fails for that reason. -/
structure NoEntry (table : StringTable) (index : Nat) : Prop where
  /-- It has no bytes. -/
  bytes : table.stringBytes index = none
  /-- It has no units. -/
  units : table.entry index = .error (.outOfBounds .stringIndex index 1 table.size)
  /-- It is no text. -/
  text : table.text index = .error (.outOfBounds .stringIndex index 1 table.size)
  /-- It has no size in UTF-8. -/
  utf8 : table.utf8Size index = .error (.outOfBounds .stringIndex index 1 table.size)
  /-- It has no size in UTF-16. -/
  utf16 : table.utf16Size index = .error (.outOfBounds .stringIndex index 1 table.size)
  /-- It is no text in any codepage. -/
  narrow : ∀ codepage,
    table.narrow codepage index = .error (.outOfBounds .stringIndex index 1 table.size)

/-- A table cuts bytes into these strings. -/
structure Partition (bytes : Bytes) (table : StringTable) (strings : List Bytes) : Prop where
  /-- The strings and the unfinished rest join to the bytes. -/
  joined : strings.flatten ++ table.rest.toBytes = bytes
  /-- The unfinished rest has no zero unit. -/
  rest : 0 ∉ table.rest
  /-- There is a string for each zero unit. -/
  count : table.size = (ofBytes bytes).count 0
  /-- The table has as many strings. -/
  size : table.size = strings.length
  /-- At each index the table has the string, or none after the last. -/
  listed : ∀ index, table.stringBytes index = strings[index]?
  /-- The strings are the bytes of the ranges that a pass over the units finds. -/
  placed : strings = (ranges (ofBytes bytes)).map (inRange bytes)
  /-- What the table says of each string is right. -/
  entries : ∀ index string, table.stringBytes index = some string → table.EntryOf index string
  /-- At and after the size of the table there is no string. -/
  beyond : ∀ index, table.size ≤ index → table.NoEntry index
  /-- The texts are those at each index in order. -/
  texts : table.texts = (List.range table.size).map table.text

/-- There are as many strings as zero units. -/
theorem size_ofUnits (units : CodeUnits) : (ofUnits units).size = units.count 0 := by
  induction units with
  | nil => rfl
  | cons u units ih =>
    rw [size] at ih ⊢
    rw [ofUnits]
    split
    · rename_i zero
      rw [zero, List.count_cons_self, ← ih, List.length_cons]
    · rename_i something
      rw [List.count_cons_of_ne something, ← ih]
      split
      · rename_i none
        rw [none]
      · rename_i first others some
        rw [some, List.length_cons, List.length_cons]

/-- What a table says of a string without a zero unit is right for its bytes. -/
theorem entryOf {table : StringTable} (whole : ∀ entry ∈ table.entries, 0 ∉ entry) {index : Nat}
    {bytes : Bytes} (here : table.stringBytes index = some bytes) : table.EntryOf index bytes := by
  obtain ⟨units, there, rfl⟩ := Option.map_eq_some_iff.mp here
  have entry : table.entry index = .ok units := by rw [StringTable.entry, there]
  have ended : Terminated (encodeEntry units) units :=
    terminated (whole units (List.mem_of_getElem? there))
  refine ⟨⟨units, entry, ended⟩, ⟨units.utf16Size, ?_, ended.half⟩, ?_⟩
  · rw [utf16Size, entry]
    rfl
  · intro text read
    have read' : units.text .string = .ok text := by
      rw [StringTable.text, entry] at read
      exact read
    refine ⟨by rw [text_eq_ok_iff.mp read'], ?_⟩
    have size : units.utf8Size .string = .ok (text.utf8ByteSize + 1) := by
      rw [CodeUnits.utf8Size, read']
      rfl
    rw [utf8Size, entry]
    exact size

/-- After the last string there is none. -/
theorem noEntry {table : StringTable} {index : Nat} (beyond : table.size ≤ index) :
    table.NoEntry index := by
  have none : table.entries[index]? = none := List.getElem?_eq_none beyond
  have entry : table.entry index = .error (.outOfBounds .stringIndex index 1 table.size) := by
    rw [StringTable.entry, none]
  have text : table.text index = .error (.outOfBounds .stringIndex index 1 table.size) := by
    rw [StringTable.text, entry]
    rfl
  refine ⟨?_, entry, text, ?_, ?_, ?_⟩
  · rw [stringBytes, none]
    rfl
  · rw [utf8Size, entry]
    rfl
  · rw [utf16Size, entry]
    rfl
  · intro codepage
    rw [narrow, text]
    rfl

/-- The texts of a table are those at each index in order. -/
theorem texts_eq (table : StringTable) : table.texts = (List.range table.size).map table.text := by
  refine List.ext_getElem? fun index => ?_
  rw [texts, size, List.getElem?_map, List.getElem?_map]
  by_cases within : index < table.entries.length
  · have there : table.entries[index]? = some table.entries[index] :=
      List.getElem?_eq_getElem within
    have text : table.text index = CodeUnits.text .string table.entries[index] := by
      rw [StringTable.text, StringTable.entry, there]
      rfl
    rw [there, List.getElem?_range within, Option.map_some, Option.map_some, text]
  · have beyond : (List.range table.entries.length).length ≤ index := by
      rw [List.length_range]
      exact Nat.le_of_not_lt within
    rw [List.getElem?_eq_none (Nat.le_of_not_lt within), List.getElem?_eq_none beyond,
      Option.map_none, Option.map_none]

/-- A table that is read from bytes cuts these into its strings. -/
theorem partition_of_decode {bytes : Bytes} {table : StringTable}
    (decoded : decode bytes = .ok table) :
    Partition bytes table (table.entries.map encodeEntry) := by
  obtain ⟨⟨-, even⟩, rfl⟩ := decode_eq_ok_iff.mp decoded
  obtain ⟨whole, rest⟩ := zero_not_mem_ofUnits (ofBytes bytes)
  have joined := encode_ofUnits (ofBytes bytes)
  rw [encode, toBytes_ofBytes even, List.flatMap_def] at joined
  exact {
    joined := joined
    rest := rest
    count := size_ofUnits _
    size := (List.length_map _).symm
    listed := fun index => List.getElem?_map.symm
    placed := (slices_ranges even).symm
    entries := fun index string here => entryOf whole here
    beyond := fun index => noEntry
    texts := texts_eq _ }

/-- Texts without a zero character are read back from the bytes that they are packed into. -/
theorem ofUnits_packed {strings : List String}
    (whole : ∀ text ∈ strings, Char.ofNat 0 ∉ text.toList) :
    ofUnits (ofBytes (strings.flatMap Event.encodeText)) =
      ⟨strings.map fun text => CodeUnits.encode text.toList, []⟩ := by
  have bytes : strings.flatMap Event.encodeText =
      encode ⟨strings.map fun text => CodeUnits.encode text.toList, []⟩ := by
    rw [encode, List.flatMap_map, toBytes, List.flatMap_nil, List.append_nil]
    rfl
  have entries : ∀ entry ∈ strings.map fun text => CodeUnits.encode text.toList, 0 ∉ entry := by
    intro entry member
    obtain ⟨text, present, rfl⟩ := List.mem_map.mp member
    exact zero_not_mem_encode (whole text present)
  rw [bytes]
  exact ofUnits_encode entries List.not_mem_nil

/-- Packed texts are an even number of bytes, at least two if there is one. -/
theorem length_packed (strings : List String) :
    (strings.flatMap Event.encodeText).length % 2 = 0 ∧
      (strings ≠ [] → 2 ≤ (strings.flatMap Event.encodeText).length) := by
  induction strings with
  | nil => exact ⟨rfl, fun some => absurd rfl some⟩
  | cons first others ih =>
    have length : (Event.encodeText first).length =
        2 * (CodeUnits.encode first.toList).length + 2 := length_encodeEntry _
    rw [List.flatMap_cons, List.length_append]
    exact ⟨by omega, fun _ => by omega⟩

/-- A table can be read from texts that are packed, and its texts are these. -/
theorem decode_packed {strings : List String} (some : strings ≠ [])
    (whole : ∀ text ∈ strings, Char.ofNat 0 ∉ text.toList) :
    ∃ table, decode (strings.flatMap Event.encodeText) = .ok table ∧
      table.texts = strings.map .ok ∧ table.rest = [] := by
  obtain ⟨even, room⟩ := length_packed strings
  refine ⟨_, decode_eq_ok_iff.mpr ⟨⟨room some, even⟩, rfl⟩, ?_, ?_⟩
  · rw [ofUnits_packed whole, texts, List.map_map]
    exact List.map_congr_left fun text _ => text_encode .string text
  · rw [ofUnits_packed whole]

/-- A table can be read from every even number of bytes but none, and cuts them into its strings;
packed texts are read back. -/
theorem partitions :
    (∀ bytes, ((∃ table, decode bytes = .ok table) ↔ bytes.length % 2 = 0 ∧ 2 ≤ bytes.length) ∧
      ∀ table, decode bytes = .ok table → ∃ strings, Partition bytes table strings) ∧
    ∀ strings : List String, strings ≠ [] → (∀ text ∈ strings, Char.ofNat 0 ∉ text.toList) →
      ∃ table, decode (strings.flatMap Event.encodeText) = .ok table ∧
        table.texts = strings.map .ok ∧ table.rest = [] := by
  refine ⟨?_, fun strings => decode_packed⟩
  intro bytes
  refine ⟨?_, fun table decoded => ⟨_, partition_of_decode decoded⟩⟩
  constructor
  · rintro ⟨table, decoded⟩
    exact (decode_eq_ok_iff.mp decoded).1.symm
  · intro even
    exact ⟨_, decode_eq_ok_iff.mpr ⟨even.symm, rfl⟩⟩

/-- Two strings, the first of them empty, a lone half of a surrogate pair as the third, and an
unfinished rest. -/
def unevenTable : Bytes :=
  [0x00, 0x00, 0x41, 0x00, 0x00, 0x01, 0x00, 0x00, 0x00, 0xD8, 0x00, 0x00, 0x43, 0x00]

/-- That table has three strings and an unfinished rest; the third string has bytes but is no text,
and there is no fourth. Two texts that are packed come back. -/
theorem unevenTable_partitions : ∃ table strings, decode unevenTable = .ok table ∧
    Partition unevenTable table strings ∧ table.size = 3 ∧ table.rest = [0x43] ∧
    strings[2]? = some [0x00, 0xD8, 0x00, 0x00] ∧
    table.text 2 = .error (.invalidText .string) ∧ table.NoEntry 3 ∧
    ∃ packed, decode (["", "A𝄞"].flatMap Event.encodeText) = .ok packed ∧
      packed.texts = [.ok "", .ok "A𝄞"] := by
  obtain ⟨cuts, packs⟩ := partitions
  have decoded : decode unevenTable =
      .ok ⟨[[], [0x41, 0x0100], [0xD800]], [0x43]⟩ := rfl
  obtain ⟨strings, partition⟩ := (cuts unevenTable).2 _ decoded
  obtain ⟨packed, read, texts, -⟩ := packs ["", "A𝄞"] nofun (by decide)
  refine ⟨_, strings, decoded, partition, rfl, rfl, ?_, rfl, ?_, packed, read, texts⟩
  · rw [← partition.listed 2]
    decide
  · exact partition.beyond 3 (Nat.le_refl 3)

end EventLog.StringTable
