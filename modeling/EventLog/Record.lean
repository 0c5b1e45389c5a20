import EventLog.Record.Layout
import EventLog.Sid
import EventLog.StringTable

/-!
# Event records

An event record holds the numbers of its fixed part, the names of the source and the computer, and
as far as they are present the user's security identifier, strings and binary data. Its size stands
at both ends; of the two only the first is kept, because `checkBack` refuses a record whose last
bytes are not the same size. `decode` reads a record that takes up all of the bytes; texts stay as
code units and are decoded when asked for.
-/

namespace EventLog

/-- An event record. The copy of the size at its end is left out: it is the size. -/
structure Record extends RecordFields where
  /-- Where in the file the record starts. -/
  offset : Nat
  /-- The name of the source, without the zero unit. -/
  sourceName : CodeUnits
  /-- The name of the computer, without the zero unit. -/
  computerName : CodeUnits
  /-- The bytes of the user's security identifier. -/
  sidBytes : Option Bytes
  /-- The strings. -/
  strings : Option StringTable
  /-- The binary data; empty if there is none. -/
  data : Bytes
  deriving DecidableEq, Repr

namespace Record

/-- The size of the smallest record: the fixed part and the trailing size. -/
def minimumSize : Nat := 60

/-- Cuts a name off the units at `start`; it must end before `stop`. -/
def cutName (part : Part) (units : CodeUnits) (start stop : Nat) :
    Except DecodeError (CodeUnits × CodeUnits) :=
  match units.cut? with
  | some cut => .ok cut
  | none => .error (.outOfBounds part start (stop - start) stop)

/-- The names of source and computer at the front of a region. -/
def names (bytes : Bytes) (region : Region) : Except DecodeError (CodeUnits × CodeUnits) := do
  let (source, rest) ←
    cutName .sourceName (CodeUnits.ofBytes (region.of bytes)) region.start region.stop
  let (computer, _) ←
    cutName .computerName rest (region.start + 2 * source.utf16Size) region.stop
  return (source, computer)

/-- The table of strings in a region, if there is one. -/
def stringsIn (bytes : Bytes) : Option Region → Except DecodeError (Option StringTable)
  | some region => (StringTable.decode (region.of bytes)).map some
  | none => .ok none

/-- Checks the size and the signature at the front of a record. -/
def checkFront (bytes : Bytes) : Except DecodeError Unit :=
  if bytes.length < minimumSize then .error (.truncated .record 0 minimumSize bytes.length)
  else if (bytes.word32 0).toNat ≠ bytes.length then
    .error (.sizeMismatch .recordSize bytes.length (bytes.word32 0).toNat)
  else if bytes.slice 4 4 ≠ logSignature then
    .error (.signatureMismatch .recordSignature logSignature (bytes.slice 4 4))
  else .ok ()

/-- Checks that the last four bytes of a record repeat its size. -/
def checkBack (bytes : Bytes) : Except DecodeError Unit :=
  let copy := (bytes.word32 (bytes.length - 4)).toNat
  if copy ≠ bytes.length then .error (.sizeMismatch .recordSizeCopy bytes.length copy)
  else .ok ()

/-- Reads a record that takes up all of the bytes. -/
def decode (bytes : Bytes) : Except DecodeError Record := do
  checkFront bytes
  let fields := RecordFields.ofBytes bytes
  let layout ← Layout.ofFields fields
  let (source, computer) ← names bytes layout.members
  let strings ← stringsIn bytes layout.strings
  checkBack bytes
  return { toRecordFields := fields
           offset := 0
           sourceName := source
           computerName := computer
           sidBytes := layout.sid.map (Region.of bytes)
           strings := strings
           data := ((layout.data.map (Region.of bytes)).getD []) }

/-- The front of a record is right if it is long enough, shows its length and has the signature. -/
theorem checkFront_eq_ok_iff {bytes : Bytes} :
    checkFront bytes = .ok () ↔
      minimumSize ≤ bytes.length ∧ (bytes.word32 0).toNat = bytes.length ∧
        bytes.slice 4 4 = logSignature := by
  unfold checkFront
  by_cases short : bytes.length < minimumSize
  · rw [if_pos short]
    exact ⟨nofun, fun h => absurd h.1 (by omega)⟩
  · rw [if_neg short]
    by_cases other : (bytes.word32 0).toNat ≠ bytes.length
    · rw [if_pos other]
      exact ⟨nofun, fun h => absurd h.2.1 other⟩
    · rw [if_neg other]
      by_cases wrong : bytes.slice 4 4 ≠ logSignature
      · rw [if_pos wrong]
        exact ⟨nofun, fun h => absurd h.2.2 wrong⟩
      · rw [if_neg wrong]
        have right := Decidable.not_not.mp other
        have signed := Decidable.not_not.mp wrong
        exact ⟨fun _ => ⟨by omega, right, signed⟩, fun _ => rfl⟩

/-- A name is cut off units just if it stands in front of them, followed by a zero unit that is its
first. -/
theorem cutName_eq_ok_iff {part : Part} {units name rest : CodeUnits} {start stop : Nat} :
    cutName part units start stop = .ok (name, rest) ↔ units = name ++ 0 :: rest ∧ 0 ∉ name := by
  rw [← CodeUnits.cut?_eq_some_iff]
  unfold cutName
  cases units.cut? with
  | none => exact ⟨nofun, nofun⟩
  | some cut => simp only [Except.ok.injEq, Option.some.injEq]

/-- Two names are read off a region just if they stand at its front, each followed by a zero unit
that is its first. -/
theorem names_eq_ok_iff {bytes : Bytes} {region : Region} {source computer : CodeUnits} :
    names bytes region = .ok (source, computer) ↔
      StringTable.encodeEntry source ++ StringTable.encodeEntry computer <+: region.of bytes ∧
        0 ∉ source ∧ 0 ∉ computer := by
  have front (tail : Bytes) : CodeUnits.ofBytes
      (StringTable.encodeEntry source ++ StringTable.encodeEntry computer ++ tail) =
        source ++ 0 :: (computer ++ 0 :: CodeUnits.ofBytes tail) := by
    rw [StringTable.encodeEntry, StringTable.encodeEntry, List.append_assoc,
      CodeUnits.ofBytes_toBytes_append, CodeUnits.ofBytes_toBytes_append]
    simp only [List.append_assoc, List.singleton_append]
  unfold names
  simp only [bind_eq_ok_iff, Prod.exists, cutName_eq_ok_iff]
  constructor
  · rintro ⟨_, _, ⟨first, sourceWhole⟩, _, last, ⟨second, computerWhole⟩, done⟩
    cases done
    refine ⟨?_, sourceWhole, computerWhole⟩
    rw [second] at first
    have joined : CodeUnits.ofBytes (region.of bytes) =
        (source ++ [0] ++ (computer ++ [0])) ++ last := by
      rw [first]
      simp only [List.append_assoc, List.cons_append, List.nil_append]
    obtain ⟨tail, whole, -⟩ := CodeUnits.ofBytes_eq_append_iff.mp joined
    rw [CodeUnits.toBytes_append] at whole
    exact ⟨tail, whole.symm⟩
  · rintro ⟨⟨tail, whole⟩, sourceWhole, computerWhole⟩
    rw [← whole, front]
    exact ⟨source, _, ⟨rfl, sourceWhole⟩, computer, _, ⟨rfl, computerWhole⟩, rfl⟩

/-- The trailing size of a record is right if it is the length. -/
theorem checkBack_eq_ok_iff {bytes : Bytes} :
    checkBack bytes = .ok () ↔ (bytes.word32 (bytes.length - 4)).toNat = bytes.length := by
  unfold checkBack
  dsimp only
  by_cases other : (bytes.word32 (bytes.length - 4)).toNat ≠ bytes.length
  · rw [if_pos other]
    exact ⟨nofun, fun same => absurd same other⟩
  · rw [if_neg other]
    exact ⟨fun _ => Decidable.not_not.mp other, fun _ => rfl⟩

/-- The strings are read off an absent region, or off one of an even number of bytes, at least
two. -/
theorem stringsIn_eq_ok_iff {bytes : Bytes} {region : Option Region}
    {strings : Option StringTable} :
    stringsIn bytes region = .ok strings ↔
      (∀ present ∈ region, 2 ≤ (present.of bytes).length ∧ (present.of bytes).length % 2 = 0) ∧
        strings = region.map fun present =>
          StringTable.ofUnits (CodeUnits.ofBytes (present.of bytes)) := by
  cases region with
  | none =>
    rw [stringsIn, Except.ok.injEq, Option.map_none]
    exact ⟨fun same => ⟨nofun, same.symm⟩, fun same => same.2.symm⟩
  | some region =>
    rw [stringsIn]
    simp only [map_eq_ok_iff, StringTable.decode_eq_ok_iff, Option.map_some,
      Option.mem_some_iff, forall_eq']
    constructor
    · rintro ⟨_, ⟨even, rfl⟩, rfl⟩
      exact ⟨even, rfl⟩
    · rintro ⟨even, rfl⟩
      exact ⟨_, ⟨even, rfl⟩, rfl⟩

/-- A record is read just if its front, its regions, its names, its strings and its trailing size
are right, and holds what stands in them. -/
theorem decode_eq_ok_iff {bytes : Bytes} {record : Record} :
    decode bytes = .ok record ↔
      checkFront bytes = .ok () ∧ checkBack bytes = .ok () ∧
        (RecordFields.ofBytes bytes).Ordered (RecordFields.ofBytes bytes).limit ∧
        names bytes (RecordFields.ofBytes bytes).layout.members =
          .ok (record.sourceName, record.computerName) ∧
        stringsIn bytes (RecordFields.ofBytes bytes).layout.strings = .ok record.strings ∧
        record.toRecordFields = RecordFields.ofBytes bytes ∧ record.offset = 0 ∧
        record.sidBytes = (RecordFields.ofBytes bytes).layout.sid.map (Region.of bytes) ∧
        record.data =
          ((RecordFields.ofBytes bytes).layout.data.map (Region.of bytes)).getD [] := by
  unfold decode
  simp only [bind_eq_ok_iff, Layout.ofFields_eq_ok_iff]
  constructor
  · rintro ⟨_, front, _, ⟨ordered, rfl⟩, ⟨source, computer⟩, names, strings, table, _, back, done⟩
    cases done
    exact ⟨front, back, ordered, names, table, rfl, rfl, rfl, rfl⟩
  · rintro ⟨front, back, ordered, names, table, fields, nowhere, sid, data⟩
    refine ⟨(), front, _, ⟨ordered, rfl⟩, _, names, _, table, (), back, ?_⟩
    rw [← sid, ← data, ← nowhere, ← fields]
    rfl

/-- A record that can be read has a right front, holds the fields at their offsets and does not know
where in a file it starts. -/
theorem front_of_decode {bytes : Bytes} {record : Record} (h : decode bytes = .ok record) :
    checkFront bytes = .ok () ∧ record.toRecordFields = RecordFields.ofBytes bytes ∧
      record.offset = 0 := by
  obtain ⟨front, -, -, -, -, fields, nowhere, -⟩ := decode_eq_ok_iff.mp h
  exact ⟨front, fields, nowhere⟩

/-- A record that can be read shows the size that it has. -/
theorem size_of_decode {bytes : Bytes} {record : Record} (h : decode bytes = .ok record) :
    record.size.toNat = bytes.length := by
  obtain ⟨front, fields, -⟩ := front_of_decode h
  have shown : record.size = bytes.word32 0 := by rw [fields, RecordFields.ofBytes]
  rw [shown]
  exact (checkFront_eq_ok_iff.mp front).2.1

/-- A record that can be read has at least the size of the smallest record. -/
theorem minimumSize_le_of_decode {bytes : Bytes} {record : Record}
    (h : decode bytes = .ok record) : minimumSize ≤ record.size.toNat := by
  rw [size_of_decode h]
  exact (checkFront_eq_ok_iff.mp (front_of_decode h).1).1

/-- The name of the source as text. -/
def sourceText (record : Record) : Except DecodeError String := record.sourceName.text .sourceName

/-- The name of the computer as text. -/
def computerText (record : Record) : Except DecodeError String :=
  record.computerName.text .computerName

/-- The user's security identifier, if the record has one. -/
def sid (record : Record) : Except DecodeError (Option Sid) :=
  match record.sidBytes with
  | some bytes => (Sid.decode bytes).map some
  | none => .ok none

/-- How many strings the table of the record holds. -/
def stringTotal (record : Record) : Nat := (record.strings.map StringTable.size).getD 0

/-- The table of strings, for a look-up at an index; a record without a table has no index. -/
def tableFor (record : Record) (index : Nat) : Except DecodeError StringTable :=
  match record.strings with
  | some table => .ok table
  | none => .error (.outOfBounds .stringIndex index 1 0)

/-- The string at an index as text. -/
def string (record : Record) (index : Nat) : Except DecodeError String :=
  record.tableFor index >>= fun table => table.text index

/-- How many bytes the string at an index takes in UTF-8, with the zero byte that ends it. -/
def utf8Size (record : Record) (index : Nat) : Except DecodeError Nat :=
  record.tableFor index >>= fun table => table.utf8Size index

/-- All strings as texts, in order; none if the record has no table. -/
def texts (record : Record) : List (Except DecodeError String) :=
  (record.strings.map StringTable.texts).getD []

end Record

end EventLog
