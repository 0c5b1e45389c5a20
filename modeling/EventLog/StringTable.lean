import EventLog.Error
import EventLog.Text.CodeUnits

/-!
# Packed tables of strings

The strings of an event stand one after the other, each ended by a zero unit; units after the last
zero belong to no string. A table keeps the units of every string and the unfinished rest, and its
bytes are exactly those it was read from (`encode`).
-/

namespace EventLog

/-- A packed table of UTF-16 strings. -/
structure StringTable where
  /-- The units of each string, without the zero unit that ends it. -/
  entries : List CodeUnits
  /-- The units after the last zero unit. -/
  rest : CodeUnits
  deriving DecidableEq, Repr

namespace StringTable

/-- Splits units after every zero unit. -/
def ofUnits : CodeUnits → StringTable
  | [] => ⟨[], []⟩
  | u :: units =>
    let table := ofUnits units
    if u = 0 then { table with entries := [] :: table.entries }
    else match table.entries with
      | [] => { table with rest := u :: table.rest }
      | first :: others => { table with entries := (u :: first) :: others }

/-- Reads a table from all of the bytes; an empty or odd number of bytes is refused. -/
def decode (bytes : Bytes) : Except DecodeError StringTable :=
  if bytes.length < 2 ∨ bytes.length % 2 ≠ 0 then
    .error (.outOfBounds .stringTable 0 bytes.length bytes.length)
  else .ok (ofUnits (CodeUnits.ofBytes bytes))

/-- A table is read from an even number of bytes, at least two, and holds their units. -/
theorem decode_eq_ok_iff {bytes : Bytes} {table : StringTable} :
    decode bytes = .ok table ↔
      (2 ≤ bytes.length ∧ bytes.length % 2 = 0) ∧ table = ofUnits (CodeUnits.ofBytes bytes) := by
  unfold decode
  split
  · rename_i bad
    exact ⟨nofun, fun good => by omega⟩
  · rename_i good
    rw [Except.ok.injEq, eq_comm]
    exact ⟨fun same => ⟨by omega, same⟩, fun same => same.2⟩

/-- The bytes of one string with its zero unit. -/
def encodeEntry (units : CodeUnits) : Bytes := CodeUnits.toBytes (units ++ [0])

/-- The bytes of a table. -/
def encode (table : StringTable) : Bytes :=
  table.entries.flatMap encodeEntry ++ table.rest.toBytes

/-- Splitting units into strings loses none. -/
theorem encode_ofUnits (units : CodeUnits) : (ofUnits units).encode = units.toBytes := by
  induction units with
  | nil => rfl
  | cons u units ih =>
    rw [CodeUnits.toBytes_cons, ← ih, ofUnits]
    split
    · rename_i zero
      rw [zero]
      rfl
    · split
      · rename_i none
        rw [encode, encode, none]
        rfl
      · rename_i first others some
        rw [encode, encode, some]
        rfl

/-- Neither a string nor the unfinished rest of a table holds a zero unit. -/
theorem zero_not_mem_ofUnits (units : CodeUnits) :
    (∀ entry ∈ (ofUnits units).entries, 0 ∉ entry) ∧ 0 ∉ (ofUnits units).rest := by
  induction units with
  | nil => exact ⟨nofun, nofun⟩
  | cons u units ih =>
    obtain ⟨entries, rest⟩ := ih
    rw [ofUnits]
    split
    · refine ⟨?_, rest⟩
      intro entry member
      rcases List.mem_cons.mp member with rfl | member
      · exact nofun
      · exact entries entry member
    · rename_i something
      split
      · rename_i none
        refine ⟨?_, ?_⟩
        · rw [none]
          exact nofun
        · exact fun member => (List.mem_cons.mp member).elim (fun zero => something zero.symm) rest
      · rename_i first others some
        rw [some] at entries
        refine ⟨?_, rest⟩
        intro entry member
        rcases List.mem_cons.mp member with rfl | member
        · exact fun member => (List.mem_cons.mp member).elim (fun zero => something zero.symm)
            (entries first List.mem_cons_self)
        · exact entries entry (List.mem_cons_of_mem _ member)

/-- Units without a zero unit are an unfinished rest. -/
theorem ofUnits_of_zero_not_mem {units : CodeUnits} (whole : 0 ∉ units) :
    ofUnits units = ⟨[], units⟩ := by
  induction units with
  | nil => rfl
  | cons u units ih =>
    have something : u ≠ 0 := fun zero => whole (List.mem_cons.mpr (.inl zero.symm))
    have later : ofUnits units = ⟨[], units⟩ :=
      ih fun member => whole (List.mem_cons_of_mem _ member)
    rw [ofUnits, later, if_neg something]

/-- Units up to the first zero unit are the first string. -/
theorem ofUnits_append_zero {text : CodeUnits} (whole : 0 ∉ text) (units : CodeUnits) :
    ofUnits (text ++ 0 :: units) =
      { ofUnits units with entries := text :: (ofUnits units).entries } := by
  induction text with
  | nil => rw [List.nil_append, ofUnits, if_pos rfl]
  | cons u text ih =>
    have something : u ≠ 0 := fun zero => whole (List.mem_cons.mpr (.inl zero.symm))
    have later := ih fun member => whole (List.mem_cons_of_mem _ member)
    rw [List.cons_append, ofUnits, later, if_neg something]

/-- Reading a table from its own bytes gives it back, if neither a string nor the unfinished rest
holds a zero unit. -/
theorem ofUnits_encode {table : StringTable} (entries : ∀ entry ∈ table.entries, 0 ∉ entry)
    (rest : 0 ∉ table.rest) : ofUnits (CodeUnits.ofBytes table.encode) = table := by
  obtain ⟨strings, tail⟩ := table
  induction strings with
  | nil =>
    have units : CodeUnits.ofBytes (encode ⟨[], tail⟩) = tail := by
      have empty : CodeUnits.ofBytes [] = [] := rfl
      have front := CodeUnits.ofBytes_toBytes_append tail []
      rw [List.append_nil, empty, List.append_nil] at front
      exact front
    rw [units, ofUnits_of_zero_not_mem rest]
  | cons first others ih =>
    have joined : encode ⟨first :: others, tail⟩ =
        CodeUnits.toBytes (first ++ [0]) ++ encode ⟨others, tail⟩ := by
      rw [encode, encode, List.flatMap_cons, List.append_assoc, encodeEntry]
    have later := ih fun entry member => entries entry (List.mem_cons_of_mem _ member)
    rw [joined, CodeUnits.ofBytes_toBytes_append, List.append_assoc, List.singleton_append,
      ofUnits_append_zero (entries first List.mem_cons_self), later rest]

/-- A string takes two bytes for each unit and two for its zero unit. -/
theorem length_encodeEntry (units : CodeUnits) :
    (encodeEntry units).length = 2 * units.length + 2 := by
  rw [encodeEntry, CodeUnits.length_toBytes, List.length_append, List.length_singleton]
  omega

/-- How many strings the table has. -/
def size (table : StringTable) : Nat := table.entries.length

/-- The units of the string at an index. -/
def entry (table : StringTable) (index : Nat) : Except DecodeError CodeUnits :=
  match table.entries[index]? with
  | some units => .ok units
  | none => .error (.outOfBounds .stringIndex index 1 table.size)

/-- The bytes of the string at an index, with its zero unit, if there is one. -/
def stringBytes (table : StringTable) (index : Nat) : Option Bytes :=
  (table.entries[index]?).map encodeEntry

/-- The string at an index, as text. -/
def text (table : StringTable) (index : Nat) : Except DecodeError String :=
  table.entry index >>= CodeUnits.text .string

/-- How many bytes the string at an index takes in UTF-8, with the zero byte that ends it. -/
def utf8Size (table : StringTable) (index : Nat) : Except DecodeError Nat :=
  table.entry index >>= CodeUnits.utf8Size .string

/-- How many units the string at an index takes, with the zero unit that ends it. -/
def utf16Size (table : StringTable) (index : Nat) : Except DecodeError Nat :=
  (table.entry index).map CodeUnits.utf16Size

/-- All strings of the table as texts, in order. -/
def texts (table : StringTable) : List (Except DecodeError String) :=
  table.entries.map (CodeUnits.text .string)

end StringTable

end EventLog
