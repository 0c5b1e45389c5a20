import EventLog.Record.Fixed

/-!
# The regions of an event record

After the fixed part stand the names, the security identifier, the strings and the binary data, in
this order and all of them before the trailing size. A region that is absent takes no room: its
offset is not looked at. `Layout.ofFields` accepts exactly the layouts in which every present region
starts at or after the end of the one before and ends within the record.
-/

namespace EventLog

/-- A run of bytes within a record. -/
structure Region where
  /-- Where it starts. -/
  start : Nat
  /-- How many bytes it takes. -/
  size : Nat
  deriving DecidableEq, Repr

namespace Region

/-- Where a region ends. -/
def stop (region : Region) : Nat := region.start + region.size

/-- The bytes of a region. -/
def of (bytes : Bytes) (region : Region) : Bytes := bytes.slice region.start region.size

/-- A region that must lie between two bounds. -/
def between (part : Part) (start size lower limit : Nat) : Except DecodeError Region :=
  if start < lower ∨ limit < start + size then .error (.outOfBounds part start size limit)
  else .ok ⟨start, size⟩

/-- A region is accepted just if it lies between the bounds. -/
theorem between_eq_ok_iff {part : Part} {start size lower limit : Nat} {region : Region} :
    between part start size lower limit = .ok region ↔
      (lower ≤ start ∧ start + size ≤ limit) ∧ region = ⟨start, size⟩ := by
  unfold between
  by_cases h : start < lower ∨ limit < start + size
  · rw [if_pos h]
    constructor
    · intro hr
      cases hr
    · intro hr
      omega
  · rw [if_neg h, Except.ok.injEq]
    constructor
    · intro hr
      exact ⟨by omega, hr.symm⟩
    · intro hr
      exact hr.2.symm

/-- The regions start at or after one offset, each at or after the end of the one before, and end at
or before another offset. -/
def InOrder : (low : Nat) → List Region → (high : Nat) → Prop
  | low, [], high => low ≤ high
  | low, region :: rest, high => low ≤ region.start ∧ InOrder region.stop rest high

/-- Regions in order lie between their bounds. -/
theorem InOrder.bounds {low high : Nat} {regions : List Region}
    (inOrder : InOrder low regions high) :
    low ≤ high ∧ ∀ region ∈ regions, low ≤ region.start ∧ region.stop ≤ high := by
  induction regions generalizing low with
  | nil => exact ⟨inOrder, nofun⟩
  | cons first rest ih =>
    obtain ⟨starts, later⟩ := inOrder
    obtain ⟨ends, bounds⟩ := ih later
    have forwards : first.start ≤ first.stop := Nat.le_add_right _ _
    refine ⟨by omega, ?_⟩
    intro region member
    rcases List.mem_cons.mp member with rfl | member
    · exact ⟨starts, ends⟩
    · have := bounds region member
      omega

/-- Of regions in order none starts before the end of one that comes before it. -/
theorem InOrder.pairwise {low high : Nat} {regions : List Region}
    (inOrder : InOrder low regions high) :
    regions.Pairwise fun first second => first.stop ≤ second.start := by
  induction regions generalizing low with
  | nil => exact .nil
  | cons first rest ih =>
    exact .cons (fun region member => (inOrder.2.bounds.2 region member).1) (ih inOrder.2)

end Region

/-- The regions of an event record. -/
structure Layout where
  /-- The two names. -/
  members : Region
  /-- The user's security identifier. -/
  sid : Option Region
  /-- The strings. -/
  strings : Option Region
  /-- The binary data. -/
  data : Option Region
  deriving DecidableEq, Repr

namespace RecordFields

/-- Where the region of the security identifier ends, or if that is absent, the region of the
names. -/
def sidEnd (fields : RecordFields) : Nat :=
  if fields.sidSize = 0 then fields.membersEnd
  else fields.sidOffset.toNat + fields.sidSize.toNat

/-- Where the region of the strings ends, or if that is absent, the last region before it. -/
def stringsEnd (fields : RecordFields) : Nat :=
  if fields.stringCount = 0 then fields.sidEnd else fields.dataOffset.toNat

/-- The regions that the fields describe, whether or not the record has room for them. -/
def layout (fields : RecordFields) : Layout where
  members := ⟨width, fields.membersEnd - width⟩
  sid :=
    if fields.sidSize = 0 then none else some ⟨fields.sidOffset.toNat, fields.sidSize.toNat⟩
  strings :=
    if fields.stringCount = 0 then none
    else some ⟨fields.stringsOffset.toNat, fields.dataOffset.toNat - fields.stringsOffset.toNat⟩
  data :=
    if fields.dataSize = 0 then none else some ⟨fields.dataOffset.toNat, fields.dataSize.toNat⟩

/-- The fields describe regions that follow one another: each that is present starts at or after the
end of the one before, and all end at or before a limit. -/
structure Ordered (fields : RecordFields) (limit : Nat) : Prop where
  /-- The names start after the fixed part and end within the limit. -/
  members : width ≤ fields.membersEnd ∧ fields.membersEnd ≤ limit
  /-- A security identifier, which starts where the names end, ends within the limit. -/
  sid : fields.sidSize ≠ 0 → fields.sidOffset.toNat + fields.sidSize.toNat ≤ limit
  /-- Strings stand between what comes before them and the data. -/
  strings : fields.stringCount ≠ 0 → fields.sidEnd ≤ fields.stringsOffset.toNat ∧
    fields.stringsOffset.toNat ≤ fields.dataOffset.toNat ∧ fields.dataOffset.toNat ≤ limit
  /-- Data starts after all that comes before it and ends within the limit. -/
  data : fields.dataSize ≠ 0 → fields.stringsEnd ≤ fields.dataOffset.toNat ∧
    fields.dataOffset.toNat + fields.dataSize.toNat ≤ limit

end RecordFields

namespace Layout

/-- The region of the names. -/
def membersOf (fields : RecordFields) : Except DecodeError Region :=
  if fields.membersEnd < RecordFields.width then
    .error (.outOfBounds .members fields.membersEnd 0 fields.limit)
  else
    Region.between .members RecordFields.width (fields.membersEnd - RecordFields.width)
      RecordFields.width fields.limit

/-- The region of the security identifier, which is absent if its size is zero. -/
def sidOf (fields : RecordFields) (lower : Nat) : Except DecodeError (Option Region) :=
  if fields.sidSize = 0 then .ok none
  else
    (Region.between .userSid fields.sidOffset.toNat fields.sidSize.toNat lower fields.limit).map some

/-- The region of the strings, which is absent if there are none and else reaches to the data. -/
def stringsOf (fields : RecordFields) (lower : Nat) : Except DecodeError (Option Region) :=
  if fields.stringCount = 0 then .ok none
  else if fields.dataOffset.toNat < fields.stringsOffset.toNat then
    .error (.outOfBounds .strings fields.stringsOffset.toNat 0 fields.dataOffset.toNat)
  else
    (Region.between .strings fields.stringsOffset.toNat
      (fields.dataOffset.toNat - fields.stringsOffset.toNat) lower fields.limit).map some

/-- The region of the binary data, which is absent if its size is zero. -/
def dataOf (fields : RecordFields) (lower : Nat) : Except DecodeError (Option Region) :=
  if fields.dataSize = 0 then .ok none
  else
    (Region.between .data fields.dataOffset.toNat fields.dataSize.toNat lower fields.limit).map some

/-- Where the next region may start: at the end of a present region, else where it could before. -/
def after (region : Option Region) (lower : Nat) : Nat := (region.map Region.stop).getD lower

/-- The layout that the fields describe; the first region that is out of bounds is an error. -/
def ofFields (fields : RecordFields) : Except DecodeError Layout := do
  let members ← membersOf fields
  let sid ← sidOf fields members.stop
  let strings ← stringsOf fields (after sid members.stop)
  let data ← dataOf fields (after strings (after sid members.stop))
  return ⟨members, sid, strings, data⟩

open RecordFields

variable {fields : RecordFields}

/-- All regions that are present, in order. -/
def regions (layout : Layout) : List Region :=
  layout.members :: (layout.sid.toList ++ (layout.strings.toList ++ layout.data.toList))

/-- The region of the names is accepted if it lies between the fixed part and the limit. -/
theorem membersOf_eq_ok_iff {region : Region} :
    membersOf fields = .ok region ↔
      (width ≤ fields.membersEnd ∧ fields.membersEnd ≤ fields.limit) ∧
        region = fields.layout.members := by
  unfold membersOf
  by_cases early : fields.membersEnd < width
  · rw [if_pos early]
    exact ⟨nofun, fun good => by omega⟩
  · rw [if_neg early, Region.between_eq_ok_iff, layout]
    constructor
    · rintro ⟨bounds, same⟩
      exact ⟨by omega, same⟩
    · rintro ⟨bounds, same⟩
      exact ⟨by omega, same⟩

/-- The region of a present part is accepted if it lies between the bounds. -/
theorem present_eq_ok_iff {part : Part} {start size lower limit : Nat} {region : Option Region} :
    (Region.between part start size lower limit).map some = .ok region ↔
      (lower ≤ start ∧ start + size ≤ limit) ∧ region = some ⟨start, size⟩ := by
  simp only [map_eq_ok_iff, Region.between_eq_ok_iff]
  constructor
  · rintro ⟨_, ⟨bounds, rfl⟩, rfl⟩
    exact ⟨bounds, rfl⟩
  · rintro ⟨bounds, rfl⟩
    exact ⟨_, ⟨bounds, rfl⟩, rfl⟩

/-- The region of the security identifier is accepted if it is absent or lies between the bounds. -/
theorem sidOf_eq_ok_iff {lower : Nat} {region : Option Region} :
    sidOf fields lower = .ok region ↔
      (fields.sidSize ≠ 0 → lower ≤ fields.sidOffset.toNat ∧
          fields.sidOffset.toNat + fields.sidSize.toNat ≤ fields.limit) ∧
        region = fields.layout.sid := by
  unfold sidOf layout
  dsimp only
  by_cases absent : fields.sidSize = 0
  · rw [if_pos absent, if_pos absent, Except.ok.injEq]
    exact ⟨fun same => ⟨fun present => absurd absent present, same.symm⟩, fun good => good.2.symm⟩
  · rw [if_neg absent, if_neg absent, present_eq_ok_iff]
    exact ⟨fun good => ⟨fun _ => good.1, good.2⟩, fun good => ⟨good.1 absent, good.2⟩⟩

/-- The region of the strings is accepted if it is absent or lies between the bounds and before the
data. -/
theorem stringsOf_eq_ok_iff {lower : Nat} {region : Option Region} :
    stringsOf fields lower = .ok region ↔
      (fields.stringCount ≠ 0 → lower ≤ fields.stringsOffset.toNat ∧
          fields.stringsOffset.toNat ≤ fields.dataOffset.toNat ∧
          fields.dataOffset.toNat ≤ fields.limit) ∧
        region = fields.layout.strings := by
  unfold stringsOf layout
  dsimp only
  by_cases absent : fields.stringCount = 0
  · rw [if_pos absent, if_pos absent, Except.ok.injEq]
    exact ⟨fun same => ⟨fun present => absurd absent present, same.symm⟩, fun good => good.2.symm⟩
  · rw [if_neg absent, if_neg absent]
    by_cases backwards : fields.dataOffset.toNat < fields.stringsOffset.toNat
    · rw [if_pos backwards]
      refine ⟨nofun, ?_⟩
      intro good
      have bounds := good.1 absent
      omega
    · rw [if_neg backwards, present_eq_ok_iff]
      constructor
      · rintro ⟨bounds, same⟩
        exact ⟨fun _ => by omega, same⟩
      · rintro ⟨bounds, same⟩
        have bounds := bounds absent
        exact ⟨by omega, same⟩

/-- The region of the data is accepted if it is absent or lies between the bounds. -/
theorem dataOf_eq_ok_iff {lower : Nat} {region : Option Region} :
    dataOf fields lower = .ok region ↔
      (fields.dataSize ≠ 0 → lower ≤ fields.dataOffset.toNat ∧
          fields.dataOffset.toNat + fields.dataSize.toNat ≤ fields.limit) ∧
        region = fields.layout.data := by
  unfold dataOf layout
  dsimp only
  by_cases absent : fields.dataSize = 0
  · rw [if_pos absent, if_pos absent, Except.ok.injEq]
    exact ⟨fun same => ⟨fun present => absurd absent present, same.symm⟩, fun good => good.2.symm⟩
  · rw [if_neg absent, if_neg absent, present_eq_ok_iff]
    exact ⟨fun good => ⟨fun _ => good.1, good.2⟩, fun good => ⟨good.1 absent, good.2⟩⟩

/-- The region after the security identifier may start where that or else the names end. -/
theorem after_sid (fields : RecordFields) :
    after fields.layout.sid fields.membersEnd = fields.sidEnd := by
  unfold layout sidEnd
  by_cases absent : fields.sidSize = 0
  · simp only [if_pos absent]
    rfl
  · simp only [if_neg absent]
    rfl

/-- The region after the strings may start where those or else the regions before them end. -/
theorem after_strings (forwards : fields.stringCount ≠ 0 →
      fields.stringsOffset.toNat ≤ fields.dataOffset.toNat) :
    after fields.layout.strings fields.sidEnd = fields.stringsEnd := by
  unfold layout stringsEnd
  by_cases absent : fields.stringCount = 0
  · simp only [if_pos absent]
    rfl
  · simp only [if_neg absent]
    exact Nat.add_sub_cancel' (forwards absent)

/-- Fields are accepted just if they describe regions that follow one another before the trailing
size. -/
theorem ofFields_eq_ok_iff {layout : Layout} :
    ofFields fields = .ok layout ↔ fields.Ordered fields.limit ∧ layout = fields.layout := by
  have stop (ordered : width ≤ fields.membersEnd) :
      fields.layout.members.stop = fields.membersEnd := Nat.add_sub_cancel' ordered
  have follows : fields.sidSize ≠ 0 → fields.membersEnd = fields.sidOffset.toNat :=
    fun present => if_pos present
  unfold ofFields
  simp only [bind_eq_ok_iff, membersOf_eq_ok_iff, sidOf_eq_ok_iff, stringsOf_eq_ok_iff,
    dataOf_eq_ok_iff]
  constructor
  · rintro ⟨_, ⟨members, rfl⟩, _, ⟨sid, rfl⟩, _, ⟨strings, rfl⟩, _, ⟨data, rfl⟩, done⟩
    rw [stop members.1, after_sid] at strings data
    rw [after_strings fun present => (strings present).2.1] at data
    exact ⟨⟨members, fun present => (sid present).2, strings, data⟩, (Except.ok.inj done).symm⟩
  · rintro ⟨ordered, rfl⟩
    have forwards := fun present => (ordered.strings present).2.1
    refine ⟨_, ⟨ordered.members, rfl⟩, _, ⟨?_, rfl⟩, _, ⟨?_, rfl⟩, _, ⟨?_, rfl⟩, rfl⟩
    · intro present
      rw [stop ordered.members.1]
      exact ⟨Nat.le_of_eq (follows present), ordered.sid present⟩
    · rw [stop ordered.members.1, after_sid]
      exact ordered.strings
    · rw [stop ordered.members.1, after_sid, after_strings forwards]
      exact ordered.data

/-- A region that may be absent goes before regions that start after it. -/
theorem inOrder_optional {low high : Nat} {region : Option Region} {rest : List Region}
    (starts : ∀ present ∈ region, low ≤ present.start)
    (later : Region.InOrder (after region low) rest high) :
    Region.InOrder low (region.toList ++ rest) high := by
  cases region with
  | none => exact later
  | some present => exact ⟨starts present rfl, later⟩

/-- Regions that follow one another start after the fixed part and end before the limit. -/
theorem regions_inOrder {limit : Nat} (ordered : fields.Ordered limit) :
    Region.InOrder width fields.layout.regions limit := by
  have stop : fields.layout.members.stop = fields.membersEnd :=
    Nat.add_sub_cancel' ordered.members.1
  have sidEnd : fields.sidEnd ≤ limit := by
    unfold RecordFields.sidEnd
    split
    · exact ordered.members.2
    · exact ordered.sid ‹_›
  have stringsEnd : fields.stringsEnd ≤ limit := by
    unfold RecordFields.stringsEnd
    split
    · exact sidEnd
    · exact (ordered.strings ‹_›).2.2
  have data : Region.InOrder fields.stringsEnd (fields.layout.data.toList ++ []) limit := by
    unfold layout
    dsimp only
    by_cases absent : fields.dataSize = 0
    · rw [if_pos absent]
      exact stringsEnd
    · rw [if_neg absent]
      exact ordered.data absent
  have strings : Region.InOrder fields.sidEnd
      (fields.layout.strings.toList ++ fields.layout.data.toList) limit := by
    refine inOrder_optional ?_ ?_
    · intro present member
      unfold layout at member
      dsimp only at member
      split at member
      · cases member
      · cases member
        exact (ordered.strings ‹_›).1
    · rw [after_strings fun present => (ordered.strings present).2.1]
      rw [List.append_nil] at data
      exact data
  refine ⟨Nat.le_refl width, ?_⟩
  rw [stop]
  refine inOrder_optional ?_ ?_
  · intro present member
    unfold layout at member
    dsimp only at member
    split at member
    · cases member
    · cases member
      rename_i present
      exact Nat.le_of_eq (if_pos present)
  · rw [after_sid]
    exact strings

end Layout

end EventLog
