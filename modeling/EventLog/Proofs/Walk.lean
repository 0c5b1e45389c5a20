import EventLog.Proofs.Ring
import EventLog.Scan

/-!
# What a walk reports

Under any plan the records of a walk stand in the ring one right after the other, take no more than
one turn of it, and end where the walk says that it ended (`walk_faithful`). If no read can fail and
the flag stays down, the walk ends only at an end of file record, at bytes that hold no record, or
at a record that would lead more than once around (`walk_settled`), so that what it reports is
settled by the bytes of the file (`settled_of_walk`). Records that were laid out in the ring before
an end of file record are all found (`walk_of_laid_out`).
-/

namespace EventLog.Scan

open EventLog.Ring

/-- How many bytes records take together. -/
def total : List Record → Nat
  | [] => 0
  | record :: rest => record.size.toNat + total rest

/-- No records take no bytes. -/
@[simp] theorem total_nil : total [] = 0 := rfl

/-- One record more takes its size more. -/
@[simp] theorem total_cons (record : Record) (records : List Record) :
    total (record :: records) = record.size.toNat + total records := rfl

/-- The records stand in the ring one right after the other, the first one at an offset. -/
def Chained (data : Array UInt8) : (offset : Nat) → List Record → Prop
  | _, [] => True
  | offset, record :: rest =>
    StandsAt data offset record ∧ Chained data (position ⟨data.size⟩ offset record.size.toNat) rest

variable {data : Array UInt8} {offset : Nat}

/-- The bytes of chained records come at less than their total distance. -/
theorem Chained.distance {records : List Record} (chained : Chained data offset records)
    {record : Record} (member : record ∈ records) {byte : Nat}
    (covered : covers ⟨data.size⟩ record.offset record.size.toNat byte = true) :
    ∃ distance < total records, position ⟨data.size⟩ offset distance = byte := by
  induction records generalizing offset with
  | nil => cases member
  | cons first rest ih =>
    obtain ⟨stands, later⟩ := chained
    rw [total_cons]
    rcases List.mem_cons.mp member with rfl | member
    · obtain ⟨distance, within, same⟩ := covers_iff.mp covered
      rw [stands.starts] at same
      exact ⟨distance, by omega, same⟩
    · obtain ⟨distance, within, same⟩ := ih later member
      rw [position_position] at same
      exact ⟨first.size.toNat + distance, by omega, same⟩

/-- Chained records that take at most one turn share no byte. -/
theorem Chained.disjoint {records : List Record} (chained : Chained data offset records)
    (inside : contains ⟨data.size⟩ offset = true) (fits : total records ≤ data.size - start) :
    records.Pairwise fun first second => ∀ byte,
      covers ⟨data.size⟩ first.offset first.size.toNat byte = true →
        covers ⟨data.size⟩ second.offset second.size.toNat byte = false := by
  induction records generalizing offset with
  | nil => exact .nil
  | cons first rest ih =>
    obtain ⟨stands, later⟩ := chained
    rw [total_cons] at fits
    have inside' := contains_position inside first.size.toNat
    refine .cons ?_ (ih later inside' (by omega))
    intro second member byte covered
    rw [← Bool.not_eq_true]
    intro again
    obtain ⟨near, within, same⟩ := covers_iff.mp covered
    obtain ⟨far, beyond, same'⟩ := later.distance member again
    rw [stands.starts, ← same', position_position] at same
    have whole := size_mk data.size
    have equal := position_injective inside (by omega) (by omega) same
    omega

/-- Chained records lie in the region and fit into it. -/
theorem Chained.within {records : List Record} (chained : Chained data offset records)
    (inside : contains ⟨data.size⟩ offset = true) {record : Record} (member : record ∈ records) :
    contains ⟨data.size⟩ record.offset = true ∧ StandsAt data record.offset record := by
  induction records generalizing offset with
  | nil => cases member
  | cons first rest ih =>
    obtain ⟨stands, later⟩ := chained
    rcases List.mem_cons.mp member with rfl | member
    · rw [stands.starts]
      exact ⟨inside, stands⟩
    · exact ih later (contains_position inside _) member

/-- What a walk reports, whatever the plan: nothing but what stands in the ring, in one turn, and an
ending right after the last record. -/
structure Faithful (data : Array UInt8) (offset consumed : Nat) (scan : Scan) : Prop where
  /-- The records are chained. -/
  chained : Chained data offset scan.records
  /-- The records take at most the rest of one turn. -/
  fits : consumed + total scan.records ≤ data.size - start
  /-- The end of file record is the one that follows the last record. -/
  met : ∀ found ∈ scan.sentinel, found.1 = position ⟨data.size⟩ offset (total scan.records) ∧
    SentinelAt data found.1 found.2
  /-- A walk is complete just if it met the end of file record. -/
  complete : scan.outcome = .complete ↔ scan.sentinel.isSome = true
  /-- A walk that met bytes that it cannot go on from met them after the last record. -/
  stopped : ∀ place error, scan.outcome = .corrupted place error →
    place = position ⟨data.size⟩ offset (total scan.records)

/-- A walk that ends before it finds a record, and not at the end of file record, reports
nothing. -/
theorem faithful_ended (inside : contains ⟨data.size⟩ offset = true) {consumed : Nat}
    (fits : consumed ≤ data.size - start) {outcome : Outcome} (incomplete : outcome ≠ .complete)
    (stopped : ∀ place error, outcome = .corrupted place error → place = offset) :
    Faithful data offset consumed (ended outcome) where
  chained := trivial
  fits := fits
  met := nofun
  complete := ⟨fun complete => absurd complete incomplete, nofun⟩
  stopped place error corrupted := by
    rw [stopped place error corrupted]
    exact (position_zero inside).symm

/-- On any ring and under any plan a walk is complete just if it met an end of file record. -/
theorem walk_complete_iff (ring : Ring) (source : Source) (offset consumed : Nat) :
    (walk ring source offset consumed).1.outcome = .complete ↔
      (walk ring source offset consumed).1.sentinel.isSome = true := by
  fun_induction walk ring source offset consumed with
  | case1 => exact ⟨nofun, nofun⟩
  | case2 => exact ⟨nofun, nofun⟩
  | case3 => exact ⟨fun _ => rfl, fun _ => rfl⟩
  | case4 => exact ⟨nofun, nofun⟩
  | case5 source offset consumed _ record after _ _ rest last walked ih =>
    rw [walked] at ih
    exact ih

/-- A record that stands at the offset goes before what a walk from the next offset reports. -/
theorem Faithful.cons {record : Record} {consumed : Nat} {rest : Scan}
    (stands : StandsAt data offset record)
    (faithful : Faithful data (position ⟨data.size⟩ offset record.size.toNat)
      (consumed + record.size.toNat) rest) :
    Faithful data offset consumed { rest with records := record :: rest.records } where
  chained := ⟨stands, faithful.chained⟩
  fits := by
    have fits := faithful.fits
    rw [total_cons]
    omega
  met found member := by
    have met := faithful.met found member
    rw [position_position, ← total_cons] at met
    exact met
  complete := faithful.complete
  stopped place error corrupted := by
    have stopped := faithful.stopped place error corrupted
    rw [position_position, ← total_cons] at stopped
    exact stopped

/-- Under any plan a walk reports nothing but what stands in the ring. -/
theorem walk_faithful {source : Source} (same : source.data = data) (consumed : Nat)
    (inside : contains ⟨data.size⟩ offset = true) (fits : consumed ≤ data.size - start) :
    Faithful data offset consumed (walk ⟨data.size⟩ source offset consumed).1 := by
  fun_induction walk ⟨data.size⟩ source offset consumed with
  | case1 source offset consumed up => exact faithful_ended inside fits nofun nofun
  | case2 source offset consumed down e after found =>
    refine faithful_ended inside fits nofun ?_
    intro place error corrupted
    cases corrupted
    rfl
  | case3 source offset consumed down sentinel after found =>
    obtain ⟨-, stands, -⟩ := readFound_ok same found
    rw [foundAt_sentinel_iff inside] at stands
    refine ⟨trivial, fits, ?_, ⟨fun _ => rfl, fun _ => rfl⟩, nofun⟩
    intro met member
    cases member
    exact ⟨(position_zero inside).symm, stands⟩
  | case4 source offset consumed down record after found full =>
    refine faithful_ended inside fits nofun ?_
    intro place error corrupted
    cases corrupted
    rfl
  | case5 source offset consumed down record after found room rest last walked ih =>
    obtain ⟨-, stands, kept⟩ := readFound_ok same found
    rw [foundAt_event_iff inside] at stands
    have next := next_eq_position inside stands.fits
    have inside' := contains_position inside record.size.toNat
    rw [walked, next] at ih
    exact (ih kept inside' (Nat.le_of_not_lt room)).cons stands

/-- If no read can fail and the flag stays down, a walk ends only where it cannot go on: at the end
of file record, where nothing can be found, or at a record that would lead more than once around. -/
theorem walk_settled {source : Source} (same : source.data = data) (h : source.plan.Harmless)
    (down : source.aborted = false) (consumed : Nat) (inside : contains ⟨data.size⟩ offset = true) :
    (walk ⟨data.size⟩ source offset consumed).1.outcome ≠ .cancelled ∧
      ∀ place error,
        (walk ⟨data.size⟩ source offset consumed).1.outcome = .corrupted place error →
          (∀ found, foundAt data place ≠ .ok found) ∨
            ∃ record, StandsAt data place record ∧
              data.size - start < consumed +
                total (walk ⟨data.size⟩ source offset consumed).1.records + record.size.toNat := by
  fun_induction walk ⟨data.size⟩ source offset consumed with
  | case1 source offset consumed up =>
    rw [down] at up
    cases up
  | case2 source offset consumed _ e after read =>
    refine ⟨nofun, ?_⟩
    intro place error corrupted
    cases corrupted
    refine .inl ?_
    intro found stands
    rw [← (readFound_harmless same h inside).1 found, read] at stands
    cases stands
  | case3 source offset consumed _ sentinel after read => exact ⟨nofun, nofun⟩
  | case4 source offset consumed _ record after read full =>
    obtain ⟨-, stands, -⟩ := readFound_ok same read
    rw [foundAt_event_iff inside] at stands
    refine ⟨nofun, ?_⟩
    intro place error corrupted
    cases corrupted
    refine .inr ⟨record, stands, ?_⟩
    rw [ended, total_nil]
    exact full
  | case5 source offset consumed _ record after read room rest last walked ih =>
    obtain ⟨-, stands, kept⟩ := readFound_ok same read
    rw [foundAt_event_iff inside] at stands
    have agrees := (readFound_harmless same h inside).2.of_eq read
    have next := next_eq_position inside stands.fits
    have inside' := contains_position inside record.size.toNat
    rw [walked, next] at ih
    obtain ⟨running, settled⟩ := ih kept (agrees.harmless h) (agrees.2.2.trans down) inside'
    refine ⟨running, ?_⟩
    intro place error corrupted
    rcases settled place error corrupted with barren | ⟨other, stands', beyond⟩
    · exact .inl barren
    · refine .inr ⟨other, stands', ?_⟩
      rw [total_cons]
      dsimp only at beyond
      omega

/-- Where the next record after some records would start, if the first of them starts at an
offset. -/
def following (data : Array UInt8) (offset : Nat) (records : List Record) : Nat :=
  position ⟨data.size⟩ offset (total records)

/-- What a walk reports if no read can fail and the flag stays down: all records up to the first
place where the walk could not go on, and why it could not. -/
structure Settled (data : Array UInt8) (offset : Nat) (scan : Scan) : Prop where
  /-- The records are chained. -/
  chained : Chained data offset scan.records
  /-- The records take at most one turn. -/
  fits : total scan.records ≤ data.size - start
  /-- No byte belongs to two records. -/
  apart : scan.records.Pairwise fun first second => ∀ byte,
    covers ⟨data.size⟩ first.offset first.size.toNat byte = true →
      covers ⟨data.size⟩ second.offset second.size.toNat byte = false
  /-- The walk is complete just if an end of file record follows the records. -/
  complete : scan.outcome = .complete ↔
    ∃ sentinel, SentinelAt data (following data offset scan.records) sentinel
  /-- The end of file record that follows the records is the one that the walk reports. -/
  met : ∀ sentinel, SentinelAt data (following data offset scan.records) sentinel →
    scan.sentinel = some (following data offset scan.records, sentinel)
  /-- A walk that is not complete met no record after the last one, or one that would lead more than
  once around. -/
  stopped : scan.outcome ≠ .complete → ∃ error,
    scan.outcome = .corrupted (following data offset scan.records) error ∧
      ((∀ record, ¬StandsAt data (following data offset scan.records) record) ∨
        ∃ record, StandsAt data (following data offset scan.records) record ∧
          data.size - start < total scan.records + record.size.toNat)

/-- If no read can fail and the flag stays down, a walk reports all records up to the first place
where it could not go on. -/
theorem settled_of_walk {source : Source} (same : source.data = data) (h : source.plan.Harmless)
    (down : source.aborted = false) (inside : contains ⟨data.size⟩ offset = true) :
    Settled data offset (walk ⟨data.size⟩ source offset 0).1 := by
  have faithful := walk_faithful same 0 inside (Nat.zero_le _)
  obtain ⟨running, ending⟩ := walk_settled same h down 0 inside
  generalize (walk ⟨data.size⟩ source offset 0).1 = scan at faithful running ending
  have fits := faithful.fits
  rw [Nat.zero_add] at fits
  have inside' : contains ⟨data.size⟩ (following data offset scan.records) = true :=
    contains_position inside _
  have corrupted : scan.outcome ≠ .complete → ∃ error,
      scan.outcome = .corrupted (following data offset scan.records) error := by
    intro incomplete
    cases outcome : scan.outcome with
    | complete => exact absurd outcome incomplete
    | cancelled => exact absurd outcome running
    | corrupted place error =>
      rw [faithful.stopped place error outcome]
      exact ⟨error, rfl⟩
  have barren : scan.outcome ≠ .complete →
      ∀ sentinel, ¬SentinelAt data (following data offset scan.records) sentinel := by
    intro incomplete sentinel ends
    obtain ⟨error, outcome⟩ := corrupted incomplete
    rcases ending _ error outcome with nothing | ⟨record, stands, -⟩
    · exact nothing _ ((foundAt_sentinel_iff inside').mpr ends)
    · exact ends.not_standsAt inside' record stands
  have reported : scan.outcome = .complete → ∃ sentinel,
      scan.sentinel = some (following data offset scan.records, sentinel) ∧
        SentinelAt data (following data offset scan.records) sentinel := by
    intro complete
    obtain ⟨⟨place, sentinel⟩, some⟩ := Option.isSome_iff_exists.mp (faithful.complete.mp complete)
    obtain ⟨stands, ends⟩ := faithful.met _ some
    dsimp only at stands ends
    rw [stands] at some ends
    exact ⟨sentinel, some, ends⟩
  refine ⟨faithful.chained, fits, faithful.chained.disjoint inside fits, ?_, ?_, ?_⟩
  · constructor
    · intro complete
      obtain ⟨sentinel, -, ends⟩ := reported complete
      exact ⟨sentinel, ends⟩
    · rintro ⟨sentinel, ends⟩
      by_cases complete : scan.outcome = .complete
      · exact complete
      · exact absurd ends (barren complete sentinel)
  · intro sentinel ends
    by_cases complete : scan.outcome = .complete
    · obtain ⟨other, some, ends'⟩ := reported complete
      rw [some, ends.unique ends']
    · exact absurd ends (barren complete sentinel)
  · intro incomplete
    obtain ⟨error, outcome⟩ := corrupted incomplete
    refine ⟨error, outcome, ?_⟩
    rcases ending _ error outcome with nothing | ⟨record, stands, beyond⟩
    · refine .inl ?_
      intro record stands
      exact nothing _ ((foundAt_event_iff inside').mpr stands)
    · refine .inr ⟨record, stands, ?_⟩
      rw [Nat.zero_add] at beyond
      exact beyond

/-- If no read can fail and none raises the flag, a walk leaves a source as it is but for its counts
of calls. -/
theorem walk_agrees {source : Source} (same : source.data = data) (h : source.plan.Harmless)
    (consumed : Nat) (inside : contains ⟨data.size⟩ offset = true) :
    (walk ⟨data.size⟩ source offset consumed).2.Agrees source := by
  fun_induction walk ⟨data.size⟩ source offset consumed with
  | case1 source => exact ⟨rfl, rfl, rfl⟩
  | case2 source offset _ _ e after read =>
    exact (readFound_harmless same h inside).2.of_eq read
  | case3 source offset _ _ sentinel after read =>
    exact (readFound_harmless same h inside).2.of_eq read
  | case4 source offset _ _ record after read =>
    exact (readFound_harmless same h inside).2.of_eq read
  | case5 source offset _ _ record after read _ rest last walked ih =>
    obtain ⟨-, stands, kept⟩ := readFound_ok same read
    rw [foundAt_event_iff inside] at stands
    have agrees := (readFound_harmless same h inside).2.of_eq read
    rw [walked, next_eq_position inside stands.fits] at ih
    exact (ih kept (agrees.harmless h) (contains_position inside _)).trans agrees

/-- While the flag is down, a walk goes by what it finds. -/
theorem walk_of_readFound {ring : Ring} {source after : Source} (down : source.aborted = false)
    (consumed : Nat) {found : Except DecodeError Found}
    (read : ring.readFound source offset = (found, after)) :
    walk ring source offset consumed =
      match found with
      | .error e => (ended (.corrupted offset e), after)
      | .ok (.sentinel sentinel) => (⟨[], some (offset, sentinel), .complete⟩, after)
      | .ok (.event record) =>
        if ring.size < consumed + record.size.toNat then
          (ended (.corrupted offset
            (.outOfBounds .ring offset (consumed + record.size.toNat) ring.size)), after)
        else
          let (rest, last) :=
            walk ring after (ring.next offset record.size.toNat) (consumed + record.size.toNat)
          ({ rest with records := record :: rest.records }, last) := by
  rw [walk, if_neg (by rw [down]; exact Bool.false_ne_true)]
  split <;> rename_i read' <;> rw [read] at read' <;> cases read' <;> rfl

/-- A walk ends where nothing can be found, and its outcome names the failure. -/
theorem walk_barren {source : Source} (same : source.data = data) (h : source.plan.Harmless)
    (down : source.aborted = false) (consumed : Nat) (inside : contains ⟨data.size⟩ offset = true)
    {error : DecodeError} (barren : readAt data offset = .error error) :
    (walk ⟨data.size⟩ source offset consumed).1 = ended (.corrupted offset error) := by
  obtain ⟨result, -⟩ := readFound_eq_readAt same h inside
  rw [barren] at result
  rw [walk_of_readFound down consumed (Prod.ext result rfl)]

/-- A walk is complete where the end of file record stands. -/
theorem walk_sentinel {source : Source} (same : source.data = data) (h : source.plan.Harmless)
    (down : source.aborted = false) (consumed : Nat) (inside : contains ⟨data.size⟩ offset = true)
    {sentinel : Sentinel} (stands : SentinelAt data offset sentinel) :
    (walk ⟨data.size⟩ source offset consumed).1 = ⟨[], some (offset, sentinel), .complete⟩ := by
  have found := (foundAt_sentinel_iff inside).mpr stands
  rw [← (readFound_harmless same h inside).1] at found
  rw [walk_of_readFound down consumed (Prod.ext found rfl)]

/-- A walk ends at a record that would lead more than once around. -/
theorem walk_overfull {source : Source} (same : source.data = data) (h : source.plan.Harmless)
    (down : source.aborted = false) (consumed : Nat) (inside : contains ⟨data.size⟩ offset = true)
    {record : Record} (stands : StandsAt data offset record)
    (full : data.size - start < consumed + record.size.toNat) :
    (walk ⟨data.size⟩ source offset consumed).1 = ended (.corrupted offset
      (.outOfBounds .ring offset (consumed + record.size.toNat) (data.size - start))) := by
  have found := (foundAt_event_iff inside).mpr stands
  rw [← (readFound_harmless same h inside).1] at found
  rw [walk_of_readFound down consumed (Prod.ext found rfl)]
  dsimp only
  rw [size_mk, if_pos full]

/-- A walk goes on over a record that stands at its offset, if the turn has room for it. -/
theorem walk_event {source : Source} (same : source.data = data) (h : source.plan.Harmless)
    (down : source.aborted = false) (consumed : Nat) (inside : contains ⟨data.size⟩ offset = true)
    {record : Record} (stands : StandsAt data offset record)
    (room : consumed + record.size.toNat ≤ data.size - start) :
    ∃ after : Source, after.Agrees source ∧
      (walk ⟨data.size⟩ source offset consumed).1 =
        let rest := (walk ⟨data.size⟩ after (position ⟨data.size⟩ offset record.size.toNat)
          (consumed + record.size.toNat)).1
        { rest with records := record :: rest.records } := by
  have found := (foundAt_event_iff inside).mpr stands
  obtain ⟨exact, agrees⟩ := readFound_harmless same h inside
  rw [← exact] at found
  refine ⟨(readFound ⟨data.size⟩ source offset).2, agrees, ?_⟩
  rw [walk_of_readFound down consumed (Prod.ext found rfl)]
  dsimp only
  rw [size_mk, if_neg (by omega), next_eq_position inside stands.fits]

/-- Records that are laid out one right after the other, each with the position of its first
byte. -/
def placed (ring : Ring) (offset : Nat) (parts : List (Bytes × Record)) : List Record :=
  parts.mapIdx fun index part =>
    { part.2 with offset := ring.position offset ((parts.take index).flatMap Prod.fst).length }

/-- The first record is placed at the offset, and the others from the end of its bytes on. -/
theorem placed_cons {ring : Ring} (inside : ring.contains offset = true) (part : Bytes × Record)
    (rest : List (Bytes × Record)) :
    placed ring offset (part :: rest) =
      { part.2 with offset } :: placed ring (ring.position offset part.1.length) rest := by
  simp only [placed, List.mapIdx_cons, List.take_zero, List.flatMap_nil, List.length_nil,
    position_zero inside, List.take_succ_cons, List.flatMap_cons, List.length_append,
    position_position]

/-- A walk finds all records that are laid out before an end of file record, each at its position,
and then that end of file record. -/
theorem walk_of_laid_out {source : Source} (same : source.data = data) (h : source.plan.Harmless)
    (down : source.aborted = false) (consumed : Nat) (inside : contains ⟨data.size⟩ offset = true)
    {parts : List (Bytes × Record)} (decoded : ∀ part ∈ parts, Record.decode part.1 = .ok part.2)
    {last : Bytes} {sentinel : Sentinel} (ends : Sentinel.decode last = .ok sentinel)
    (exact : last.length = Sentinel.size)
    (lies : Lies data offset (parts.flatMap Prod.fst ++ last))
    (room : consumed + (parts.flatMap Prod.fst).length ≤ data.size - start) :
    (walk ⟨data.size⟩ source offset consumed).1 =
      ⟨placed ⟨data.size⟩ offset parts,
        some (position ⟨data.size⟩ offset (parts.flatMap Prod.fst).length, sentinel),
        .complete⟩ := by
  induction parts generalizing source offset consumed with
  | nil =>
    rw [List.flatMap_nil, List.nil_append] at lies
    rw [walk_sentinel same h down consumed inside (sentinelAt_of_lies inside lies ends exact)]
    rw [List.flatMap_nil, List.length_nil, position_zero inside]
    rfl
  | cons part rest ih =>
    obtain ⟨bytes, record⟩ := part
    rw [List.flatMap_cons, List.append_assoc] at lies
    rw [List.flatMap_cons, List.length_append] at room
    dsimp only at lies room
    obtain ⟨here, there⟩ := lies.of_append
    have record_decoded := decoded _ List.mem_cons_self
    have size := Record.size_of_decode record_decoded
    have stands := standsAt_of_lies inside here record_decoded
    dsimp only at size
    have inside' := contains_position inside bytes.length
    obtain ⟨after, agrees, walked⟩ :=
      walk_event same h down consumed inside stands (by dsimp only; omega)
    have later := ih (agrees.1.trans same) (agrees.harmless h) (agrees.2.2.trans down)
      (consumed + bytes.length) inside'
      (fun part member => decoded part (List.mem_cons_of_mem _ member)) there (by omega)
    dsimp only at walked
    rw [size, later] at walked
    rw [walked, placed_cons inside, position_position, List.flatMap_cons, List.length_append]

/-- A walk changes nothing of a source but its counts of calls and the flag. -/
theorem walk_continues (ring : Ring) (source : Source) (offset consumed : Nat) :
    (walk ring source offset consumed).2.Continues source := by
  fun_induction walk ring source offset consumed with
  | case1 source => exact .refl source
  | case2 source offset _ _ e after read => exact (readFound_continues _ _ _).of_eq read
  | case3 source offset _ _ sentinel after read => exact (readFound_continues _ _ _).of_eq read
  | case4 source offset _ _ record after read => exact (readFound_continues _ _ _).of_eq read
  | case5 source offset _ _ record after read _ rest last walked ih =>
    rw [walked] at ih
    exact ih.trans ((readFound_continues _ _ _).of_eq read)

/-- What a walk found lies in the region and fits into it. -/
structure Within (ring : Ring) (scan : Scan) : Prop where
  /-- Every record starts in the region and is neither empty nor too large for it. -/
  records : ∀ record ∈ scan.records, ring.contains record.offset = true ∧
    0 < record.size.toNat ∧ record.size.toNat ≤ ring.size
  /-- So does the end of file record. -/
  sentinel : ∀ found ∈ scan.sentinel, ring.contains found.1 = true ∧ Sentinel.size ≤ ring.size

/-- What a walk reports lies in the region. -/
theorem Faithful.within {consumed : Nat} {scan : Scan}
    (faithful : Faithful data offset consumed scan) (inside : contains ⟨data.size⟩ offset = true) :
    Within ⟨data.size⟩ scan where
  records record member := by
    obtain ⟨inside', stands⟩ := faithful.chained.within inside member
    have least := stands.minimumSize_le
    rw [Record.minimumSize] at least
    exact ⟨inside', by omega, stands.fits⟩
  sentinel found member := by
    obtain ⟨place, decoded⟩ := faithful.met found member
    have inside' := contains_position inside (total scan.records)
    rw [← place] at inside'
    have bounds : start ≤ found.1 ∧ found.1 < data.size := contains_iff.mp inside'
    have long := (Sentinel.decode_eq_ok_iff.mp decoded).1
    rw [List.length_take, length_unrolled bounds.1 (Nat.le_of_lt bounds.2)] at long
    exact ⟨inside', by rw [size_mk]; omega⟩

/-- A walk starts where the header says, if both of its offsets lie in the region. -/
theorem run_inside {ring : Ring} {header : Header} {source : Source}
    (first : ring.contains header.firstRecordOffset.toNat = true)
    (last : ring.contains header.sentinelOffset.toNat = true) :
    run ring header source = walk ring source header.firstRecordOffset.toNat 0 := by
  rw [run, first, last, if_neg (by decide)]

/-- If both offsets of the header lie in the region, a walk finds all records that are laid out from
the first one on before an end of file record, and then that. -/
theorem run_of_laid_out {source : Source} (same : source.data = data) (h : source.plan.Harmless)
    (down : source.aborted = false) {header : Header}
    (first : contains ⟨data.size⟩ header.firstRecordOffset.toNat = true)
    (last : contains ⟨data.size⟩ header.sentinelOffset.toNat = true)
    {parts : List (Bytes × Record)} (decoded : ∀ part ∈ parts, Record.decode part.1 = .ok part.2)
    {closing : Bytes} {sentinel : Sentinel} (closes : Sentinel.decode closing = .ok sentinel)
    (exact : closing.length = Sentinel.size)
    (lies : Lies data header.firstRecordOffset.toNat (parts.flatMap Prod.fst ++ closing)) :
    (run ⟨data.size⟩ header source).1 =
      ⟨placed ⟨data.size⟩ header.firstRecordOffset.toNat parts,
        some (position ⟨data.size⟩ header.firstRecordOffset.toNat
          (parts.flatMap Prod.fst).length, sentinel),
        .complete⟩ := by
  have room := lies.1
  rw [List.length_append] at room
  rw [run_inside first last]
  exact walk_of_laid_out same h down 0 first decoded closes exact lies (by omega)

/-- A walk ends before it starts if one of the offsets of the header lies outside the region. -/
theorem run_outside {ring : Ring} {header : Header} {source : Source}
    (outside : ¬(ring.contains header.firstRecordOffset.toNat = true ∧
      ring.contains header.sentinelOffset.toNat = true)) :
    run ring header source =
      (ended (.corrupted header.firstRecordOffset.toNat (.outOfBounds .firstRecordOffset
        header.firstRecordOffset.toNat 0 ring.fileEnd)), source) := by
  rw [run, if_pos]
  rw [Decidable.not_and_iff_not_or_not] at outside
  simpa only [Bool.not_eq_true, Bool.or_eq_true, Bool.not_eq_true'] using outside

/-- Whatever the header says, a walk changes nothing of a source but its counts of calls and the
flag. -/
theorem run_continues (ring : Ring) (header : Header) (source : Source) :
    (run ring header source).2.Continues source := by
  rw [run]
  split
  · exact .refl source
  · exact walk_continues ring source _ _

/-- Whatever the header says and whatever the reads do, a walk is complete just if it met an end of
file record. -/
theorem run_complete_iff (ring : Ring) (header : Header) (source : Source) :
    (run ring header source).1.outcome = .complete ↔
      (run ring header source).1.sentinel.isSome = true := by
  rw [run]
  split
  · exact ⟨nofun, nofun⟩
  · exact walk_complete_iff ring source _ _

/-- Whatever the header says, if no read can fail and none raises the flag, a walk leaves a source
as it is but for its counts of calls. -/
theorem run_agrees (header : Header) {source : Source} (same : source.data = data)
    (h : source.plan.Harmless) : (run ⟨data.size⟩ header source).2.Agrees source := by
  by_cases both : contains ⟨data.size⟩ header.firstRecordOffset.toNat = true ∧
      contains ⟨data.size⟩ header.sentinelOffset.toNat = true
  · rw [run_inside both.1 both.2]
    exact walk_agrees same h 0 both.1
  · rw [run_outside both]
    exact ⟨rfl, rfl, rfl⟩

/-- Whatever the header says, if no read can fail and the flag stays down, a walk is not
cancelled. -/
theorem run_ne_cancelled (header : Header) {source : Source} (same : source.data = data)
    (h : source.plan.Harmless) (down : source.aborted = false) :
    (run ⟨data.size⟩ header source).1.outcome ≠ .cancelled := by
  by_cases both : contains ⟨data.size⟩ header.firstRecordOffset.toNat = true ∧
      contains ⟨data.size⟩ header.sentinelOffset.toNat = true
  · rw [run_inside both.1 both.2]
    exact (walk_settled same h down 0 both.1).1
  · rw [run_outside both]
    nofun

/-- What a walk finds from an offset in the region on lies in the region, whatever length the source
reports. -/
theorem walk_within {ring : Ring} (source : Source) {offset : Nat} (consumed : Nat)
    (inside : ring.contains offset = true) :
    Within ring (walk ring source offset consumed).1 := by
  fun_induction walk ring source offset consumed with
  | case1 => exact ⟨nofun, nofun⟩
  | case2 => exact ⟨nofun, nofun⟩
  | case3 source offset consumed _ sentinel after read =>
    refine ⟨nofun, ?_⟩
    intro found member
    cases member
    exact sentinel_of_readFound read
  | case4 => exact ⟨nofun, nofun⟩
  | case5 source offset consumed _ record after read _ rest last walked ih =>
    obtain ⟨-, starts, fits⟩ := event_of_readFound read
    have least : 60 ≤ record.size.toNat := minimumSize_le_of_readFound read
    have next := contains_position inside record.size.toNat
    rw [← next_eq_position inside fits] at next
    have later := ih next
    rw [walked] at later
    refine ⟨?_, later.sentinel⟩
    intro found member
    rcases List.mem_cons.mp member with rfl | member
    · exact ⟨starts ▸ inside, by omega, fits⟩
    · exact later.records found member

/-- Whatever the header says and whatever length the source reports, what a walk found lies in the
region. -/
theorem run_within (ring : Ring) (header : Header) (source : Source) :
    Within ring (run ring header source).1 := by
  by_cases both : ring.contains header.firstRecordOffset.toNat = true ∧
      ring.contains header.sentinelOffset.toNat = true
  · rw [run_inside both.1 both.2]
    exact walk_within source 0 both.1
  · rw [run_outside both]
    exact ⟨nofun, nofun⟩

end EventLog.Scan
