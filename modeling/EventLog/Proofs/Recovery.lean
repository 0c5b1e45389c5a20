import EventLog.Proofs.Candidates
import EventLog.Proofs.Walk

/-!
# What a recovery pass takes

A run of the ring shares a part of the file with what is accounted for just if one of its bytes is
accounted for (`all_isFree_eq`), so that a pass whose reads cannot fail takes what one pass over all
signatures takes (`run_harmless`). Whatever the plan, a pass takes only records that stand in the
ring and have no byte that is accounted for, in ascending order and each after the end of the one
before (`run_spare`).
-/

namespace EventLog.Recovery

open EventLog.Ring

variable {ring : Ring} {scan : Scan} {offset : Nat}

/-- Two runs of the file that are not empty overlap just if they share a byte. -/
theorem overlaps_iff {a b : Span} (ha : a.start < a.stop) (hb : b.start < b.stop) :
    a.overlaps b = true ↔
      ∃ byte, (a.start ≤ byte ∧ byte < a.stop) ∧ (b.start ≤ byte ∧ byte < b.stop) := by
  simp only [Span.overlaps, Bool.and_eq_true, decide_eq_true_eq]
  constructor
  · rintro ⟨first, second⟩
    exact ⟨max a.start b.start, by omega, by omega⟩
  · rintro ⟨byte, first, second⟩
    omega

/-- The parts of the file that are accounted for hold just the bytes that are. -/
theorem mem_occupied_iff (within : scan.Within ring) (byte : Nat) :
    (∃ span ∈ occupied ring scan, span.start ≤ byte ∧ byte < span.stop) ↔
      accounted ring scan byte = true := by
  have header : (∃ span ∈ [(⟨0, start⟩ : Span)], span.start ≤ byte ∧ byte < span.stop) ↔
      byte < start := by
    simp only [List.mem_singleton, exists_eq_left, Nat.zero_le, true_and]
  have records : (∃ span ∈ scan.records.flatMap (fun r => ring.spans r.offset r.size.toNat),
        span.start ≤ byte ∧ byte < span.stop) ↔
      ∃ record ∈ scan.records, ring.covers record.offset record.size.toNat byte = true := by
    simp only [List.mem_flatMap]
    constructor
    · rintro ⟨span, ⟨record, member, part⟩, bounds⟩
      obtain ⟨inside, -, fits⟩ := within.records record member
      exact ⟨record, member, (mem_spans_iff inside fits byte).mp ⟨span, part, bounds⟩⟩
    · rintro ⟨record, member, covered⟩
      obtain ⟨inside, -, fits⟩ := within.records record member
      obtain ⟨span, part, bounds⟩ := (mem_spans_iff inside fits byte).mpr covered
      exact ⟨span, ⟨record, member, part⟩, bounds⟩
  have sentinel : (∃ span ∈ scan.sentinel.elim []
        (fun found => ring.spans found.1 Sentinel.size),
        span.start ≤ byte ∧ byte < span.stop) ↔
      scan.sentinel.any (fun found => ring.covers found.1 Sentinel.size byte) = true := by
    cases met : scan.sentinel with
    | none => simp only [Option.elim_none, List.not_mem_nil, false_and, exists_false,
        Option.any_none, Bool.false_eq_true]
    | some found =>
      obtain ⟨inside, fits⟩ := within.sentinel found met
      rw [Option.elim_some, Option.any_some]
      exact mem_spans_iff inside fits byte
  have joined : occupied ring scan =
      [⟨0, start⟩] ++ scan.records.flatMap (fun r => ring.spans r.offset r.size.toNat) ++
        scan.sentinel.elim [] (fun found => ring.spans found.1 Sentinel.size) := rfl
  rw [joined, accounted, Bool.or_eq_true, Bool.or_eq_true, decide_eq_true_eq, List.any_eq_true,
    ← header, ← records, ← sentinel]
  simp only [List.mem_append, or_and_right, exists_or]

/-- No part of the file that is accounted for is empty. -/
theorem start_lt_stop_of_mem_occupied (within : scan.Within ring) {span : Span}
    (member : span ∈ occupied ring scan) : span.start < span.stop := by
  rw [occupied, List.mem_append, List.mem_cons, List.mem_flatMap] at member
  rcases member with (rfl | ⟨record, member, part⟩) | part
  · exact (by decide : 0 < start)
  · obtain ⟨inside, some, -⟩ := within.records record member
    exact start_lt_stop_of_mem_spans inside some part
  · cases met : scan.sentinel with
    | none =>
      rw [met] at part
      cases part
    | some found =>
      rw [met] at part
      exact start_lt_stop_of_mem_spans (within.sentinel found met).1 (by decide) part

/-- A run of the file is free just if none of its bytes is accounted for. -/
theorem isFree_iff (within : scan.Within ring) {span : Span} (some : span.start < span.stop) :
    isFree (occupied ring scan) span = true ↔
      ∀ byte, span.start ≤ byte → byte < span.stop → accounted ring scan byte = false := by
  rw [isFree, Bool.not_eq_true', ← Bool.not_eq_true, List.any_eq_true]
  constructor
  · intro apart byte low high
    rw [← Bool.not_eq_true, ← mem_occupied_iff within]
    rintro ⟨taken, member, bounds⟩
    have nonempty := start_lt_stop_of_mem_occupied within member
    exact apart ⟨taken, member, (overlaps_iff some nonempty).mpr ⟨byte, ⟨low, high⟩, bounds⟩⟩
  · rintro free ⟨taken, member, overlap⟩
    have nonempty := start_lt_stop_of_mem_occupied within member
    obtain ⟨byte, ⟨low, high⟩, bounds⟩ := (overlaps_iff some nonempty).mp overlap
    have known := (mem_occupied_iff within byte).mp ⟨taken, member, bounds⟩
    rw [free byte low high] at known
    cases known

/-- A byte is not accounted for just if it lies behind the header and in no record of the walk and
not in its end of file record. -/
theorem accounted_eq_false_iff {byte : Nat} :
    accounted ring scan byte = false ↔
      start ≤ byte ∧
        (∀ record ∈ scan.records, ring.covers record.offset record.size.toNat byte = false) ∧
        ∀ found ∈ scan.sentinel, ring.covers found.1 Sentinel.size byte = false := by
  simp only [accounted, Bool.or_eq_false_iff, decide_eq_false_iff_not, Nat.not_lt, and_assoc,
    List.any_eq_false, Option.any_eq_false, Option.mem_def, Bool.not_eq_true]

/-- No byte of a run is accounted for just if that holds of every byte that the run covers. -/
theorem unaccounted_iff {size : Nat} :
    unaccounted ring scan offset size = true ↔
      ∀ byte, ring.covers offset size byte = true → accounted ring scan byte = false := by
  simp only [unaccounted, List.all_eq_true, List.mem_range, Bool.not_eq_true', covers_iff]
  constructor
  · rintro free byte ⟨distance, near, rfl⟩
    exact free distance near
  · intro free distance near
    exact free _ ⟨distance, near, rfl⟩

/-- All parts of a run of the ring are free just if no byte of the run is accounted for. -/
theorem all_isFree_eq (within : scan.Within ring) (inside : ring.contains offset = true)
    {size : Nat} (some : 0 < size) (fits : size ≤ ring.size) :
    (ring.spans offset size).all (isFree (occupied ring scan)) =
      unaccounted ring scan offset size := by
  rw [Bool.eq_iff_iff, List.all_eq_true, unaccounted_iff]
  constructor
  · intro free byte covered
    obtain ⟨span, part, low, high⟩ := (mem_spans_iff inside fits byte).mpr covered
    have nonempty := start_lt_stop_of_mem_spans inside some part
    exact (isFree_iff within nonempty).mp (free span part) byte low high
  · intro free span part
    have nonempty := start_lt_stop_of_mem_spans inside some part
    rw [isFree_iff within nonempty]
    intro byte low high
    exact free byte ((mem_spans_iff inside fits byte).mp ⟨span, part, low, high⟩)

/-- The first bytes at an offset are free just if none of them is accounted for. -/
theorem isFree_front_eq (within : scan.Within ring) (inside : ring.contains offset = true)
    (room : offset + minimumDeclared ≤ ring.fileEnd) :
    isFree (occupied ring scan) ⟨offset, offset + minimumDeclared⟩ =
      unaccounted ring scan offset minimumDeclared := by
  have bounds := contains_iff.mp inside
  have fits : minimumDeclared ≤ ring.size := by
    rw [size]
    omega
  rw [← all_isFree_eq within inside (by decide) fits, spans, if_pos room, List.all_cons,
    List.all_nil, Bool.and_true]

variable {data : Array UInt8}

/-- A record is spare just if it stands at the offset and none of its bytes is accounted for. -/
theorem spare?_eq_some_iff (inside : contains ⟨data.size⟩ offset = true) {record : Record} :
    spare? data scan offset = some record ↔
      StandsAt data offset record ∧ unaccounted ⟨data.size⟩ scan offset minimumDeclared = true ∧
        unaccounted ⟨data.size⟩ scan offset record.size.toNat = true := by
  rw [← foundAt_event_iff inside]
  unfold spare?
  cases found : foundAt data offset with
  | error e => simp only [reduceCtorEq, false_and]
  | ok thing =>
    cases thing with
    | sentinel _ => simp only [Except.ok.injEq, reduceCtorEq, false_and]
    | event other =>
      simp only [Bool.and_eq_true, Option.ite_none_right_eq_some, Option.some.injEq,
        Except.ok.injEq, Found.event.injEq]
      constructor
      · rintro ⟨free, rfl⟩
        exact ⟨rfl, free⟩
      · rintro ⟨rfl, free⟩
        exact ⟨free, rfl⟩

/-- Where bytes lie that decode to an event record and none of which is accounted for, that record
is spare. -/
theorem spare?_of_lies {fileEnd : Nat} (length : data.size = fileEnd)
    (inside : contains ⟨fileEnd⟩ offset = true) {bytes : Bytes} {record : Record}
    (lies : Lies data offset bytes) (decoded : Record.decode bytes = .ok record)
    (front : unaccounted ⟨fileEnd⟩ scan offset minimumDeclared = true)
    (free : unaccounted ⟨fileEnd⟩ scan offset record.size.toNat = true) :
    spare? data scan offset = some { record with offset } := by
  subst length
  exact (spare?_eq_some_iff inside).mpr ⟨standsAt_of_lies inside lies decoded, front, free⟩

/-- A pass takes a record from what it finds just if the record stands there and no byte of it is
accounted for. -/
theorem record?_eq_some_iff (within : scan.Within ⟨data.size⟩)
    (inside : contains ⟨data.size⟩ offset = true) {found : Except DecodeError Found}
    (real : ∀ thing, found = .ok thing → foundAt data offset = .ok thing) {record : Record} :
    record? ⟨data.size⟩ (occupied ⟨data.size⟩ scan) found = some record ↔
      found = .ok (.event record) ∧
        unaccounted ⟨data.size⟩ scan offset record.size.toNat = true := by
  unfold record?
  split
  · rename_i other
    have stands := (foundAt_event_iff inside).mp (real _ rfl)
    have least := stands.minimumSize_le
    rw [Record.minimumSize] at least
    rw [stands.starts, all_isFree_eq within inside (by omega) stands.fits]
    simp only [Option.ite_none_right_eq_some, Option.some.injEq, Except.ok.injEq,
      Found.event.injEq]
    constructor
    · rintro ⟨free, rfl⟩
      exact ⟨rfl, free⟩
    · rintro ⟨rfl, free⟩
      exact ⟨free, rfl⟩
  · rename_i other
    constructor
    · intro taken
      cases taken
    · rintro ⟨same, -⟩
      exact absurd same (other record)

/-- If no read can fail, a pass takes the spare record at an offset whose first bytes are free. -/
theorem record?_harmless {source : Source} (same : source.data = data) (h : source.plan.Harmless)
    (within : scan.Within ⟨data.size⟩) (inside : contains ⟨data.size⟩ offset = true)
    (front : unaccounted ⟨data.size⟩ scan offset minimumDeclared = true) :
    record? ⟨data.size⟩ (occupied ⟨data.size⟩ scan) (readFound ⟨data.size⟩ source offset).1 =
      spare? data scan offset := by
  have exact := (readFound_harmless same h inside).1
  apply Option.ext
  intro record
  rw [record?_eq_some_iff within inside (fun thing => (exact thing).mp), spare?_eq_some_iff inside,
    exact, foundAt_event_iff inside]
  simp only [front, true_and]

/-- An offset whose first bytes are accounted for has no spare record. -/
theorem spare?_eq_none (inside : contains ⟨data.size⟩ offset = true)
    (taken : unaccounted ⟨data.size⟩ scan offset minimumDeclared = false) :
    spare? data scan offset = none := by
  rw [Option.eq_none_iff_forall_ne_some]
  intro record spare
  have free := ((spare?_eq_some_iff inside).mp spare).2.1
  rw [taken] at free
  cases free

/-- If no read can fail and the flag stays down, what is taken of some offsets and then of later
ones is what one pass takes of them all. -/
theorem harvest_harmless {source : Source} (same : source.data = data) (h : source.plan.Harmless)
    (down : source.aborted = false) (within : scan.Within ⟨data.size⟩) {offsets : List Nat}
    (signed : ∀ o ∈ offsets, start ≤ o ∧ o + minimumDeclared ≤ data.size) (resume : Nat)
    (later : List Nat) :
    let pass := harvest ⟨data.size⟩ (occupied ⟨data.size⟩ scan) source resume offsets
    takeSpare data scan (offsets ++ later) resume =
        pass.1.records ++ takeSpare data scan later pass.1.resume ∧
      pass.1.cancelled = false ∧ pass.2.Agrees source := by
  induction offsets generalizing source resume with
  | nil => exact ⟨rfl, rfl, rfl, rfl, rfl⟩
  | cons offset rest ih =>
    obtain ⟨low, room⟩ := signed offset List.mem_cons_self
    have signed' := fun o member => signed o (List.mem_cons_of_mem _ member)
    rw [minimumDeclared] at room
    have inside : contains ⟨data.size⟩ offset = true :=
      contains_iff.mpr ⟨low, Nat.lt_of_lt_of_le (by omega) room⟩
    have front := isFree_front_eq within inside room
    rw [harvest, if_neg (by rw [down]; exact Bool.false_ne_true), List.cons_append, takeSpare,
      front]
    by_cases early : offset < resume
    · rw [if_pos early, if_pos (by rw [decide_eq_true early, Bool.true_or])]
      exact ih same h down signed' resume
    · rw [if_neg early, decide_eq_false early, Bool.false_or]
      cases free : unaccounted ⟨data.size⟩ scan offset minimumDeclared with
      | false =>
        rw [spare?_eq_none inside free, if_pos (by rfl)]
        exact ih same h down signed' resume
      | true =>
        rw [if_neg (by decide), ← record?_harmless same h within inside free]
        cases read : readFound ⟨data.size⟩ source offset with
        | mk found after =>
          have agrees := (readFound_harmless same h inside).2.of_eq read
          have kept := agrees.1.trans same
          have quiet := agrees.2.2.trans down
          dsimp only
          cases record? ⟨data.size⟩ (occupied ⟨data.size⟩ scan) found with
          | none =>
            obtain ⟨taken, going, last⟩ := ih kept (agrees.harmless h) quiet signed' resume
            exact ⟨taken, going, last.trans agrees⟩
          | some record =>
            obtain ⟨taken, going, last⟩ :=
              ih kept (agrees.harmless h) quiet signed' (offset + record.size.toNat)
            refine ⟨?_, going, last.trans agrees⟩
            dsimp only
            rw [taken, List.cons_append]

/-- If no read can fail and the flag stays down, all blocks are searched, and what is taken of them
is what one pass takes of all their offsets. -/
theorem search_harmless {source : Source} (same : source.data = data) (h : source.plan.Harmless)
    (down : source.aborted = false) (within : scan.Within ⟨data.size⟩) (blocks blockStart : Nat)
    (reach : blocks = 0 ∨ blockStart + (blocks - 1) * blockStep < data.size) (resume : Nat) :
    let pass := search ⟨data.size⟩ (occupied ⟨data.size⟩ scan) blocks source blockStart resume
    pass.1 = ⟨takeSpare data scan (share data blockStart (blockStart + blocks * blockStep)) resume,
        .finished⟩ ∧
      pass.2.Agrees source := by
  induction blocks generalizing source blockStart resume with
  | zero =>
    rw [search, Nat.zero_mul, Nat.add_zero, share_empty]
    exact ⟨rfl, rfl, rfl, rfl⟩
  | succ blocks ih =>
    have step : (blocks + 1) * blockStep = blockStep + blocks * blockStep := by
      rw [Nat.succ_mul, Nat.add_comm]
    have size : blockSize ⟨data.size⟩ blockStart ≤ data.size - blockStart := Nat.min_le_right _ _
    have reached : blockStart + blocks * blockStep < data.size := by
      rcases reach with zero | reach
      · omega
      · exact reach
    obtain ⟨result, kept⟩ := source.readPiece_of_harmless h .recoveryBlock blockStart
      (blockSize ⟨data.size⟩ blockStart)
    rw [same, if_neg (by omega)] at result
    rw [same] at kept
    rw [search, if_neg (by rw [down]; exact Bool.false_ne_true)]
    dsimp only
    cases read : source.readPiece data.size .recoveryBlock blockStart
        (blockSize ⟨data.size⟩ blockStart) with
    | mk outcome after =>
      rw [read] at result kept
      subst result
      dsimp only
      rw [candidates_eq_share]
      have signed : ∀ o ∈ share data blockStart (blockStart + blockStep),
          start ≤ o ∧ o + minimumDeclared ≤ data.size := by
        intro o member
        obtain ⟨room, low, -⟩ := mem_signedOffsets.mp (mem_share.mp member).1
        exact ⟨low, room⟩
      obtain ⟨taken, going, kept'⟩ := harvest_harmless (kept.1.trans same) (kept.harmless h)
        (kept.2.2.trans down) within signed resume
        (share data (blockStart + blockStep) (blockStart + blockStep + blocks * blockStep))
      rw [share_append (Nat.le_add_right _ _) (Nat.le_add_right _ _)] at taken
      cases harvested : harvest ⟨data.size⟩ (occupied ⟨data.size⟩ scan) after resume
          (share data blockStart (blockStart + blockStep)) with
      | mk here middle =>
        rw [harvested] at taken going kept'
        dsimp only at taken going kept' ⊢
        have agrees := kept'.trans kept
        obtain ⟨later, last⟩ := ih (agrees.1.trans same) (agrees.harmless h)
          (agrees.2.2.trans down) (blockStart + blockStep) (by rw [blockStep] at *; omega)
          here.resume
        rw [going, if_neg Bool.false_ne_true]
        refine ⟨?_, last.trans agrees⟩
        dsimp only at later ⊢
        rw [later, step, ← Nat.add_assoc, taken]

/-- If no read can fail and the flag stays down, recovery searches the whole ring and takes what one
pass takes. -/
theorem run_harmless {source : Source} (same : source.data = data) (h : source.plan.Harmless)
    (down : source.aborted = false) (within : scan.Within ⟨data.size⟩) :
    (run ⟨data.size⟩ scan source).1 = ⟨onePass data scan, .finished⟩ ∧
      (run ⟨data.size⟩ scan source).2.Agrees source := by
  have count : blockCount ⟨data.size⟩ = (data.size - start + (blockStep - 1)) / blockStep := rfl
  have reach : blockCount ⟨data.size⟩ = 0 ∨
      start + (blockCount ⟨data.size⟩ - 1) * blockStep < data.size := by
    rw [count, blockStep]
    omega
  obtain ⟨taken, last⟩ := search_harmless same h down within _ start reach start
  rw [share_whole (size_le_blockCount data.size)] at taken
  exact ⟨taken, last⟩

/-- Looking at candidates changes nothing of a source but its counts of calls and the flag. -/
theorem harvest_continues (ring : Ring) (taken : List Span) (source : Source) (resume : Nat)
    (offsets : List Nat) : (harvest ring taken source resume offsets).2.Continues source := by
  induction offsets generalizing source resume with
  | nil => exact .refl source
  | cons offset rest ih =>
    rw [harvest]
    split
    · exact .refl source
    · split
      · exact ih source resume
      · cases read : ring.readFound source offset with
        | mk found after =>
          have looked := (readFound_continues _ _ _).of_eq read
          dsimp only
          split
          · exact (ih after resume).trans looked
          · exact (ih after _).trans looked

/-- Searching blocks changes nothing of a source but its counts of calls and the flag. -/
theorem search_continues (ring : Ring) (taken : List Span) (blocks : Nat) (source : Source)
    (blockStart resume : Nat) :
    (search ring taken blocks source blockStart resume).2.Continues source := by
  induction blocks generalizing source blockStart resume with
  | zero => exact .refl source
  | succ blocks ih =>
    rw [search]
    split
    · exact .refl source
    · cases read : source.readPiece ring.fileEnd .recoveryBlock blockStart
          (blockSize ring blockStart) with
      | mk outcome after =>
        have moved := (source.readPiece_continues _ _ _ _).of_eq read
        cases outcome with
        | error e => exact moved
        | ok block =>
          have looked := harvest_continues ring taken after resume (candidates block blockStart)
          dsimp only
          split
          · exact looked.trans moved
          · exact ((ih _ _ _).trans looked).trans moved

/-- A recovery pass changes nothing of a source but its counts of calls and the flag. -/
theorem run_continues (ring : Ring) (scan : Scan) (source : Source) :
    (run ring scan source).2.Continues source := search_continues _ _ _ _ _ _

/-- If the flag is up, a recovery pass over a region that is not empty is cancelled before it reads
anything. -/
theorem run_of_aborted {ring : Ring} (room : 0 < ring.size) (scan : Scan) {source : Source}
    (up : source.aborted = true) : run ring scan source = (⟨[], .cancelled⟩, source) := by
  rw [run]
  cases count : blockCount ring with
  | zero =>
    rw [blockCount, blockStep] at count
    omega
  | succ blocks => rw [search, if_pos up]

/-- A record that a recovery pass may take: it stands in the ring and has no byte that is accounted
for. -/
structure Spare (data : Array UInt8) (scan : Scan) (record : Record) : Prop where
  /-- The record starts in the region. -/
  inside : contains ⟨data.size⟩ record.offset = true
  /-- The record stands where it says. -/
  stands : StandsAt data record.offset record
  /-- No byte of the record is accounted for. -/
  free : unaccounted ⟨data.size⟩ scan record.offset record.size.toNat = true

/-- The records start at or after one offset, each at or after the end of the one before, and end at
or before another offset. -/
def Ascending : (low : Nat) → List Record → (high : Nat) → Prop
  | low, [], high => low ≤ high
  | low, record :: rest, high =>
    low ≤ record.offset ∧ Ascending (record.offset + record.size.toNat) rest high

/-- Ascending records and then further ones from where they end are ascending. -/
theorem Ascending.append {low middle high : Nat} {first second : List Record}
    (hf : Ascending low first middle) (hs : Ascending middle second high) :
    Ascending low (first ++ second) high := by
  induction first generalizing low with
  | nil =>
    cases second with
    | nil => exact Nat.le_trans hf hs
    | cons record rest => exact ⟨Nat.le_trans hf hs.1, hs.2⟩
  | cons record rest ih => exact ⟨hf.1, ih hf.2⟩

/-- Ascending records start at or after their lower bound. -/
theorem Ascending.low_le {low high : Nat} {records : List Record}
    (ascending : Ascending low records high) {record : Record} (member : record ∈ records) :
    low ≤ record.offset := by
  induction records generalizing low with
  | nil => cases member
  | cons first rest ih =>
    rcases List.mem_cons.mp member with rfl | member
    · exact ascending.1
    · have later := ih ascending.2 member
      have here := ascending.1
      omega

/-- Of ascending records each starts at or after the end of every one before. -/
theorem Ascending.ends_before {low high : Nat} {records : List Record}
    (ascending : Ascending low records high) :
    records.Pairwise fun first second => first.offset + first.size.toNat ≤ second.offset := by
  induction records generalizing low with
  | nil => exact .nil
  | cons first rest ih =>
    exact .cons (fun second member => ascending.2.low_le member) (ih ascending.2)

/-- The offsets of ascending records are strictly ascending, as no record is empty. -/
theorem Ascending.sorted {low high : Nat} {records : List Record}
    (ascending : Ascending low records high) (some : ∀ record ∈ records, 0 < record.size.toNat) :
    records.Pairwise fun first second => first.offset < second.offset := by
  refine ascending.ends_before.imp_of_mem ?_
  intro first second member _ before
  have taken := some first member
  omega

/-- Whatever the plan, a record that is taken from what was found at an offset starts there and is
spare. -/
theorem spare_of_record? {source after : Source} (same : source.data = data)
    (within : scan.Within ⟨data.size⟩) {found : Except DecodeError Found}
    (read : readFound ⟨data.size⟩ source offset = (found, after)) {record : Record}
    (taken : record? ⟨data.size⟩ (occupied ⟨data.size⟩ scan) found = some record) :
    record.offset = offset ∧ Spare data scan record := by
  cases found with
  | error e => cases taken
  | ok thing =>
    obtain ⟨inside, stands, -⟩ := readFound_ok same read
    have real : ∀ other, Except.ok thing = (.ok other : Except DecodeError Found) →
        foundAt data offset = .ok other := by
      rintro other same
      rw [← same]
      exact stands
    obtain ⟨shown, free⟩ := (record?_eq_some_iff within inside real).mp taken
    rw [shown, foundAt_event_iff inside] at stands
    have starts := stands.starts
    subst starts
    exact ⟨rfl, inside, stands, free⟩

/-- Whatever the plan, what is taken of candidates is spare and ascending. -/
theorem harvest_spare {source : Source} (same : source.data = data)
    (within : scan.Within ⟨data.size⟩) (resume : Nat) (offsets : List Nat) :
    let pass := harvest ⟨data.size⟩ (occupied ⟨data.size⟩ scan) source resume offsets
    (∀ record ∈ pass.1.records, Spare data scan record) ∧
      Ascending resume pass.1.records pass.1.resume := by
  induction offsets generalizing source resume with
  | nil => exact ⟨nofun, Nat.le_refl resume⟩
  | cons offset rest ih =>
    rw [harvest]
    split
    · exact ⟨nofun, Nat.le_refl resume⟩
    · split
      · exact ih same resume
      · rename_i unskipped
        have late : resume ≤ offset := by
          simp only [Bool.or_eq_true, decide_eq_true_eq, not_or, Nat.not_lt] at unskipped
          exact unskipped.1
        cases read : readFound ⟨data.size⟩ source offset with
        | mk found after =>
          have same' := ((readFound_continues _ _ _).of_eq read).data.trans same
          dsimp only
          split
          · exact ih same' resume
          · rename_i record taken
            obtain ⟨starts, spare⟩ := spare_of_record? same within read taken
            obtain ⟨others, ascending⟩ := ih same' (offset + record.size.toNat)
            constructor
            · intro other member
              rcases List.mem_cons.mp member with rfl | member
              · exact spare
              · exact others other member
            · rw [← starts] at ascending late ⊢
              exact ⟨late, ascending⟩

/-- Whatever the plan, what is taken of blocks is spare and ascending. -/
theorem search_spare {source : Source} (same : source.data = data)
    (within : scan.Within ⟨data.size⟩) (blocks blockStart resume : Nat) :
    let pass := search ⟨data.size⟩ (occupied ⟨data.size⟩ scan) blocks source blockStart resume
    (∀ record ∈ pass.1.records, Spare data scan record) ∧
      ∃ high, Ascending resume pass.1.records high := by
  induction blocks generalizing source blockStart resume with
  | zero => exact ⟨nofun, resume, Nat.le_refl resume⟩
  | succ blocks ih =>
    rw [search]
    split
    · exact ⟨nofun, resume, Nat.le_refl resume⟩
    · cases read : source.readPiece data.size .recoveryBlock blockStart
          (blockSize ⟨data.size⟩ blockStart) with
      | mk outcome after =>
        have same' := ((source.readPiece_continues _ _ _ _).of_eq read).data.trans same
        cases outcome with
        | error e => exact ⟨nofun, resume, Nat.le_refl resume⟩
        | ok block =>
          have looked := harvest_continues ⟨data.size⟩ (occupied ⟨data.size⟩ scan) after resume
            (candidates block blockStart)
          obtain ⟨here, ascending⟩ :=
            harvest_spare same' within resume (candidates block blockStart)
          dsimp only
          split
          · exact ⟨here, _, ascending⟩
          · obtain ⟨later, high, ascending'⟩ := ih (looked.data.trans same')
              (blockStart + blockStep)
              (harvest ⟨data.size⟩ (occupied ⟨data.size⟩ scan) after resume
                (candidates block blockStart)).1.resume
            refine ⟨?_, high, ascending.append ascending'⟩
            intro record member
            rcases List.mem_append.mp member with member | member
            · exact here record member
            · exact later record member

/-- Whatever the plan, recovery takes spare records only, in ascending order. -/
theorem run_spare {source : Source} (same : source.data = data)
    (within : scan.Within ⟨data.size⟩) :
    (∀ record ∈ (run ⟨data.size⟩ scan source).1.records, Spare data scan record) ∧
      ∃ high, Ascending start (run ⟨data.size⟩ scan source).1.records high :=
  search_spare same within _ _ _

end EventLog.Recovery
