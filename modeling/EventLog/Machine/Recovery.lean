import EventLog.Machine.Ring
import EventLog.Proofs.Effort

/-!
# Recovering records on the machine

The parts of the file that are accounted for are kept sorted by where they start, so that only a
first part of them can share bytes with a run (`overlaps_eq`). A recovery pass goes from block to
block as long as these start before the end of the file; as in a walk, a step that does not take it
further counts as a stop. On a file whose length is less than half of what a word can count, the
pass comes to an end, with what recovery finds (`recover_eq`).
-/

namespace EventLog.Machine

open Recovery

variable {ring : Ring} {taken : List Span}

/-- The parts of the file that an end of file record takes, if one was met. -/
def sentinelSpans (ring : Ring) : Option (Nat × Sentinel) → Option (List Span)
  | some (offset, _) => spans ring offset Sentinel.size
  | none => some []

/-- The parts of the file that are accounted for, sorted by where they start. -/
def occupied (ring : Ring) (scan : Scan) : Option (List Span) := do
  let records ← scan.records.mapM fun record => spans ring record.offset record.size.toNat
  let sentinel ← sentinelSpans ring scan.sentinel
  let unsorted := ⟨0, Ring.start⟩ :: records.flatten ++ sentinel
  return unsorted.mergeSort fun a b => a.start ≤ b.start

/-- Whether a run of bytes shares some with what is accounted for. Of that, only a first part starts
before the run ends. -/
def overlaps (taken : List Span) (span : Span) : Option Bool := do
  let before ← slice taken 0 (taken.takeWhile fun other => other.start < span.stop).length
  return before.any fun other => span.start < other.stop

/-- The offsets in a block at which a record could start. -/
def candidates (block : Bytes) (blockStart : Nat) : Option (List Nat) := do
  let places ← (occurrences logSignature block 0).mapM (add blockStart)
  let low ← add Ring.start 4
  (places.filter (low ≤ ·)).mapM (sub · 4)

/-- The record at a candidate, if it is an event record that shares no byte with what is accounted
for. -/
def record? (ring : Ring) (taken : List Span) :
    Except DecodeError Ring.Found → Option (Option Record)
  | .ok (.event record) => do
    let parts ← spans ring record.offset record.size.toNat
    let shared ← parts.anyM (overlaps taken)
    return if shared then none else some record
  | _ => some none

/-- Looks at candidates in order. -/
def harvest (ring : Ring) (taken : List Span) (source : Source) (resume : Nat) :
    List Nat → Option (Harvest × Source)
  | [] => some (⟨[], resume, false⟩, source)
  | offset :: rest =>
    if source.aborted then some (⟨[], resume, true⟩, source)
    else if offset < resume then harvest ring taken source resume rest
    else do
      let stop ← add offset Ring.minimumDeclared
      if ← overlaps taken ⟨offset, stop⟩ then harvest ring taken source resume rest
      else
        let (found, source) ← readFound ring source offset
        match ← record? ring taken found with
        | none => harvest ring taken source resume rest
        | some record =>
          let resume ← add offset record.size.toNat
          let (others, source) ← harvest ring taken source resume rest
          return ({ others with records := record :: others.records }, source)

/-- How many bytes the block at an offset has. -/
def blockSize (ring : Ring) (blockStart : Nat) : Option Nat := do
  let step ← add blockStart blockStep
  let reach ← add step blockOverlap
  sub (min reach ring.fileEnd) blockStart

/-- Searches block after block while these start before the end of the file, if every step takes it
further. -/
def search (ring : Ring) (taken : List Span) (source : Source) (blockStart resume : Nat) :
    Option (Recovery × Source) :=
  if blockStart < ring.fileEnd then
    if source.aborted then some (⟨[], .cancelled⟩, source)
    else do
      let size ← blockSize ring blockStart
      match readPiece source ring.fileEnd .recoveryBlock blockStart size with
      | (.error e, source) => return (⟨[], .failed blockStart e⟩, source)
      | (.ok block, source) =>
        let offsets ← candidates block blockStart
        let (here, source) ← harvest ring taken source resume offsets
        if here.cancelled then return (⟨here.records, .cancelled⟩, source)
        else
          let following ← add blockStart blockStep
          if blockStart < following then
            let (later, source) ← search ring taken source following here.resume
            return ({ later with records := here.records ++ later.records }, source)
          else none
  else some (⟨[], .finished⟩, source)
termination_by ring.fileEnd - blockStart

/-- Recovers what the walk of the ring left out. -/
def recover (ring : Ring) (scan : Scan) (source : Source) : Option (Recovery × Source) := do
  let taken ← occupied ring scan
  search ring taken source Ring.start Ring.start

/-- The same parts of the file, sorted by where they start. -/
structure SortedFrom (taken sorted : List Span) : Prop where
  /-- The parts are the same. -/
  same : sorted.Perm taken
  /-- None starts before one that stands in front of it. -/
  ordered : sorted.Pairwise fun a b => a.start ≤ b.start

/-- Only parts that start before a run ends can share bytes with it. -/
theorem any_takeWhile {sorted : List Span} (ordered : sorted.Pairwise fun a b => a.start ≤ b.start)
    (span : Span) :
    ((sorted.takeWhile fun other => other.start < span.stop).any fun other =>
      span.start < other.stop) = sorted.any span.overlaps := by
  induction sorted with
  | nil => rfl
  | cons first rest ih =>
    obtain ⟨lowest, later⟩ := List.pairwise_cons.mp ordered
    by_cases before : first.start < span.stop
    · rw [List.takeWhile_cons_of_pos (by simpa using before), List.any_cons, List.any_cons,
        ih later, Span.overlaps, decide_eq_true before, Bool.and_true]
    · have none : (first :: rest).any span.overlaps = false := by
        rw [List.any_eq_false]
        intro other member
        have least : first.start ≤ other.start := by
          rcases List.mem_cons.mp member with rfl | member
          · exact Nat.le_refl _
          · exact lowest other member
        have past : ¬other.start < span.stop := by omega
        rw [Span.overlaps, decide_eq_false past, Bool.and_false]
        exact Bool.false_ne_true
      rw [List.takeWhile_cons_of_neg (by simpa using before), none]
      rfl

/-- On the machine a run shares bytes with what is accounted for just if it is not free. -/
theorem overlaps_eq {sorted : List Span} (sorting : SortedFrom taken sorted) (span : Span) :
    overlaps sorted span = some (!isFree taken span) := by
  have front : (sorted.takeWhile fun other => decide (other.start < span.stop)) <+: sorted :=
    List.takeWhile_prefix _
  rw [overlaps, slice, window_eq (Nat.zero_le _) front.length_le, Option.map_some, List.drop_zero,
    Nat.sub_zero, ← List.prefix_iff_eq_take.mp front]
  dsimp only [Option.bind_eq_bind, Option.bind_some]
  rw [any_takeWhile sorting.ordered, sorting.same.any_eq, isFree, Bool.not_not]
  rfl

/-- The machine finds the parts of the file that a walk accounts for. -/
theorem occupied_eq (small : ring.fileEnd < UInt64.size / 2) {scan : Scan}
    (within : scan.Within ring) :
    ∃ sorted, occupied ring scan = some sorted ∧
      SortedFrom (Recovery.occupied ring scan) sorted := by
  have records : scan.records.mapM (fun record => spans ring record.offset record.size.toNat) =
      pure (scan.records.map fun record => ring.spans record.offset record.size.toNat) := by
    refine mapM_eq ?_
    intro record member
    obtain ⟨inside, -, fits⟩ := within.records record member
    exact spans_eq small inside fits
  have sentinel : sentinelSpans ring scan.sentinel =
      some (scan.sentinel.elim [] fun found => ring.spans found.1 Sentinel.size) := by
    cases met : scan.sentinel with
    | none => rfl
    | some found =>
      obtain ⟨inside, fits⟩ := within.sentinel found met
      exact spans_eq small inside fits
  have transitive (a b c : Span) : decide (a.start ≤ b.start) = true →
      decide (b.start ≤ c.start) = true → decide (a.start ≤ c.start) = true := by
    simp only [decide_eq_true_eq]
    exact Nat.le_trans
  have total (a b : Span) : (decide (a.start ≤ b.start) || decide (b.start ≤ a.start)) = true := by
    simp only [Bool.or_eq_true, decide_eq_true_eq]
    exact Nat.le_total a.start b.start
  refine ⟨(Recovery.occupied ring scan).mergeSort fun a b => a.start ≤ b.start, ?_,
    List.mergeSort_perm _ _, ?_⟩
  · unfold occupied
    rw [records, sentinel]
    dsimp only [Option.pure_def, Option.bind_eq_bind, Option.bind_some]
    rw [← List.flatMap_def]
    rfl
  · exact (List.pairwise_mergeSort transitive total _).imp of_decide_eq_true

/-- Where a pattern occurs does not depend on where counting starts. -/
theorem occurrences_add (pattern bytes : Bytes) (start position : Nat) :
    occurrences pattern bytes (start + position) =
      (occurrences pattern bytes position).map (start + ·) := by
  induction bytes generalizing position with
  | nil => rfl
  | cons b rest ih =>
    unfold occurrences
    rw [Nat.add_assoc, ih]
    split <;> rfl

/-- The machine finds the candidates of every block that ends before half of what a word can
count. -/
theorem candidates_eq {block : Bytes} {blockStart : Nat}
    (small : blockStart + block.length < UInt64.size / 2) :
    candidates block blockStart = some (Recovery.candidates block blockStart) := by
  have words := words_eq
  have places : (occurrences logSignature block 0).mapM (add blockStart) =
      pure ((occurrences logSignature block 0).map (blockStart + ·)) := by
    refine mapM_eq ?_
    intro place member
    obtain ⟨index, within, rfl, -⟩ := mem_occurrences.mp member
    exact add_eq (by omega)
  have low : add Ring.start 4 = some (Ring.start + 4) := rfl
  unfold candidates Recovery.candidates
  rw [places, ← occurrences_add, low]
  dsimp only [Option.pure_def, Option.bind_eq_bind, Option.bind_some]
  refine mapM_eq ?_
  intro place member
  have high := (List.mem_filter.mp member).2
  rw [decide_eq_true_eq] at high
  exact sub_eq (by omega)

/-- Candidates of a block lie before its end. -/
theorem lt_of_mem_candidates {block : Bytes} {blockStart offset : Nat}
    (member : offset ∈ Recovery.candidates block blockStart) :
    offset < blockStart + block.length := by
  obtain ⟨place, listed, rfl⟩ := List.mem_map.mp member
  obtain ⟨index, within, rfl, -⟩ := mem_occurrences.mp (List.mem_filter.mp listed).1
  omega

variable {sorted : List Span}

/-- The machine takes just the records that recovery takes, of what was found in the ring. -/
theorem record?_eq (small : ring.fileEnd < UInt64.size / 2) (sorting : SortedFrom taken sorted)
    {source after : Source} {offset : Nat} {found : Except DecodeError Ring.Found}
    (read : ring.readFound source offset = (found, after)) :
    record? ring sorted found = some (Recovery.record? ring taken found) := by
  match found with
  | .error e => rfl
  | .ok (.sentinel sentinel) => rfl
  | .ok (.event record) =>
    obtain ⟨inside, rfl, fits⟩ := Ring.event_of_readFound read
    have shared : overlaps sorted = fun span => pure (!isFree taken span) :=
      funext fun span => overlaps_eq sorting span
    unfold record? Recovery.record?
    dsimp only
    rw [spans_eq small inside fits, shared]
    dsimp only [Option.bind_eq_bind, Option.bind_some]
    rw [List.anyM_pure, ← List.not_all_eq_any_not]
    cases (ring.spans record.offset record.size.toNat).all (isFree taken) <;> rfl

/-- The machine looks at candidates as recovery does. -/
theorem harvest_eq (small : ring.fileEnd < UInt64.size / 2) (sorting : SortedFrom taken sorted)
    (source : Source) (resume : Nat) {offsets : List Nat}
    (low : ∀ offset ∈ offsets, offset < UInt64.size / 2) :
    harvest ring sorted source resume offsets =
      some (Recovery.harvest ring taken source resume offsets) := by
  have words := words_eq
  induction offsets generalizing source resume with
  | nil => rfl
  | cons offset rest ih =>
    have here := low offset List.mem_cons_self
    have later := fun source resume =>
      ih source resume fun other member => low other (List.mem_cons_of_mem _ member)
    have end_of_front : offset + Ring.minimumDeclared < UInt64.size := by
      rw [Ring.minimumDeclared]
      omega
    unfold harvest Recovery.harvest
    split
    · rfl
    · by_cases before : offset < resume
      · rw [if_pos before, later, decide_eq_true before, Bool.true_or, if_pos rfl]
      · rw [if_neg before, add_eq end_of_front, decide_eq_false before, Bool.false_or]
        dsimp only [Option.bind_eq_bind, Option.bind_some]
        rw [overlaps_eq sorting, Option.bind_some]
        split
        · exact later _ _
        · rw [readFound_eq small, Option.bind_some]
          cases read : ring.readFound source offset with
          | mk found after =>
            dsimp only
            rw [record?_eq small sorting read, Option.bind_some]
            cases taking : Recovery.record? ring taken found with
            | none => exact later _ _
            | some record =>
              have counted := record.size.toNat_lt
              dsimp only
              rw [add_eq (by omega), Option.bind_some, later]
              rfl

/-- The machine finds how many bytes a block has. -/
theorem blockSize_eq (small : ring.fileEnd < UInt64.size / 2) {blockStart : Nat}
    (starts : blockStart < ring.fileEnd) :
    blockSize ring blockStart = some (Recovery.blockSize ring blockStart) := by
  have words := words_eq
  have step : blockStep = 65536 := rfl
  have overlap : blockOverlap = 3 := rfl
  have size : min (blockStart + blockStep + blockOverlap) ring.fileEnd - blockStart =
      min (blockStep + blockOverlap) (ring.fileEnd - blockStart) := by omega
  rw [blockSize, Recovery.blockSize, add_eq (by omega), Option.bind_eq_bind, Option.bind_some,
    add_eq (by omega), Option.bind_some, sub_eq (by omega), size]

/-- The machine searches block after block to an end, as recovery does. -/
theorem search_eq (small : ring.fileEnd < UInt64.size / 2) (sorting : SortedFrom taken sorted)
    (source : Source) {blockStart blocks : Nat} (resume : Nat)
    (many : blocks = blocksFrom ring blockStart) :
    search ring sorted source blockStart resume =
      some (Recovery.search ring taken blocks source blockStart resume) := by
  have words := words_eq
  -- The machine does not count the blocks that are left; they are what decreases.
  induction blocks generalizing source blockStart resume with
  | zero =>
    rw [search, if_neg (not_lt_of_blocksFrom_eq_zero many)]
    rfl
  | succ blocks ih =>
    obtain ⟨starts, fewer⟩ := lt_of_blocksFrom_eq_succ many
    rw [search, if_pos starts, Recovery.search]
    split
    · rfl
    · rw [blockSize_eq small starts]
      dsimp only [Option.bind_eq_bind, Option.bind_some]
      rw [readPiece_eq small]
      cases read : source.readPiece ring.fileEnd .recoveryBlock blockStart
          (Recovery.blockSize ring blockStart) with
      | mk outcome after =>
        cases outcome with
        | error e => rfl
        | ok block =>
          have length := Source.length_of_readPiece read
          have within : blockStart + block.length < UInt64.size / 2 := by
            unfold Recovery.blockSize at length
            omega
          dsimp only
          rw [candidates_eq within, Option.bind_some, harvest_eq small sorting after resume
            fun offset member => Nat.lt_trans (lt_of_mem_candidates member) within,
            Option.bind_some]
          cases Recovery.harvest ring taken after resume
              (Recovery.candidates block blockStart) with
          | mk here last =>
            have step : blockStart + blockStep < UInt64.size := by
              rw [blockStep]
              omega
            have further : blockStart < blockStart + blockStep :=
              Nat.lt_add_of_pos_right (by decide)
            dsimp only
            split
            · rfl
            · rw [add_eq step, Option.bind_some, if_pos further, ih last here.resume fewer]
              rfl

/-- The machine recovers what recovery does, after every walk that keeps to the ring. -/
theorem recover_eq (small : ring.fileEnd < UInt64.size / 2) {scan : Scan}
    (within : scan.Within ring) (source : Source) :
    recover ring scan source = some (Recovery.run ring scan source) := by
  obtain ⟨sorted, found, sorting⟩ := occupied_eq small within
  have many : blockCount ring = blocksFrom ring Ring.start := rfl
  unfold recover Recovery.run
  rw [found]
  exact search_eq small sorting source Ring.start many

end EventLog.Machine
