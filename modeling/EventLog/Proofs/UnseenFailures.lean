import EventLog.Proofs.Effort
import EventLog.Proofs.PartialResults
import EventLog.Proofs.RecoveredRecords
import EventLog.Recovery.Coverage

/-!
# What a log tells of a recovery pass

A recovery pass that is not cancelled reads and searches all blocks of the ring, or those before the
first that cannot be read (`noteSearch_reach`). A log tells of a pass only whether it was cancelled
(`shows_only_cancellation`): after a block that could not be read it stands as after a pass over the
whole ring, and answers with what was recovered until then (`unread_block_unseen`).
-/

namespace EventLog

/-- A piece that is there cannot be read if the next call fails. -/
theorem Source.readPiece_of_fail {source : Source} {offset size : Nat} (length : Nat) (part : Part)
    (seeks : source.plan.seekFails (source.seeks + 1) = false)
    (fails : source.plan.reaction (source.reads + 1) = .fail) (fits : offset + size ≤ length)
    (needed : size ≠ 0) :
    (source.readPiece length part offset size).1 = .error (.source .readFailed) := by
  have sought : source.seek = (.ok (), { source with seeks := source.seeks + 1 }) := by
    rw [seek, if_neg (by rw [seeks]; exact Bool.false_ne_true)]
  rw [readPiece_eq, if_neg (Nat.not_lt.mpr fits), sought]
  dsimp only
  rw [fill_of_needed needed]
  dsimp only
  rw [fails]

namespace Recovery

open EventLog.Ring EventLog.Noted

variable {ring : Ring} {taken : List Span} {source : Source} {calls : List Call}
  {blockStart resume : Nat}

/-- What was considered stays so when there are more looks and more records. -/
theorem Considered.mono {looks looks' : List Nat} {records records' : List Record} {offset : Nat}
    (considered : Considered taken looks records offset) (more : looks ⊆ looks')
    (more' : records ⊆ records') : Considered taken looks' records' offset := by
  cases considered with
  | looked member => exact .looked (more member)
  | occupied shared => exact .occupied shared
  | within member starts ends => exact .within (more' member) starts ends

/-- A block that was read by the first of the calls was read. -/
theorem delivers_first {bytes : Bytes} {after : Source}
    (read : source.readPiece ring.fileEnd .recoveryBlock blockStart (blockSize ring blockStart) =
      (.ok bytes, after)) : Delivers ring source (.block blockStart :: calls) blockStart := by
  have whole := (Source.readPiece_ok (congrArg Prod.fst read)).2
  refine ⟨[], calls, rfl, ?_⟩
  rw [← whole]
  exact congrArg Prod.fst read

/-- A block that was read after some calls was read. -/
theorem Delivers.after {first : List Call}
    (delivers : Delivers ring (Call.makeAll ring source first) calls blockStart)
    (same : (Call.makeAll ring source first).data = source.data) :
    Delivers ring source (first ++ calls) blockStart := by
  obtain ⟨before, later, rfl, read⟩ := delivers
  rw [← Call.makeAll_append, same] at read
  exact ⟨first ++ before, later, by rw [List.append_assoc], read⟩

/-- A block that could not be read after some calls could not be read. -/
theorem FailsAt.after {first : List Call} {error : DecodeError}
    (fails : FailsAt ring (Call.makeAll ring source first) calls blockStart error)
    (fresh : .block blockStart ∉ first) :
    FailsAt ring source (first ++ calls) blockStart error := by
  obtain ⟨before, rfl, fresh', read⟩ := fails
  rw [← Call.makeAll_append] at read
  refine ⟨first ++ before, by rw [List.append_assoc], ?_, read⟩
  rw [List.mem_append, not_or]
  exact ⟨fresh, fresh'⟩

/-- A block at which a pass failed was never read. -/
theorem FailsAt.not_delivers {error : DecodeError}
    (fails : FailsAt ring source calls blockStart error) :
    ¬Delivers ring source calls blockStart := by
  rintro ⟨before, later, rfl, read⟩
  obtain ⟨before', same, fresh, failed⟩ := fails
  -- The call that read the block cannot come before the one that failed, which was the first to
  -- read it, nor after it, which was the last of all.
  rcases List.append_eq_append_iff.mp same with ⟨middle, rfl, rest⟩ | ⟨middle, rfl, rest⟩
  · cases middle with
    | nil =>
      rw [List.append_nil] at failed
      rw [failed] at read
      cases read
    | cons call middle =>
      rw [List.cons_append, List.cons.injEq] at rest
      rw [← rest.1] at fresh
      exact fresh (List.mem_append_right before List.mem_cons_self)
  · cases middle with
    | nil =>
      rw [List.append_nil] at read
      rw [failed] at read
      cases read
    | cons call middle =>
      rw [List.cons_append, List.cons.injEq] at rest
      exact absurd rest.2.symm (List.append_ne_nil_of_right_ne_nil middle (List.cons_ne_nil _ _))

/-- A record that is taken at an offset starts there. -/
theorem offset_of_record? {after : Source} {offset : Nat} {found : Except DecodeError Found}
    {record : Record} (read : ring.readFound source offset = (found, after))
    (takes : record? ring taken found = some record) : record.offset = offset := by
  unfold record? at takes
  split at takes
  · rw [Option.ite_none_right_eq_some, Option.some.injEq] at takes
    obtain ⟨-, rfl⟩ := takes
    exact (event_of_readFound read).2.1
  · cases takes

/-- Looking at candidates leaves off where it began, or where a record ends that was taken at one of
them. -/
theorem resume_noteHarvest (ring : Ring) (taken : List Span) (source : Source) (resume : Nat)
    (offsets : List Nat) :
    (noteHarvest ring taken source resume offsets).result.resume = resume ∨
      ∃ record ∈ (noteHarvest ring taken source resume offsets).result.records,
        record.offset ∈ offsets ∧
          (noteHarvest ring taken source resume offsets).result.resume =
            record.offset + record.size.toNat := by
  induction offsets generalizing source resume with
  | nil => exact .inl rfl
  | cons offset rest ih =>
    rw [noteHarvest]
    split
    · exact .inl rfl
    · split
      · rcases ih source resume with same | ⟨record, member, among, ends⟩
        · exact .inl same
        · exact .inr ⟨record, member, List.mem_cons_of_mem _ among, ends⟩
      · cases read : ring.readFound source offset with
        | mk found after =>
          dsimp only
          cases takes : record? ring taken found with
          | none =>
            rcases ih after resume with same | ⟨record, member, among, ends⟩
            · exact .inl same
            · exact .inr ⟨record, member, List.mem_cons_of_mem _ among, ends⟩
          | some first =>
            have starts := offset_of_record? read takes
            refine .inr ?_
            rcases ih after (offset + first.size.toNat) with same | ⟨record, member, among, ends⟩
            · refine ⟨first, List.mem_cons_self, ?_, ?_⟩
              · rw [starts]
                exact List.mem_cons_self
              · rw [starts]
                exact same
            · exact ⟨record, List.mem_cons_of_mem _ member, List.mem_cons_of_mem _ among, ends⟩

/-- Looking at candidates that is not cancelled considers all of them from where it may begin. -/
theorem noteHarvest_considers {offsets : List Nat} (sorted : offsets.Pairwise (· < ·))
    (going : (noteHarvest ring taken source resume offsets).result.cancelled = false) :
    ∀ offset ∈ offsets, resume ≤ offset →
      Considered taken (noteHarvest ring taken source resume offsets).looks
        (noteHarvest ring taken source resume offsets).result.records offset := by
  induction offsets generalizing source resume with
  | nil => exact nofun
  | cons offset rest ih =>
    obtain ⟨first, sorted'⟩ := List.pairwise_cons.mp sorted
    intro other member low
    rw [noteHarvest] at going ⊢
    split at going
    · cases going
    · -- The flag is down; the next candidate is passed over or looked at.
      rename_i down
      rw [if_neg down]
      split at going
      · rename_i passed
        rw [if_pos passed]
        rcases List.mem_cons.mp member with rfl | member
        · rw [decide_eq_false (Nat.not_lt.mpr low), Bool.false_or, Bool.not_eq_true'] at passed
          exact .occupied passed
        · exact ih sorted' going other member low
      · rename_i looked
        rw [if_neg looked]
        cases read : ring.readFound source offset with
        | mk found after =>
          rw [read] at going
          dsimp only at going ⊢
          cases takes : record? ring taken found with
          | none =>
            rw [takes] at going
            dsimp only at going ⊢
            rw [looks_after]
            rcases List.mem_cons.mp member with rfl | member
            · exact .looked List.mem_cons_self
            · exact (ih sorted' going other member low).mono (List.subset_cons_self _ _) fun _ => id
          | some record =>
            rw [takes] at going
            dsimp only at going ⊢
            rw [looks_after]
            rcases List.mem_cons.mp member with rfl | member
            · exact .looked List.mem_cons_self
            · by_cases inside : other < offset + record.size.toNat
              · have starts := offset_of_record? read takes
                refine .within List.mem_cons_self ?_ ?_
                · rw [starts]
                  exact first other member
                · rw [starts]
                  exact inside
              · exact (ih sorted' going other member (Nat.le_of_not_lt inside)).mono
                  (List.subset_cons_self _ _) (List.subset_cons_self _ _)

/-- A signature in the ring starts after the header and ends before the end of the file. -/
theorem stands_of_mem_signatures {data : Array UInt8} {place : Nat}
    (signed : place ∈ signatures ring data) :
    start ≤ place ∧ place + 4 ≤ ring.fileEnd ∧
      (data.extract place (place + 4)).toList = logSignature := by
  have whole : start + (ring.fileEnd - start) = ring.fileEnd := by
    obtain ⟨index, inside, -⟩ := mem_occurrences.mp signed
    rw [Array.length_toList, Array.size_extract] at inside
    omega
  rw [signatures, ← whole] at signed
  obtain ⟨index, -, rfl, stands⟩ := mem_occurrences.mp signed
  obtain ⟨stands, within⟩ := signature_in_piece.mp stands
  exact ⟨Nat.le_add_right _ _, by omega, stands⟩

/-- A block offers every signature that leaves room for a size in front and starts in its share. -/
theorem mem_candidates_of_signature {data : Array UInt8} {place : Nat}
    (signed : place ∈ signatures ring data) (room : start + 4 ≤ place) (above : blockStart ≤ place)
    (below : place < blockStart + blockStep) :
    place - 4 ∈ candidates
      (data.extract blockStart (blockStart + blockSize ring blockStart)).toList blockStart := by
  have size : blockSize ring blockStart = min (blockStep + 3) (ring.fileEnd - blockStart) := rfl
  obtain ⟨-, within, stands⟩ := stands_of_mem_signatures signed
  refine mem_candidates.mpr ⟨by omega, by omega, by omega, ?_⟩
  rw [show place - 4 + 4 = place by omega, show place - 4 + 8 = place + 4 by omega]
  exact stands

/-- A pass that has looked at nothing covers no blocks. -/
theorem Covers.none {pass : Noted Recovery} (nothing : pass.looks = []) :
    Covers ring taken source blockStart resume 0 pass where
  delivered := nofun
  considered place _ _ above below := by omega
  beyond offset member := by
    rw [nothing] at member
    cases member

/-- What a pass does with a block that it reads and searches. -/
structure Searched (ring : Ring) (taken : List Span) (source : Source) (blockStart resume : Nat)
    (here : Noted Harvest) : Prop where
  /-- All bytes of the block are delivered, and then each offset that they offer is considered. -/
  looked : ∃ after,
    source.readPiece ring.fileEnd .recoveryBlock blockStart (blockSize ring blockStart) =
      (.ok (source.data.extract blockStart (blockStart + blockSize ring blockStart)).toList,
        after) ∧
    here = noteHarvest ring taken after resume (candidates
      (source.data.extract blockStart (blockStart + blockSize ring blockStart)).toList blockStart)
  /-- The flag stays down. -/
  going : here.result.cancelled = false

variable {here : Noted Harvest}

/-- The source after a block that was searched is the one after the calls that this took, and has
the same bytes. -/
theorem Searched.source_eq (searched : Searched ring taken source blockStart resume here) :
    here.source = Call.makeAll ring source (.block blockStart :: here.calls) ∧
      here.source.data = source.data := by
  obtain ⟨⟨after, read, rfl⟩, -⟩ := searched
  have of := noteHarvest_of ring taken after resume (candidates
    (source.data.extract blockStart (blockStart + blockSize ring blockStart)).toList blockStart)
  constructor
  · rw [of.calls, ← make_block read]
    rfl
  · rw [of.leaves]
    exact (harvest_continues ring taken after resume _).data.trans
      ((source.readPiece_continues _ _ _ _).of_eq read).data

/-- The block is the only one that was read, and the looks start before the next one. -/
theorem Searched.only_block (searched : Searched ring taken source blockStart resume here) :
    (∀ other, .block other ∉ here.calls) ∧ ∀ offset ∈ here.looks,
      offset + 4 < blockStart + blockStep := by
  obtain ⟨⟨after, -, rfl⟩, -⟩ := searched
  obtain ⟨looks, blocks⟩ := noteHarvest_looks ring taken after resume (candidates
    (source.data.extract blockStart (blockStart + blockSize ring blockStart)).toList blockStart)
  constructor
  · intro other member
    have listed := List.mem_filterMap.mpr ⟨_, member, show Call.block? (.block other) = _ from rfl⟩
    rw [Noted.blocks] at blocks
    rw [blocks] at listed
    cases listed
  · intro offset member
    exact (candidates_signed ring source.data blockStart).2 offset (looks.subset member)

/-- A search of a block leaves off where it began, or after a record that starts in the block. -/
theorem Searched.resume_eq (searched : Searched ring taken source blockStart resume here) :
    here.result.resume = resume ∨ ∃ record ∈ here.result.records,
      start ≤ record.offset ∧ record.offset + 4 < blockStart + blockStep ∧
        here.result.resume = record.offset + record.size.toNat := by
  obtain ⟨⟨after, -, rfl⟩, -⟩ := searched
  rcases resume_noteHarvest ring taken after resume (candidates
    (source.data.extract blockStart (blockStart + blockSize ring blockStart)).toList blockStart)
    with same | ⟨record, member, among, ends⟩
  · exact .inl same
  · have inside := (mem_candidates.mp among).1
    exact .inr ⟨record, member, inside,
      (candidates_signed ring source.data blockStart).2 _ among, ends⟩

/-- A search ends as the rest of it does. -/
theorem ending_joined (blockStart : Nat) (here : Noted Harvest) (later : Noted Recovery) :
    (joined blockStart here later).result.ending = later.result.ending := rfl

/-- What is left off at does not lie before the ring if what was begun with does not. -/
theorem Searched.start_le_resume (searched : Searched ring taken source blockStart resume here)
    (low : start ≤ resume) : start ≤ here.result.resume := by
  rcases searched.resume_eq with same | ⟨record, -, inside, -, ends⟩
  · rw [same]
    exact low
  · rw [ends]
    exact Nat.le_trans inside (Nat.le_add_right _ _)

/-- Counted from one block the next ones are one step further than counted from the block after
it. -/
theorem start_of_succ (blockStart index : Nat) :
    blockStart + (index + 1) * blockStep = blockStart + blockStep + index * blockStep := by
  rw [Nat.succ_mul]
  omega

/-- A signature that starts in a block that was searched has been considered. -/
theorem Searched.considers_here (searched : Searched ring taken source blockStart resume here)
    (low : start ≤ resume) {place : Nat} (signed : place ∈ signatures ring source.data)
    (room : resume + 4 ≤ place) (above : blockStart ≤ place)
    (below : place < blockStart + blockStep) :
    Considered taken here.looks here.result.records (place - 4) := by
  have offered := mem_candidates_of_signature signed (by omega) above below
  obtain ⟨⟨after, -, rfl⟩, going⟩ := searched
  exact noteHarvest_considers (candidates_sorted _ _) going _ offered (by omega)

/-- A signature after the block that lies before where the search left off lies within a record of
the block. -/
theorem Searched.considers_beyond (searched : Searched ring taken source blockStart resume here)
    {place : Nat} (room : resume + 4 ≤ place) (beyond : blockStart + blockStep ≤ place)
    (before : place < here.result.resume + 4) :
    Considered taken here.looks here.result.records (place - 4) := by
  rcases searched.resume_eq with same | ⟨record, member, -, starts, ends⟩
  · omega
  · exact .within member (by omega) (by omega)

/-- A pass that searches a block and covers those after it covers all of them. -/
theorem Searched.covers {later : Noted Recovery} {blocks : Nat}
    (searched : Searched ring taken source blockStart resume here) (low : start ≤ resume)
    (covers : Covers ring taken here.source (blockStart + blockStep) here.result.resume blocks
      later) :
    Covers ring taken source blockStart resume (blocks + 1) (joined blockStart here later) := by
  obtain ⟨source_eq, same⟩ := searched.source_eq
  refine ⟨?_, ?_, ?_⟩
  · intro index few
    cases index with
    | zero =>
      obtain ⟨after, read, -⟩ := searched.looked
      rw [Nat.zero_mul]
      exact delivers_first read
    | succ index =>
      have later := covers.delivered index (Nat.lt_of_succ_lt_succ few)
      rw [start_of_succ]
      rw [source_eq] at later same
      exact later.after same
  · intro place signed room above below
    rw [start_of_succ] at below
    rw [looks_joined]
    -- Either the block itself offers the signature, or the rest of the search considers it, unless
    -- a record of the block reaches that far.
    rcases Nat.lt_or_ge place (blockStart + blockStep) with first | beyond
    · exact (searched.considers_here low signed room above first).mono
        (List.subset_append_left _ _) (List.subset_append_left _ _)
    · rcases Nat.lt_or_ge place (here.result.resume + 4) with reached | free
      · exact (searched.considers_beyond room beyond reached).mono
          (List.subset_append_left _ _) (List.subset_append_left _ _)
      · rw [← same] at signed
        exact (covers.considered place signed free beyond below).mono
          (List.subset_append_right _ _) (List.subset_append_right _ _)
  · intro offset member
    rw [start_of_succ]
    rw [looks_joined] at member
    rcases List.mem_append.mp member with member | member
    · have before := searched.only_block.2 offset member
      omega
    · exact covers.beyond offset member

/-- A pass that searches a block comes as far in all as it comes from there on. -/
theorem Searched.reach {later : Noted Recovery} {blocks : Nat}
    (searched : Searched ring taken source blockStart resume here) (low : start ≤ resume)
    (reach : Reach ring taken here.source (blockStart + blockStep) here.result.resume blocks
      later) :
    Reach ring taken source blockStart resume (blocks + 1) (joined blockStart here later) := by
  cases reach with
  | all ends covers => exact .all ends (searched.covers low covers)
  | part few ends covers fails =>
    rw [← start_of_succ] at ends fails
    rw [searched.source_eq.1] at fails
    refine .part (Nat.succ_lt_succ few) ends (searched.covers low covers) (fails.after ?_)
    rw [List.mem_cons, not_or]
    refine ⟨?_, searched.only_block.1 _⟩
    rw [Call.block.injEq, start_of_succ, blockStep]
    omega

/-- A pass that cannot read its first block comes no further. -/
theorem Reach.unread {after : Source} {blocks : Nat} {error : DecodeError}
    (fails : (source.readPiece ring.fileEnd .recoveryBlock blockStart
      (blockSize ring blockStart)).1 = .error error) :
    Reach ring taken source blockStart resume (blocks + 1)
      ⟨⟨[], .failed blockStart error⟩, [.block blockStart], after⟩ := by
  have first : blockStart = blockStart + 0 * blockStep := by rw [Nat.zero_mul, Nat.add_zero]
  have here : FailsAt ring source [.block blockStart] blockStart error := ⟨[], rfl, nofun, fails⟩
  refine .part (Nat.zero_lt_succ blocks) (congrArg (Ending.failed · error) first) (.none rfl) ?_
  rw [← first]
  exact here

/-- A search that is not cancelled reads and searches all blocks, or those before the first that
cannot be read. -/
theorem noteSearch_reach (ring : Ring) (taken : List Span) (source : Source)
    {blockStart resume blocks : Nat} (low : start ≤ resume)
    (many : blocks = blocksFrom ring blockStart) :
    (noteSearch ring taken source blockStart resume).result.ending = .cancelled ∨
      Reach ring taken source blockStart resume blocks
        (noteSearch ring taken source blockStart resume) := by
  induction blocks generalizing source blockStart resume with
  | zero =>
    rw [noteSearch, if_neg (not_lt_of_blocksFrom_eq_zero many)]
    exact .inr (.all rfl (.none rfl))
  | succ blocks ih =>
    obtain ⟨within, fewer⟩ := lt_of_blocksFrom_eq_succ many
    rw [noteSearch, if_pos within]
    split
    · exact .inl rfl
    · cases read : source.readPiece ring.fileEnd .recoveryBlock blockStart
          (blockSize ring blockStart) with
      | mk delivered after =>
        cases delivered with
        | error e => exact .inr (.unread (congrArg Prod.fst read))
        | ok block =>
          have whole := (Source.readPiece_ok (congrArg Prod.fst read)).2
          dsimp only
          generalize looked : noteHarvest ring taken after resume (candidates block blockStart) =
            here
          split
          · exact .inl rfl
          · rename_i going
            have searched : Searched ring taken source blockStart resume here := by
              rw [whole] at read looked
              exact ⟨⟨after, read, looked.symm⟩, eq_false_of_ne_true going⟩
            rcases ih here.source (searched.start_le_resume low) fewer with cancelled | reach
            · exact .inl ((ending_joined blockStart here _).trans cancelled)
            · exact .inr (searched.reach low reach)

/-- A pass that covers all blocks of a ring considers every signature that leaves room for a size
in front. -/
theorem Covers.whole {pass : Noted Recovery}
    (covers : Covers ring taken source start start (blockCount ring) pass) {place : Nat}
    (signed : place ∈ signatures ring source.data) (room : start + 4 ≤ place) :
    Considered taken pass.looks pass.result.records (place - 4) := by
  have inside := (stands_of_mem_signatures signed).2.1
  have all := size_le_blockCount ring.fileEnd
  exact covers.considered place signed room (Nat.le_trans (Nat.le_add_right _ _) room)
    (Nat.lt_of_lt_of_le (by omega) all)

/-- A pass that was not cancelled read every block just if it came to the end of the ring. -/
theorem Reach.delivers_iff {blocks : Nat} {pass : Noted Recovery}
    (reach : Reach ring taken source blockStart resume blocks pass) :
    (∀ index < blocks, Delivers ring source pass.calls (blockStart + index * blockStep)) ↔
      pass.result.ending = .finished := by
  cases reach with
  | all ends covers => exact ⟨fun _ => ends, fun _ => covers.delivered⟩
  | part few ends covers fails =>
    constructor
    · intro delivered
      exact absurd (delivered _ few) fails.not_delivers
    · intro finished
      rw [ends] at finished
      cases finished

/-- A pass whose first read fails takes nothing. -/
theorem run_of_fail (room : 0 < ring.size) (scan : Scan) (down : source.aborted = false)
    (seeks : source.plan.seekFails (source.seeks + 1) = false)
    (fails : source.plan.reaction (source.reads + 1) = .fail) :
    (run ring scan source).1 = ⟨[], .failed start (.source .readFailed)⟩ := by
  have size : blockSize ring start = min (blockStep + 3) ring.size := rfl
  have more : ring.size = ring.fileEnd - start := rfl
  have read := Source.readPiece_of_fail ring.fileEnd .recoveryBlock seeks fails
    (show start + blockSize ring start ≤ ring.fileEnd by omega) (by omega)
  rw [run]
  cases count : blockCount ring with
  | zero =>
    rw [blockCount, blockStep] at count
    omega
  | succ blocks =>
    rw [search, if_neg (by rw [down]; exact Bool.false_ne_true)]
    cases reads : source.readPiece ring.fileEnd .recoveryBlock start (blockSize ring start) with
    | mk delivered after =>
      rw [reads] at read
      dsimp only at read ⊢
      rw [read]

end Recovery

namespace Session

open Recovery

variable {settings : Settings} {source : Source} {session : Session} {contents : Contents}

/-- What a log shows of a recovery pass over what it holds. -/
structure ShowsPass (before after : Session) (contents : Contents) (pass : Noted Recovery) :
    Prop where
  /-- The report with notes is about the pass. -/
  report : pass.Of contents.ring before.source
    (Recovery.run contents.ring contents.scan before.source)
  /-- The log has recovered what the pass took. -/
  recovered : after.recovered = pass.result.records
  /-- If the pass was cancelled, the log says so. -/
  cancelled : pass.result.ending = .cancelled →
    after.state = .cancelled ∧ after.outcome = .cancelled
  /-- After every other pass it stands as after a pass over the whole ring. -/
  otherwise : pass.result.ending ≠ .cancelled →
    after.state = .recoveryComplete ∧ after.outcome = before.outcome
  /-- Such a pass read and searched all blocks, or those before the first that could not be
  read. -/
  reach : pass.result.ending ≠ .cancelled →
    Reach contents.ring (occupied contents.ring contents.scan) before.source Ring.start Ring.start
      (blockCount contents.ring) pass
  /-- It read every block just if it came to the end of the ring. -/
  delivered : pass.result.ending ≠ .cancelled →
    ((∀ index < blockCount contents.ring, Delivers contents.ring before.source pass.calls
        (Ring.start + index * blockStep)) ↔ pass.result.ending = .finished)
  /-- If it did, it considered every signature that leaves room for a size in front. -/
  searched : pass.result.ending = .finished →
    ∀ place ∈ signatures contents.ring before.source.data, Ring.start + 4 ≤ place →
      Considered (occupied contents.ring contents.scan) pass.looks pass.result.records (place - 4)

/-- Of the log before the pass only its source and its outcome matter. -/
theorem ShowsPass.of_eq {before other after : Session} {pass : Noted Recovery}
    (shows : ShowsPass before after contents pass) (source : other.source = before.source)
    (outcome : other.outcome = before.outcome) : ShowsPass other after contents pass := by
  obtain ⟨report, recovered, cancelled, otherwise, reach, delivered, searched⟩ := shows
  rw [← source] at report reach delivered searched
  rw [← outcome] at otherwise
  exact ⟨report, recovered, cancelled, otherwise, reach, delivered, searched⟩

/-- An open log answers a recovery pass with the number of records that the pass took. -/
theorem recover_eq_of_contents (holding : session.contents = some contents) :
    session.recover = (.ok (session.recoverWithin contents).recovered.length,
      session.recoverWithin contents) := by
  rw [recover, holding]

/-- What a log answers and how it then stands follow from what came of the pass. -/
theorem recover_of_ends {records : List Record} {ending : Ending}
    (holding : session.contents = some contents)
    (ends : (Recovery.run contents.ring contents.scan session.source).1 = ⟨records, ending⟩) :
    session.recover.1 = .ok records.length ∧
      session.recover.2.state = ScanState.afterRecovery ending ∧
      session.recover.2.outcome = outcomeAfterRecovery session.outcome ending := by
  rw [recover_eq_of_contents holding, recoverWithin]
  dsimp only
  rw [withRecovery_recovered, withRecovery_state, withRecovery_outcome, ends]
  exact ⟨rfl, rfl, rfl⟩

/-- A log stands after every pass that was not cancelled as after a pass over the whole ring. -/
theorem after_going {ending : Ending} (going : ending ≠ .cancelled) (outcome : Outcome) :
    ScanState.afterRecovery ending = .recoveryComplete ∧
      outcomeAfterRecovery outcome ending = outcome := by
  cases ending with
  | finished => exact ⟨rfl, rfl⟩
  | cancelled => exact absurd rfl going
  | failed offset error => exact ⟨rfl, rfl⟩

/-- After a recovery pass over what it holds a log shows the pass. -/
theorem recoverWithin_shows (session : Session) (contents : Contents) :
    ShowsPass session (session.recoverWithin contents) contents
      (Recovery.note contents.ring contents.scan session.source) := by
  have report := Recovery.note_of contents.ring contents.scan session.source
  have reach : (Recovery.note contents.ring contents.scan session.source).result.ending =
      .cancelled ∨ Reach contents.ring (occupied contents.ring contents.scan) session.source
        Ring.start Ring.start (blockCount contents.ring)
        (Recovery.note contents.ring contents.scan session.source) :=
    noteSearch_reach contents.ring _ session.source (Nat.le_refl Ring.start) rfl
  generalize Recovery.note contents.ring contents.scan session.source = pass at report reach ⊢
  have going (other : pass.result.ending ≠ .cancelled) := reach.resolve_left other
  refine ⟨report, ?_, ?_, ?_, going, fun other => (going other).delivers_iff, ?_⟩
  · rw [recoverWithin, withRecovery_recovered, report.result]
  · intro cancelled
    rw [recoverWithin, withRecovery_state, withRecovery_outcome, ← report.result, cancelled]
    exact ⟨rfl, rfl⟩
  · intro other
    rw [recoverWithin, withRecovery_state, withRecovery_outcome, ← report.result]
    exact after_going other session.outcome
  · intro finished place signed room
    have other : pass.result.ending ≠ .cancelled := by
      rw [finished]
      exact Ending.noConfusion
    cases going other with
    | all ends covers => exact covers.whole signed room
    | part few ends covers fails =>
      rw [finished] at ends
      cases ends

/-- A log tells of a recovery pass only whether it was cancelled. Whatever was done to the log, a
pass over what it holds answers with the number of records that it took. If the pass was not
cancelled, the log then stands as after a pass over the whole ring, although the pass may have
ended at the first block that could not be read. The same holds of the pass that runs when the log
is opened. -/
theorem shows_only_cancellation (opens : ofSource settings source = .ok session) :
    (∀ actions contents, (session.after actions).contents = some contents →
      (session.after actions).recover.1 =
          .ok (session.after actions).recover.2.recovered.length ∧
        ShowsPass (session.after actions) (session.after actions).recover.2 contents
          (Recovery.note contents.ring contents.scan (session.after actions).source)) ∧
      ∃ scanned contents,
        ofSource { settings with recovery := .disabled } source = .ok scanned ∧
          scanned.contents = some contents ∧
          (recovers settings.recovery scanned.outcome = true →
            ShowsPass scanned session contents
              (Recovery.note contents.ring contents.scan scanned.source)) := by
  constructor
  · intro actions contents holding
    rw [recover_eq_of_contents holding]
    exact ⟨rfl, recoverWithin_shows _ contents⟩
  · obtain ⟨length, header, measured, ready, measures, reads, rfl⟩ := ofSource_eq_ok_iff.mp opens
    refine ⟨_, walked length header ready, ofSource_of_header measures reads, rfl, ?_⟩
    intro recovering
    rw [opened_disabled] at recovering ⊢
    have resumes : opened settings length header ready =
        (afterWalk settings ⟨length⟩ header (Scan.run ⟨length⟩ header ready)).recoverWithin
          (walked length header ready) := if_pos recovering
    rw [resumes]
    exact (recoverWithin_shows _ _).of_eq rfl rfl

/-- The log opens undisturbed however it is opened. -/
theorem opens_undisturbed_shortLog (settings : Settings) : ∃ session,
    ofSource settings (.ofBytes shortLog) = .ok session ∧
      session.Undisturbed shortLog shortScan := by
  have whole : (Source.ofBytes shortLog).data = shortLog := rfl
  have harmless : (Source.ofBytes shortLog).plan.Harmless := FaultPlan.harmless_none
  obtain ⟨session, opens, calm, -⟩ :=
    opens_undisturbed whole harmless rfl shortLog_valid run_shortLog settings
  exact ⟨session, opens, calm⟩

/-- If the only block of an undisturbed log cannot be read, a pass over the log ends there. -/
theorem run_of_unread_shortLog {session : Session} {contents : Contents}
    (calm : session.Undisturbed shortLog shortScan) (sound : contents.Sound shortLog) :
    (Recovery.run contents.ring contents.scan
      (session.arm (FaultSchedule.plan { failAt := 1 })).source).1 =
        ⟨[], .failed 48 (.source .readFailed)⟩ := by
  have room : 0 < contents.ring.size := by
    rw [sound.ring, size_shortLog]
    decide
  exact run_of_fail room contents.scan calm.down rfl rfl

/-- The log shows the pass that runs when it is opened, which comes to the end of the ring and takes
the record that the header leaves out. It also shows a later pass that ends at a block that cannot
be read and takes nothing: its answer is zero, and nothing else tells that the pass did not come to
the end of the ring. -/
theorem left_out_record_shown : ∃ session scanned contents pass,
    ofSource { recovery := .always } (.ofBytes shortLog) = .ok session ∧
      ofSource { recovery := .disabled } (.ofBytes shortLog) = .ok scanned ∧
      (ShowsPass scanned session contents pass ∧ pass.result = ⟨[leftOut], .finished⟩) ∧
      let failing := scanned.after [.arm (FaultSchedule.plan { failAt := 1 })]
      ∃ failed, ShowsPass failing failing.recover.2 contents failed ∧
        failed.result = ⟨[], .failed 48 (.source .readFailed)⟩ ∧ failing.recover.1 = .ok 0 ∧
        failing.recover.2.state = .recoveryComplete ∧ failing.recover.2.outcome = .complete := by
  obtain ⟨session, opens, -⟩ := opens_undisturbed_shortLog { recovery := .always }
  obtain ⟨-, scanned, contents, opens', holding, shows⟩ := shows_only_cancellation opens
  obtain ⟨other, opens'', calm⟩ := opens_undisturbed_shortLog { recovery := .disabled }
  have same : other = scanned := Except.ok.inj (opens''.symm.trans opens')
  subst same
  obtain ⟨held, holding', walk, sound⟩ := calm.held
  have same : held = contents := Option.some.inj (holding'.symm.trans holding)
  subst same
  have recovering : recovers .always other.outcome = true := by
    rw [calm.outcome]
    rfl
  have shown := shows recovering
  refine ⟨session, other, held, _, opens, opens', ⟨shown, ?_⟩, ?_⟩
  · rw [shown.report.result, sound.ring,
      (run_harmless calm.same calm.harmless calm.down sound.within).1, walk, onePass_shortLog]
  · intro failing
    have holding'' : failing.contents = some held := holding
    obtain ⟨every, -⟩ := shows_only_cancellation opens'
    obtain ⟨count, failed⟩ := every [.arm (FaultSchedule.plan { failAt := 1 })] held holding''
    have ends := failed.report.result.trans (run_of_unread_shortLog calm sound)
    have going : (Recovery.note held.ring held.scan failing.source).result.ending ≠
        .cancelled := by
      rw [ends]
      exact Ending.noConfusion
    obtain ⟨state, outcome⟩ := failed.otherwise going
    have taken : failing.recover.2.recovered = [] := by
      rw [failed.recovered, ends]
    refine ⟨_, failed, ends, ?_, state, outcome.trans calm.outcome⟩
    rw [count, taken]
    rfl

/-- If the only block of the log cannot be read, a recovery pass ends there and takes nothing. The
log then stands as after the pass that reads the block and takes a record. -/
theorem unread_block_unseen : ∃ session contents,
    ofSource { recovery := .disabled } (.ofBytes shortLog) = .ok session ∧
      session.contents = some contents ∧
      let failing := session.arm (FaultSchedule.plan { failAt := 1 })
      (Recovery.run contents.ring contents.scan failing.source).1 =
          ⟨[], .failed 48 (.source .readFailed)⟩ ∧
        (Recovery.run contents.ring contents.scan session.source).1 = ⟨[leftOut], .finished⟩ ∧
        (failing.recover.1 = .ok 0 ∧ failing.recover.2.state = .recoveryComplete ∧
          failing.recover.2.outcome = .complete) ∧
        session.recover.1 = .ok 1 ∧ session.recover.2.state = .recoveryComplete ∧
          session.recover.2.outcome = .complete := by
  obtain ⟨session, opens, calm⟩ := opens_undisturbed_shortLog { recovery := .disabled }
  obtain ⟨contents, holding, walk, sound⟩ := calm.held
  refine ⟨session, contents, opens, holding, ?_⟩
  intro failing
  have holding' : failing.contents = some contents := holding
  have failed := run_of_unread_shortLog calm sound
  have whole : (Recovery.run contents.ring contents.scan session.source).1 =
      ⟨[leftOut], .finished⟩ := by
    rw [sound.ring, (run_harmless calm.same calm.harmless calm.down sound.within).1, walk,
      onePass_shortLog]
  obtain ⟨count, state, outcome⟩ := recover_of_ends holding' failed
  obtain ⟨count', state', outcome'⟩ := recover_of_ends holding whole
  have before : failing.outcome = .complete := calm.outcome
  have before' : session.outcome = .complete := calm.outcome
  rw [before] at outcome
  rw [before'] at outcome'
  exact ⟨failed, whole, ⟨count, state, outcome⟩, count', state', outcome'⟩

end Session

end EventLog
