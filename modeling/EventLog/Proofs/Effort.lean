import EventLog.Effort
import EventLog.Proofs.Recovery

/-!
# Walks and recovery passes end within bounds that the length of the file gives

A walk moves around the ring and may come back to where it was, so that offsets do not say how far
it is. What it has walked over does: every record has at least 60 bytes, and all records together
must fit in the ring (`noteWalk_bounded`). A recovery pass reads the blocks that start in the ring,
each once (`noteSearch_blocks`), and looks at offsets in ascending order, only at those that a
signature follows (`noteSearch_looks`). The reports with notes that this is said of are those of the
walk and the pass (`Noted.Of`).
-/

namespace EventLog

/-- A look leads to the source that reading leaves. -/
theorem Call.make_look {ring : Ring} {source after : Source} {offset : Nat}
    {found : Except DecodeError Ring.Found} (read : ring.readFound source offset = (found, after)) :
    (look offset).make ring source = after := congrArg Prod.snd read

namespace Noted

variable {α : Type} {ring : Ring} {source middle : Source} {operation : α × Source}
  {noted : Noted α}

/-- An operation that makes no call leaves the source as it is. -/
theorem Of.idle (result : α) : Of ring source (result, source) ⟨result, [], source⟩ :=
  ⟨rfl, rfl, rfl⟩

/-- An operation can be one call. -/
theorem Of.once {call : Call} (made : call.make ring source = middle) (result : α) :
    Of ring source (result, middle) ⟨result, [call], middle⟩ :=
  ⟨rfl, rfl, made.symm⟩

/-- An operation can begin with a call and go on from there. -/
theorem Of.after {call : Call} (made : call.make ring source = middle)
    (of : Of ring middle operation noted) : Of ring source operation (noted.after call) := by
  refine ⟨of.result, of.leaves, ?_⟩
  rw [← made] at of
  exact of.calls

/-- What is made of the result of an operation is made of the result in its report. -/
theorem Of.map (of : Of ring source operation noted) (f : α → α) :
    Of ring source (f operation.1, operation.2) (noted.map f) :=
  ⟨congrArg f of.result, of.leaves, of.calls⟩

/-- A look is noted before others. -/
theorem looks_after (offset : Nat) (noted : Noted α) :
    (noted.after (.look offset)).looks = offset :: noted.looks := rfl

/-- A call that is not of one kind is of the other. -/
theorem length_calls (noted : Noted α) :
    noted.calls.length = noted.looks.length + noted.blocks.length := by
  obtain ⟨-, calls, -⟩ := noted
  unfold looks blocks
  dsimp only
  induction calls with
  | nil => rfl
  | cons call rest ih =>
    cases call with
    | look offset =>
      simp only [List.filterMap_cons, Call.look?, Call.block?, List.length_cons, ih]
      omega
    | block start =>
      simp only [List.filterMap_cons, Call.look?, Call.block?, List.length_cons, ih]
      omega

end Noted

namespace Scan

open EventLog.Ring EventLog.Noted

/-- The report with notes is about the walk. -/
theorem noteWalk_of (ring : Ring) (source : Source) (offset consumed : Nat) :
    Noted.Of ring source (walk ring source offset consumed)
      (noteWalk ring source offset consumed) := by
  fun_induction noteWalk ring source offset consumed with
  | case1 source offset consumed up =>
    rw [walk, if_pos up]
    exact .idle _
  | case2 source offset consumed down e after read =>
    rw [walk_of_readFound (eq_false_of_ne_true down) consumed read]
    exact .once (Call.make_look read) _
  | case3 source offset consumed down sentinel after read =>
    rw [walk_of_readFound (eq_false_of_ne_true down) consumed read]
    exact .once (Call.make_look read) _
  | case4 source offset consumed down record after read full =>
    rw [walk_of_readFound (eq_false_of_ne_true down) consumed read]
    dsimp only
    rw [if_pos full]
    exact .once (Call.make_look read) _
  | case5 source offset consumed down record after read room ih =>
    rw [walk_of_readFound (eq_false_of_ne_true down) consumed read]
    dsimp only
    rw [if_neg room]
    exact .after (Call.make_look read)
      (ih.map fun rest => { rest with records := record :: rest.records })

/-- The bounds of a walk that has walked over some bytes. -/
structure Bounded (ring : Ring) (consumed : Nat) (noted : Noted Scan) : Prop where
  /-- Its records fit in what is left of the ring. -/
  records : consumed + Record.minimumSize * noted.result.records.length ≤ ring.size
  /-- It looks once for each record, and perhaps once more. -/
  looks : noted.looks.length ≤ noted.result.records.length + 1
  /-- It reads no block. -/
  blocks : noted.blocks = []

/-- Each record takes the walk on by at least the size of the smallest record, and the walk goes on
only while the records fit in the ring. -/
theorem noteWalk_bounded (ring : Ring) (source : Source) {offset consumed : Nat}
    (fits : consumed ≤ ring.size) :
    Bounded ring consumed (noteWalk ring source offset consumed) := by
  fun_induction noteWalk ring source offset consumed with
  | case1 => exact ⟨fits, Nat.zero_le _, rfl⟩
  | case2 => exact ⟨fits, Nat.le_refl _, rfl⟩
  | case3 => exact ⟨fits, Nat.le_refl _, rfl⟩
  | case4 => exact ⟨fits, Nat.le_refl _, rfl⟩
  | case5 source offset consumed down record after read room ih =>
    have size : Record.minimumSize ≤ record.size.toNat := minimumSize_le_of_readFound read
    obtain ⟨records, looks, blocks⟩ := ih (Nat.le_of_not_lt room)
    refine ⟨?_, ?_, blocks⟩
    · simp only [Noted.after, Noted.map, List.length_cons, Nat.mul_succ]
      omega
    · rw [looks_after]
      simp only [Noted.after, Noted.map, List.length_cons]
      exact Nat.succ_le_succ looks

/-- The report with notes is about the walk from where the header says. -/
theorem note_of (ring : Ring) (header : Header) (source : Source) :
    Noted.Of ring source (run ring header source) (note ring header source) := by
  unfold run note
  dsimp only
  split
  · exact .idle _
  · exact noteWalk_of ring source _ 0

/-- A walk of a ring keeps within the bounds, wherever the header says that it starts. -/
theorem note_bounded (ring : Ring) (header : Header) (source : Source) :
    Bounded ring 0 (note ring header source) := by
  unfold note
  dsimp only
  split
  · exact ⟨Nat.zero_le _, Nat.zero_le _, rfl⟩
  · exact noteWalk_bounded ring source (Nat.zero_le _)

end Scan

namespace Recovery

open EventLog.Ring EventLog.Noted

/-- The report with notes is about looking at candidates. -/
theorem noteHarvest_of (ring : Ring) (taken : List Span) (source : Source) (resume : Nat)
    (offsets : List Nat) :
    Noted.Of ring source (harvest ring taken source resume offsets)
      (noteHarvest ring taken source resume offsets) := by
  induction offsets generalizing source resume with
  | nil => exact .idle _
  | cons offset rest ih =>
    rw [harvest, noteHarvest]
    split
    · exact .idle _
    · split
      · exact ih source resume
      · cases read : ring.readFound source offset with
        | mk found after =>
          dsimp only
          cases record? ring taken found with
          | none => exact .after (Call.make_look read) (ih after resume)
          | some record =>
            exact .after (Call.make_look read) ((ih after _).map fun others =>
              { others with records := record :: others.records })

/-- Candidates are looked at in their order, each at most once, and no block is read. -/
theorem noteHarvest_looks (ring : Ring) (taken : List Span) (source : Source) (resume : Nat)
    (offsets : List Nat) :
    (noteHarvest ring taken source resume offsets).looks.Sublist offsets ∧
      (noteHarvest ring taken source resume offsets).blocks = [] := by
  induction offsets generalizing source resume with
  | nil => exact ⟨.slnil, rfl⟩
  | cons offset rest ih =>
    rw [noteHarvest]
    split
    · exact ⟨List.nil_sublist _, rfl⟩
    · split
      · exact ⟨(ih source resume).1.cons offset, (ih source resume).2⟩
      · dsimp only
        split
        · exact ⟨(ih _ resume).1.cons_cons offset, (ih _ resume).2⟩
        · exact ⟨(ih _ _).1.cons_cons offset, (ih _ _).2⟩

/-- At the end of the file no block starts. -/
theorem not_lt_of_blocksFrom_eq_zero {ring : Ring} {blockStart : Nat}
    (none : 0 = blocksFrom ring blockStart) : ¬blockStart < ring.fileEnd := by
  simp only [blocksFrom, blockStep] at none
  omega

/-- If there are blocks, then one starts at the offset, and the others after it. -/
theorem lt_of_blocksFrom_eq_succ {ring : Ring} {blockStart blocks : Nat}
    (many : blocks + 1 = blocksFrom ring blockStart) :
    blockStart < ring.fileEnd ∧ blocks = blocksFrom ring (blockStart + blockStep) := by
  simp only [blocksFrom, blockStep] at many ⊢
  omega

/-- Reading a block leads to the source that reading leaves. -/
theorem make_block {ring : Ring} {source after : Source} {blockStart : Nat}
    {found : Except DecodeError Bytes}
    (read : source.readPiece ring.fileEnd .recoveryBlock blockStart (blockSize ring blockStart) =
      (found, after)) : (Call.block blockStart).make ring source = after := congrArg Prod.snd read

/-- A search is a block with its looks and the rest of the search. -/
theorem joined_of {ring : Ring} {source after : Source} {blockStart : Nat}
    {harvested : Harvest × Source} {here : Noted Harvest} {searched : Recovery × Source}
    {later : Noted Recovery} (made : (Call.block blockStart).make ring source = after)
    (looked : Noted.Of ring after harvested here) (of : Noted.Of ring here.source searched later) :
    Noted.Of ring source
      ({ searched.1 with records := here.result.records ++ searched.1.records }, searched.2)
      (joined blockStart here later) := by
  refine ⟨?_, of.leaves, of.calls.trans ?_⟩
  · rw [joined, of.result]
  · rw [looked.calls, ← made, ← Call.makeAll_append]
    rfl

/-- The looks of a search are those within the block that was read, and those of the rest. -/
theorem looks_joined (blockStart : Nat) (here : Noted Harvest) (later : Noted Recovery) :
    (joined blockStart here later).looks = here.looks ++ later.looks :=
  List.filterMap_append

/-- The blocks of a search are the one that was read, and those of the rest. -/
theorem blocks_joined (blockStart : Nat) {here : Noted Harvest} (none : here.blocks = [])
    (later : Noted Recovery) :
    (joined blockStart here later).blocks = blockStart :: later.blocks := by
  have split : (here.calls ++ later.calls).filterMap Call.block? = here.blocks ++ later.blocks :=
    List.filterMap_append
  rw [none] at split
  exact congrArg (blockStart :: ·) split

/-- The report with notes is about a search of the blocks that start before the end of the file. -/
theorem noteSearch_of (ring : Ring) (taken : List Span) (source : Source)
    {blockStart blocks : Nat} (resume : Nat) (many : blocks = blocksFrom ring blockStart) :
    Noted.Of ring source (search ring taken blocks source blockStart resume)
      (noteSearch ring taken source blockStart resume) := by
  induction blocks generalizing source blockStart resume with
  | zero =>
    rw [noteSearch, if_neg (not_lt_of_blocksFrom_eq_zero many), search]
    exact .idle _
  | succ blocks ih =>
    obtain ⟨within, fewer⟩ := lt_of_blocksFrom_eq_succ many
    rw [noteSearch, if_pos within, search]
    split
    · exact .idle _
    · cases read : source.readPiece ring.fileEnd .recoveryBlock blockStart
          (blockSize ring blockStart) with
      | mk delivered after =>
        have made := make_block read
        cases delivered with
        | error e => exact .once made _
        | ok block =>
          have here := noteHarvest_of ring taken after resume (candidates block blockStart)
          dsimp only
          rw [← here.result, ← here.leaves]
          split
          · have ends := joined_of made here (.idle (⟨[], .cancelled⟩ : Recovery))
            rw [List.append_nil] at ends
            exact ends
          · exact joined_of made here (ih _ _ fewer)

/-- A search reads each block that starts before the end of the file at most once. -/
theorem noteSearch_blocks (ring : Ring) (taken : List Span) (source : Source)
    {blockStart blocks : Nat} (resume : Nat) (many : blocks = blocksFrom ring blockStart) :
    (noteSearch ring taken source blockStart resume).blocks.length ≤ blocks := by
  induction blocks generalizing source blockStart resume with
  | zero =>
    rw [noteSearch, if_neg (not_lt_of_blocksFrom_eq_zero many)]
    exact Nat.le_refl 0
  | succ blocks ih =>
    obtain ⟨within, fewer⟩ := lt_of_blocksFrom_eq_succ many
    rw [noteSearch, if_pos within]
    split
    · exact Nat.zero_le _
    · cases read : source.readPiece ring.fileEnd .recoveryBlock blockStart
          (blockSize ring blockStart) with
      | mk delivered after =>
        cases delivered with
        | error e => exact Nat.succ_le_succ (Nat.zero_le _)
        | ok block =>
          have none := (noteHarvest_looks ring taken after resume (candidates block blockStart)).2
          dsimp only
          rw [blocks_joined _ none]
          refine Nat.succ_le_succ ?_
          split
          · exact Nat.zero_le _
          · exact ih _ _ fewer

/-- A signature stands in the ring if it starts after the header and ends before the end of the
file. -/
theorem mem_signatures {ring : Ring} {data : Array UInt8} {place : Nat} (inside : start ≤ place)
    (room : place + 4 ≤ ring.fileEnd)
    (stands : (data.extract place (place + 4)).toList = logSignature) :
    place ∈ signatures ring data := by
  have full := congrArg List.length stands
  rw [Array.length_toList, Array.size_extract, show logSignature.length = 4 from rfl] at full
  have whole : start + (ring.fileEnd - start) = ring.fileEnd := by omega
  rw [signatures, ← whole]
  refine mem_occurrences.mpr ⟨place - start, ?_, by omega, signature_in_piece.mpr ⟨?_, by omega⟩⟩
  · rw [Array.length_toList, Array.size_extract]
    omega
  · rw [show start + (place - start) = place by omega]
    exact stands

/-- The looks of a search from a block on: each in the ring and four bytes before a signature that
starts at or after the block, and each later than the one before. -/
structure Signed (ring : Ring) (data : Array UInt8) (blockStart : Nat) (looks : List Nat) :
    Prop where
  /-- Each look is later than the one before. -/
  sorted : looks.Pairwise (· < ·)
  /-- The signature starts at or after the block. -/
  beyond : ∀ offset ∈ looks, blockStart ≤ offset + 4
  /-- The signature stands in the ring. -/
  signed : ∀ offset ∈ looks, offset + 4 ∈ signatures ring data

/-- No looks at all stand before signatures. -/
theorem Signed.nil (ring : Ring) (data : Array UInt8) (blockStart : Nat) :
    Signed ring data blockStart [] := ⟨.nil, nofun, nofun⟩

/-- The offsets that a block offers stand before signatures, which start before the next block. -/
theorem candidates_signed (ring : Ring) (data : Array UInt8) (blockStart : Nat) :
    Signed ring data blockStart (candidates
        (data.extract blockStart (blockStart + blockSize ring blockStart)).toList blockStart) ∧
      ∀ offset ∈ candidates
          (data.extract blockStart (blockStart + blockSize ring blockStart)).toList blockStart,
        offset + 4 < blockStart + blockStep := by
  have size : blockSize ring blockStart = min (blockStep + 3) (ring.fileEnd - blockStart) := rfl
  refine ⟨⟨candidates_sorted _ _, ?_, ?_⟩, ?_⟩
  · intro offset offered
    exact (mem_candidates.mp offered).2.1
  · intro offset offered
    obtain ⟨inside, above, room, stands⟩ := mem_candidates.mp offered
    exact mem_signatures (by omega) (by omega) stands
  · intro offset offered
    obtain ⟨-, above, room, -⟩ := mem_candidates.mp offered
    omega

/-- Looks at some of the offsets that a block offers go before looks from the next block on. -/
theorem Signed.append {ring : Ring} {data : Array UInt8} {blockStart : Nat}
    {here later : List Nat}
    (offered : here.Sublist (candidates
      (data.extract blockStart (blockStart + blockSize ring blockStart)).toList blockStart))
    (next : Signed ring data (blockStart + blockStep) later) :
    Signed ring data blockStart (here ++ later) := by
  obtain ⟨block, before⟩ := candidates_signed ring data blockStart
  refine ⟨?_, ?_, ?_⟩
  · refine List.pairwise_append.mpr ⟨block.sorted.sublist offered, next.sorted, ?_⟩
    intro first member second member'
    have low := before first (offered.subset member)
    have high := next.beyond second member'
    omega
  · intro offset member
    rcases List.mem_append.mp member with member | member
    · exact block.beyond offset (offered.subset member)
    · have high := next.beyond offset member
      omega
  · intro offset member
    rcases List.mem_append.mp member with member | member
    · exact block.signed offset (offered.subset member)
    · exact next.signed offset member

/-- A search looks at offsets in ascending order, and only four bytes before signatures. -/
theorem noteSearch_looks (ring : Ring) (taken : List Span) {data : Array UInt8} {source : Source}
    (same : source.data = data) {blockStart blocks : Nat} (resume : Nat)
    (many : blocks = blocksFrom ring blockStart) :
    Signed ring data blockStart (noteSearch ring taken source blockStart resume).looks := by
  induction blocks generalizing source blockStart resume with
  | zero =>
    rw [noteSearch, if_neg (not_lt_of_blocksFrom_eq_zero many)]
    exact .nil ring data blockStart
  | succ blocks ih =>
    obtain ⟨within, fewer⟩ := lt_of_blocksFrom_eq_succ many
    rw [noteSearch, if_pos within]
    split
    · exact .nil ring data blockStart
    · cases read : source.readPiece ring.fileEnd .recoveryBlock blockStart
          (blockSize ring blockStart) with
      | mk delivered after =>
        cases delivered with
        | error e => exact .nil ring data blockStart
        | ok block =>
          have whole := (Source.readPiece_ok (congrArg Prod.fst read)).2
          have same' : after.data = data :=
            ((Source.readPiece_continues _ _ _ _ _).of_eq read).data.trans same
          have here := noteHarvest_of ring taken after resume (candidates block blockStart)
          have looks := (noteHarvest_looks ring taken after resume (candidates block blockStart)).1
          have kept : (noteHarvest ring taken after resume
              (candidates block blockStart)).source.data = data := by
            rw [here.leaves]
            exact (harvest_continues _ _ _ _ _).data.trans same'
          dsimp only
          rw [looks_joined]
          refine .append (by rw [← same, ← whole]; exact looks) ?_
          split
          · exact .nil ring data _
          · exact ih kept _ fewer

/-- The signatures that looks stand before are some of those in the ring, each of them once. -/
theorem Signed.sublist {ring : Ring} {data : Array UInt8} {blockStart : Nat} {looks : List Nat}
    (signed : Signed ring data blockStart looks) :
    (looks.map (· + 4)).Sublist (signatures ring data) := by
  have ordered : (signatures ring data).Pairwise (· < ·) := occurrences_sorted _ _ _
  have sorted : (looks.map (· + 4)).Pairwise (· < ·) := by
    rw [List.pairwise_map]
    exact signed.sorted.imp fun before => Nat.add_lt_add_right before 4
  have among : looks.map (· + 4) =
      (signatures ring data).filter fun place => decide (place ∈ looks.map (· + 4)) := by
    refine eq_of_sorted_of_mem_iff sorted (ordered.filter _) ?_
    intro place
    rw [List.mem_filter, decide_eq_true_eq]
    refine ⟨fun member => ⟨?_, member⟩, And.right⟩
    obtain ⟨offset, looked, rfl⟩ := List.mem_map.mp member
    exact signed.signed offset looked
  rw [among]
  exact List.filter_sublist

/-- The bounds of a recovery pass over a file. -/
structure Bounded (ring : Ring) (data : Array UInt8) (noted : Noted Recovery) : Prop where
  /-- It reads no more blocks than the ring has. -/
  blocks : noted.blocks.length ≤ blockCount ring
  /-- It looks at offsets four bytes before signatures in the ring, and at each once. -/
  looks : (noted.looks.map (· + 4)).Sublist (signatures ring data)

/-- The report with notes is about the pass. -/
theorem note_of (ring : Ring) (scan : Scan) (source : Source) :
    Noted.Of ring source (run ring scan source) (note ring scan source) :=
  noteSearch_of ring (occupied ring scan) source start rfl

/-- A recovery pass keeps within the bounds, whatever the walk has left out. -/
theorem note_bounded (ring : Ring) (scan : Scan) (source : Source) :
    Bounded ring source.data (note ring scan source) where
  blocks := noteSearch_blocks ring (occupied ring scan) source start rfl
  looks := (noteSearch_looks ring (occupied ring scan) rfl start rfl).sublist

end Recovery

/-- A walk looks at most once for every 60 bytes of the ring and once more, reads no block and finds
at most one record for every 60 bytes. A recovery pass reads at most one block for every 65536
bytes, rounded up, and looks at most once for each place of the ring where a signature stands. -/
theorem effort_bounded (ring : Ring) (source : Source) :
    (∀ header, (Scan.note ring header source).Of ring source (Scan.run ring header source) ∧
      (Scan.note ring header source).calls.length ≤ (ring.fileEnd - 48) / 60 + 1 ∧
      (Scan.note ring header source).blocks = [] ∧
      (Scan.run ring header source).1.records.length ≤ (ring.fileEnd - 48) / 60) ∧
    (∀ scan, (Recovery.note ring scan source).Of ring source (Recovery.run ring scan source) ∧
      (Recovery.note ring scan source).blocks.length ≤ (ring.fileEnd - 48 + 65535) / 65536 ∧
      ((Recovery.note ring scan source).looks.map (· + 4)).Sublist
        (Recovery.signatures ring source.data)) ∧
    (Recovery.signatures ring source.data).Nodup := by
  have size : ring.size = ring.fileEnd - 48 := rfl
  refine ⟨fun header => ?_, fun scan => ?_, ?_⟩
  · have of := Scan.note_of ring header source
    obtain ⟨records, looks, blocks⟩ := Scan.note_bounded ring header source
    have calls := (Scan.note ring header source).length_calls
    rw [Record.minimumSize, size] at records
    rw [blocks, List.length_nil] at calls
    refine ⟨of, by omega, blocks, ?_⟩
    rw [← of.result]
    omega
  · obtain ⟨blocks, looks⟩ := Recovery.note_bounded ring scan source
    exact ⟨Recovery.note_of ring scan source, blocks, looks⟩
  · have ordered : (Recovery.signatures ring source.data).Pairwise (· < ·) :=
      Recovery.occurrences_sorted _ _ _
    exact ordered.imp Nat.ne_of_lt

end EventLog
