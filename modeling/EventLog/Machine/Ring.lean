import EventLog.Machine.Record
import EventLog.Proofs.Ring
import EventLog.Scan

/-!
# Reading and walking the ring on the machine

Offsets, sizes and how far a walk has come are words. `readFound` and `walk` take the sums,
differences and slices that reading and walking take. A step of a walk that does not take it further
would be taken again and again, so that it counts as a stop. On a file whose length is less than
half of what a word can count, the machine does not stop (`run_eq`).
-/

namespace EventLog.Machine

open Decoding

variable {ring : Ring}

/-- Where the region continues after a run of bytes. -/
def next (ring : Ring) (offset size : Nat) : Option Nat := do
  let stop ← add offset size
  if ring.fileEnd ≤ stop then
    let excess ← sub stop ring.fileEnd
    add Ring.start excess
  else return stop

/-- The parts of the file that a run of bytes takes. -/
def spans (ring : Ring) (offset size : Nat) : Option (List Span) := do
  let stop ← add offset size
  if stop ≤ ring.fileEnd then return [⟨offset, stop⟩]
  else
    let excess ← sub stop ring.fileEnd
    let wrapped ← add Ring.start excess
    return [⟨offset, ring.fileEnd⟩, ⟨Ring.start, wrapped⟩]

/-- Reads a piece of a source that reported a length. -/
def readPiece (source : Source) (length : Nat) (part : Part) (offset size : Nat) :
    Except DecodeError Bytes × Source :=
  if length < saturatingAdd offset size then
    (.error (.truncated part offset size (length - offset)), source)
  else
    match source.seek with
    | (.error e, source) => (.error (.source e), source)
    | (.ok (), source) =>
      match source.gather offset size #[] with
      | (.error e, source) => (.error (.source e), source)
      | (.ok read, source) => (.ok read.toList, source)

/-- Reads a run of bytes of the region into a buffer, in one part or two. -/
def readBytes (ring : Ring) (source : Source) (offset size : Nat) :
    Option (Except DecodeError Bytes × Source) := do
  if !ring.contains offset || ring.size < size then
    return (.error (.outOfBounds .ring offset size ring.fileEnd), source)
  else
    let left ← sub ring.fileEnd offset
    let straight := min left size
    let first ← window size 0 straight
    match readPiece source ring.fileEnd .ringRecord offset first with
    | (.error e, source) => return (.error e, source)
    | (.ok front, source) =>
      if straight < size then
        let second ← window size straight size
        match readPiece source ring.fileEnd .wrappedRecord Ring.start second with
        | (.error e, source) => return (.error e, source)
        | (.ok back, source) => return (.ok (front ++ back), source)
      else return (.ok front, source)

/-- Reads bytes as an end of file record if they look like one, and else as an event record. -/
def decodeFound (offset : Nat) (bytes : Bytes) : Decoding Ring.Found :=
  if Sentinel.isCandidate bytes then .sentinel <$> decodeSentinel bytes
  else (fun record => .event { record with offset }) <$> decodeRecord bytes

/-- Reads the record that starts at an offset. -/
def readFound (ring : Ring) (source : Source) (offset : Nat) :
    Option (Except DecodeError Ring.Found × Source) := do
  match ← readBytes ring source offset 4 with
  | (.error e, source) => return (.error e, source)
  | (.ok word, source) =>
    let size := (word.word32 0).toNat
    if size < Ring.minimumDeclared || ring.size < size then
      return (.error (.outOfBounds .declaredSize offset size ring.size), source)
    else
      match ← readBytes ring source offset size with
      | (.error e, source) => return (.error e, source)
      | (.ok bytes, source) =>
        let found ← (decodeFound offset bytes).run
        return (found, source)

/-- Walks on from an offset until the walk ends, if every step takes it further. -/
def walk (ring : Ring) (source : Source) (offset consumed : Nat) : Option (Scan × Source) :=
  if source.aborted then some (Scan.ended .cancelled, source)
  else do
    match ← readFound ring source offset with
    | (.error e, source) => return (Scan.ended (.corrupted offset e), source)
    | (.ok (.sentinel sentinel), source) =>
      return (⟨[], some (offset, sentinel), .complete⟩, source)
    | (.ok (.event record), source) =>
      let total ← add consumed record.size.toNat
      if ring.size < total then
        return (Scan.ended (.corrupted offset (.outOfBounds .ring offset total ring.size)), source)
      else if consumed < total then
        let offset ← next ring offset record.size.toNat
        let (rest, source) ← walk ring source offset total
        return ({ rest with records := record :: rest.records }, source)
      else none
termination_by ring.size - consumed

/-- Walks the ring from where the header says that the oldest record is. -/
def run (ring : Ring) (header : Header) (source : Source) : Option (Scan × Source) :=
  let first := header.firstRecordOffset.toNat
  if !ring.contains first || !ring.contains header.sentinelOffset.toNat then
    some (Scan.ended (.corrupted first (.outOfBounds .firstRecordOffset first 0 ring.fileEnd)),
      source)
  else walk ring source first 0

variable {offset size : Nat}

/-- The machine finds where the region continues after every run that fits into it. -/
theorem next_eq (small : ring.fileEnd < UInt64.size / 2) (inside : ring.contains offset = true)
    (fits : size ≤ ring.size) : next ring offset size = some (ring.next offset size) := by
  have words := words_eq
  have bounds := Ring.contains_iff.mp inside
  have room : ring.size = ring.fileEnd - Ring.start := rfl
  unfold next Ring.next
  rw [add_eq (by omega)]
  dsimp only [Option.bind_eq_bind, Option.bind_some]
  split
  · rename_i wraps
    rw [sub_eq wraps, Option.bind_some, add_eq (by omega)]
  · rfl

/-- The machine finds the parts of the file that every run takes that fits into the region. -/
theorem spans_eq (small : ring.fileEnd < UInt64.size / 2) (inside : ring.contains offset = true)
    (fits : size ≤ ring.size) : spans ring offset size = some (ring.spans offset size) := by
  have words := words_eq
  have bounds := Ring.contains_iff.mp inside
  have room : ring.size = ring.fileEnd - Ring.start := rfl
  unfold spans Ring.spans
  rw [add_eq (by omega)]
  dsimp only [Option.bind_eq_bind, Option.bind_some]
  split
  · rfl
  · rw [sub_eq (by omega), Option.bind_some, add_eq (by omega)]
    rfl

/-- A sum that does not fit into a word ends past the length as well. -/
theorem readPiece_eq {length : Nat} (small : length < UInt64.size / 2) (source : Source)
    (part : Part) (offset size : Nat) : readPiece source length part offset size =
      source.readPiece length part offset size := by
  have words := words_eq
  have past : length < saturatingAdd offset size ↔ length < offset + size := by
    unfold saturatingAdd
    omega
  unfold readPiece Source.readPiece
  by_cases long : length < offset + size
  · exact (if_pos (past.mpr long)).trans (if_pos long).symm
  · exact (if_neg fun short => long (past.mp short)).trans (if_neg long).symm

/-- The machine reads every run of bytes as it is read from the ring. -/
theorem readBytes_eq (small : ring.fileEnd < UInt64.size / 2) (source : Source)
    (offset size : Nat) :
    readBytes ring source offset size = some (ring.readBytes source offset size) := by
  unfold readBytes Ring.readBytes
  split
  · rfl
  · rename_i good
    simp only [Bool.or_eq_true, Bool.not_eq_true', decide_eq_true_eq, not_or, Bool.not_eq_false,
      Nat.not_lt] at good
    have bounds := Ring.contains_iff.mp good.1
    rw [sub_eq (Nat.le_of_lt bounds.2)]
    dsimp only [Option.bind_eq_bind, Option.bind_some]
    rw [window_eq (Nat.zero_le _) (Nat.min_le_right _ _), Option.bind_some, readPiece_eq small,
      Nat.sub_zero]
    cases source.readPiece ring.fileEnd .ringRecord offset (min (ring.fileEnd - offset) size) with
    | mk outcome source =>
      cases outcome with
      | error e => rfl
      | ok front =>
        dsimp only
        split
        · rw [window_eq (Nat.min_le_right _ _) (Nat.le_refl size), Option.bind_some,
            readPiece_eq small]
          cases source.readPiece ring.fileEnd .wrappedRecord Ring.start
              (size - min (ring.fileEnd - offset) size) with
          | mk outcome source => cases outcome <;> rfl
        · rfl

/-- The machine decodes whatever there is in bytes that are not more than a word can count. -/
theorem decodeFound_eq (offset : Nat) {bytes : Bytes} (small : bytes.length < UInt64.size) :
    decodeFound offset bytes = ends (Ring.Found.decode offset bytes) := by
  unfold decodeFound Ring.Found.decode
  split
  · rw [decodeSentinel_eq, map_ends]
  · rw [decodeRecord_eq small, map_ends]

/-- The machine finds at every offset what is found there. -/
theorem readFound_eq (small : ring.fileEnd < UInt64.size / 2) (source : Source) (offset : Nat) :
    readFound ring source offset = some (ring.readFound source offset) := by
  unfold readFound Ring.readFound
  rw [readBytes_eq small]
  dsimp only [Option.bind_eq_bind, Option.bind_some]
  cases ring.readBytes source offset 4 with
  | mk outcome source =>
    cases outcome with
    | error e => rfl
    | ok word =>
      dsimp only
      split
      · rfl
      · rw [readBytes_eq small, Option.bind_some]
        cases read : ring.readBytes source offset (word.word32 0).toNat with
        | mk outcome source =>
          cases outcome with
          | error e => rfl
          | ok bytes =>
            have counted := (word.word32 0).toNat_lt
            have words := words_eq
            have length := (Ring.bounds_of_readBytes read).2.2
            dsimp only
            rw [decodeFound_eq offset (by omega)]
            rfl

/-- The machine walks every ring to an end, as a walk does. -/
theorem walk_eq (small : ring.fileEnd < UInt64.size / 2) (source : Source) (offset : Nat)
    {consumed : Nat} (most : consumed ≤ ring.size) :
    walk ring source offset consumed = some (Scan.walk ring source offset consumed) := by
  have words := words_eq
  have room : ring.size = ring.fileEnd - Ring.start := rfl
  -- What was walked over and the next record each fit into the ring, so that their sum is a word.
  fun_induction Scan.walk ring source offset consumed with
  | case1 source offset consumed up => rw [walk, if_pos up]
  | case2 source offset consumed down e after read =>
    rw [walk, if_neg down, readFound_eq small, read]
    rfl
  | case3 source offset consumed down sentinel after read =>
    rw [walk, if_neg down, readFound_eq small, read]
    rfl
  | case4 source offset consumed down record after read full =>
    obtain ⟨-, -, fits⟩ := Ring.event_of_readFound read
    rw [walk, if_neg down, readFound_eq small, read]
    dsimp only [Option.bind_eq_bind, Option.bind_some]
    rw [add_eq (by omega), Option.bind_some, if_pos full]
    rfl
  | case5 source offset consumed down record after read full rest last walked ih =>
    obtain ⟨inside, -, fits⟩ := Ring.event_of_readFound read
    have least : 60 ≤ record.size.toNat := Ring.minimumSize_le_of_readFound read
    rw [walk, if_neg down, readFound_eq small, read]
    dsimp only [Option.bind_eq_bind, Option.bind_some]
    rw [add_eq (by omega), Option.bind_some, if_neg full, if_pos (by omega),
      next_eq small inside fits, Option.bind_some, ih (by omega), walked]
    rfl

/-- The machine walks every ring to an end, whatever the header says. -/
theorem run_eq (small : ring.fileEnd < UInt64.size / 2) (header : Header) (source : Source) :
    run ring header source = some (Scan.run ring header source) := by
  unfold run Scan.run
  dsimp only
  split
  · rfl
  · exact walk_eq small source _ (Nat.zero_le _)

end EventLog.Machine
