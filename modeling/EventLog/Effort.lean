import EventLog.Recovery

/-!
# What walks and recovery passes ask of the source

A walk looks at one offset of the ring after the other; a recovery pass reads blocks, and looks at
offsets that it finds in them. `Scan.note` and `Recovery.note` go the same ways and note each of
these calls when it is made, so that the calls can be counted. A report with notes is `Of` an
operation if it has the same result and its calls, made one after the other, lead to the source that
the operation leaves.
-/

namespace EventLog

/-- A call that a walk or a recovery pass makes. -/
inductive Call where
  /-- It reads whatever record starts at an offset of the ring. -/
  | look (offset : Nat)
  /-- It reads the block at an offset, to search it. -/
  | block (start : Nat)
  deriving DecidableEq, Repr

namespace Call

/-- The source after a call. -/
def make (ring : Ring) (source : Source) : Call → Source
  | look offset => (ring.readFound source offset).2
  | block start =>
    (source.readPiece ring.fileEnd .recoveryBlock start (Recovery.blockSize ring start)).2

/-- The source after several calls. -/
def makeAll (ring : Ring) (source : Source) (calls : List Call) : Source :=
  calls.foldl (make ring) source

/-- Calls after calls are made on the source that those leave. -/
theorem makeAll_append (ring : Ring) (source : Source) (first second : List Call) :
    makeAll ring source (first ++ second) = makeAll ring (makeAll ring source first) second :=
  List.foldl_append

/-- The offset that is looked at. -/
def look? : Call → Option Nat
  | look offset => some offset
  | block _ => none

/-- The offset of the block that is read. -/
def block? : Call → Option Nat
  | look _ => none
  | block start => some start

end Call

/-- What comes of an operation, with notes. -/
structure Noted (α : Type) where
  /-- The result. -/
  result : α
  /-- The calls in the order in which they were made. -/
  calls : List Call
  /-- The source after the last call. -/
  source : Source

namespace Noted

variable {α : Type}

/-- The offsets that were looked at, in order. -/
def looks (noted : Noted α) : List Nat := noted.calls.filterMap Call.look?

/-- The offsets of the blocks that were read, in order. -/
def blocks (noted : Noted α) : List Nat := noted.calls.filterMap Call.block?

/-- With a call that was made before the others. -/
def after (call : Call) (noted : Noted α) : Noted α := { noted with calls := call :: noted.calls }

/-- With another result. -/
def map (f : α → α) (noted : Noted α) : Noted α := { noted with result := f noted.result }

/-- The report is about an operation on a source: it has the same result, and the source that the
operation leaves is the one after just the calls that were noted. -/
structure Of (ring : Ring) (source : Source) (operation : α × Source) (noted : Noted α) :
    Prop where
  /-- The result is that of the operation. -/
  result : noted.result = operation.1
  /-- The source is the one that the operation leaves. -/
  leaves : noted.source = operation.2
  /-- It is the one that the noted calls lead to. -/
  calls : noted.source = Call.makeAll ring source noted.calls

end Noted

namespace Scan

/-- Walks on from an offset and notes each look. -/
def noteWalk (ring : Ring) (source : Source) (offset consumed : Nat) : Noted Scan :=
  if source.aborted then ⟨ended .cancelled, [], source⟩
  else
    match _found : ring.readFound source offset with
    | (.error e, source) => ⟨ended (.corrupted offset e), [.look offset], source⟩
    | (.ok (.sentinel sentinel), source) =>
      ⟨⟨[], some (offset, sentinel), .complete⟩, [.look offset], source⟩
    | (.ok (.event record), source) =>
      if ring.size < consumed + record.size.toNat then
        ⟨ended (.corrupted offset
          (.outOfBounds .ring offset (consumed + record.size.toNat) ring.size)),
          [.look offset], source⟩
      else
        ((noteWalk ring source (ring.next offset record.size.toNat)
          (consumed + record.size.toNat)).map fun rest =>
            { rest with records := record :: rest.records }).after (.look offset)
termination_by ring.size - consumed
decreasing_by
  have : 60 ≤ record.size.toNat := Ring.minimumSize_le_of_readFound _found
  omega

/-- Walks the ring from where the header says that the oldest record is, and notes each look. -/
def note (ring : Ring) (header : Header) (source : Source) : Noted Scan :=
  let first := header.firstRecordOffset.toNat
  if !ring.contains first || !ring.contains header.sentinelOffset.toNat then
    ⟨ended (.corrupted first (.outOfBounds .firstRecordOffset first 0 ring.fileEnd)), [], source⟩
  else noteWalk ring source first 0

end Scan

namespace Recovery

/-- Looks at candidates in order and notes each look. -/
def noteHarvest (ring : Ring) (taken : List Span) (source : Source) (resume : Nat) :
    List Nat → Noted Harvest
  | [] => ⟨⟨[], resume, false⟩, [], source⟩
  | offset :: rest =>
    if source.aborted then ⟨⟨[], resume, true⟩, [], source⟩
    else if offset < resume || !isFree taken ⟨offset, offset + Ring.minimumDeclared⟩ then
      noteHarvest ring taken source resume rest
    else
      let (found, source) := ring.readFound source offset
      match record? ring taken found with
      | none => (noteHarvest ring taken source resume rest).after (.look offset)
      | some record =>
        ((noteHarvest ring taken source (offset + record.size.toNat) rest).map fun others =>
          { others with records := record :: others.records }).after (.look offset)

/-- The reports of a block and of the rest of a search, as one. -/
def joined (blockStart : Nat) (here : Noted Harvest) (later : Noted Recovery) : Noted Recovery where
  result := { later.result with records := here.result.records ++ later.result.records }
  calls := .block blockStart :: (here.calls ++ later.calls)
  source := later.source

/-- How many blocks start at or after an offset and before the end of the file. -/
def blocksFrom (ring : Ring) (blockStart : Nat) : Nat :=
  (ring.fileEnd - blockStart + (blockStep - 1)) / blockStep

/-- Where in the ring a signature of event records stands. -/
def signatures (ring : Ring) (data : Array UInt8) : List Nat :=
  occurrences logSignature (data.extract Ring.start ring.fileEnd).toList Ring.start

/-- Searches block after block while these start before the end of the file, and notes each block
and each look. -/
def noteSearch (ring : Ring) (taken : List Span) (source : Source) (blockStart resume : Nat) :
    Noted Recovery :=
  if blockStart < ring.fileEnd then
    if source.aborted then ⟨⟨[], .cancelled⟩, [], source⟩
    else
      match source.readPiece ring.fileEnd .recoveryBlock blockStart (blockSize ring blockStart) with
      | (.error e, source) => ⟨⟨[], .failed blockStart e⟩, [.block blockStart], source⟩
      | (.ok block, source) =>
        let here := noteHarvest ring taken source resume (candidates block blockStart)
        joined blockStart here
          (if here.result.cancelled then ⟨⟨[], .cancelled⟩, [], here.source⟩
          else noteSearch ring taken here.source (blockStart + blockStep) here.result.resume)
  else ⟨⟨[], .finished⟩, [], source⟩
termination_by ring.fileEnd - blockStart
decreasing_by
  have forwards : 0 < blockStep := by decide
  omega

/-- Recovers what the walk of the ring left out, and notes each block and each look. -/
def note (ring : Ring) (scan : Scan) (source : Source) : Noted Recovery :=
  noteSearch ring (occupied ring scan) source Ring.start Ring.start

end Recovery

end EventLog
