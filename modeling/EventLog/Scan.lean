import EventLog.Ring

/-!
# Walking the ring

The walk starts at the oldest record and goes from record to record until it meets the end of file
record, bytes that are no record, or a record that would take the walk more than once around. The
abort flag is looked at before every record.
-/

namespace EventLog

/-- How a walk ended. -/
inductive Outcome where
  /-- It met the end of file record. -/
  | complete
  /-- The abort flag was up. -/
  | cancelled
  /-- It met bytes that it cannot go on from. -/
  | corrupted (offset : Nat) (error : DecodeError)
  deriving DecidableEq, Repr

namespace Outcome

/-- The walk met the end of file record. -/
def isComplete : Outcome → Bool
  | complete => true
  | _ => false

/-- The walk met bytes that it cannot go on from. -/
def isCorrupted : Outcome → Bool
  | corrupted .. => true
  | _ => false

end Outcome

/-- What a walk found. -/
structure Scan where
  /-- The event records in the order of the walk. -/
  records : List Record
  /-- The end of file record and where it starts, if the walk met it. -/
  sentinel : Option (Nat × Sentinel)
  /-- How the walk ended. -/
  outcome : Outcome
  deriving DecidableEq, Repr

namespace Scan

/-- A walk that ends before it finds a record. -/
def ended (outcome : Outcome) : Scan := ⟨[], none, outcome⟩

/-- Walks on from an offset; `consumed` bytes have been walked over already. -/
def walk (ring : Ring) (source : Source) (offset consumed : Nat) : Scan × Source :=
  if source.aborted then (ended .cancelled, source)
  else
    match _found : ring.readFound source offset with
    | (.error e, source) => (ended (.corrupted offset e), source)
    | (.ok (.sentinel sentinel), source) => (⟨[], some (offset, sentinel), .complete⟩, source)
    | (.ok (.event record), source) =>
      if ring.size < consumed + record.size.toNat then
        (ended (.corrupted offset
          (.outOfBounds .ring offset (consumed + record.size.toNat) ring.size)), source)
      else
        let (rest, source) :=
          walk ring source (ring.next offset record.size.toNat) (consumed + record.size.toNat)
        ({ rest with records := record :: rest.records }, source)
termination_by ring.size - consumed
decreasing_by
  have : 60 ≤ record.size.toNat := Ring.minimumSize_le_of_readFound _found
  omega

/-- Walks the ring from where the header says that the oldest record is. A header whose offsets lie
outside the ring ends the walk before it starts. -/
def run (ring : Ring) (header : Header) (source : Source) : Scan × Source :=
  let first := header.firstRecordOffset.toNat
  if !ring.contains first || !ring.contains header.sentinelOffset.toNat then
    (ended (.corrupted first (.outOfBounds .firstRecordOffset first 0 ring.fileEnd)), source)
  else walk ring source first 0

end Scan

end EventLog
