import EventLog.Scan

/-!
# Recovering records

Recovery searches the whole ring for the signature of event records, block by block, and takes every
record that can be read there and that shares no byte with what the walk accounted for. Blocks
overlap by three bytes, so that a signature on a border is found, and found once. The abort flag is
looked at before every block and every candidate. The buffer for a block is taken to be granted.
-/

namespace EventLog

/-- How a recovery pass ended. -/
inductive Ending where
  /-- It searched the whole ring. -/
  | finished
  /-- The abort flag was up. -/
  | cancelled
  /-- A block could not be read. -/
  | failed (offset : Nat) (error : DecodeError)
  deriving DecidableEq, Repr

/-- What a recovery pass found. -/
structure Recovery where
  /-- The recovered records in the order of their offsets. -/
  records : List Record
  /-- How the pass ended. -/
  ending : Ending
  deriving DecidableEq, Repr

/-- The positions, counted from `position`, at which the pattern stands in the bytes. -/
def occurrences (pattern : Bytes) : Bytes → (position : Nat) → List Nat
  | [], _ => []
  | b :: rest, position =>
    if pattern.isPrefixOf (b :: rest) then position :: occurrences pattern rest (position + 1)
    else occurrences pattern rest (position + 1)

namespace Recovery

/-- How far one block is from the next. -/
def blockStep : Nat := 65536

/-- How many bytes two neighbouring blocks share: one less than a signature has. -/
def blockOverlap : Nat := 3

/-- The parts of the file that are accounted for: the header, the records of the walk and the end
of file record. -/
def occupied (ring : Ring) (scan : Scan) : List Span :=
  ⟨0, Ring.start⟩ :: scan.records.flatMap (fun r => ring.spans r.offset r.size.toNat) ++
    (scan.sentinel.elim [] fun (offset, _) => ring.spans offset Sentinel.size)

/-- A run of bytes shares none with what is accounted for. -/
def isFree (taken : List Span) (span : Span) : Bool := !taken.any span.overlaps

/-- The offsets in a block at which a record could start: four bytes before each signature. -/
def candidates (block : Bytes) (blockStart : Nat) : List Nat :=
  ((occurrences logSignature block blockStart).filter (Ring.start + 4 ≤ ·)).map (· - 4)

/-- What came of the candidates of a block. -/
structure Harvest where
  /-- The records that were taken. -/
  records : List Record
  /-- Where the next record may start. -/
  resume : Nat
  /-- The abort flag was up before all candidates were looked at. -/
  cancelled : Bool

/-- The record at a candidate, if it is an event record that shares no byte with what is accounted
for. -/
def record? (ring : Ring) (taken : List Span) (found : Except DecodeError Ring.Found) :
    Option Record :=
  match found with
  | .ok (.event record) =>
    if (ring.spans record.offset record.size.toNat).all (isFree taken) then some record else none
  | _ => none

/-- Looks at candidates in order; one that starts before `resume`, within the record taken last, is
passed over without reading, as is one whose first bytes are accounted for. -/
def harvest (ring : Ring) (taken : List Span) (source : Source) (resume : Nat) :
    List Nat → Harvest × Source
  | [] => (⟨[], resume, false⟩, source)
  | offset :: rest =>
    if source.aborted then (⟨[], resume, true⟩, source)
    else if offset < resume || !isFree taken ⟨offset, offset + Ring.minimumDeclared⟩ then
      harvest ring taken source resume rest
    else
      let (found, source) := ring.readFound source offset
      match record? ring taken found with
      | none => harvest ring taken source resume rest
      | some record =>
        let (others, source) := harvest ring taken source (offset + record.size.toNat) rest
        ({ others with records := record :: others.records }, source)

/-- How many bytes the block at an offset has: its share and the overlap, as far as the file
goes. -/
def blockSize (ring : Ring) (blockStart : Nat) : Nat :=
  min (blockStep + blockOverlap) (ring.fileEnd - blockStart)

/-- How many blocks a ring has. -/
def blockCount (ring : Ring) : Nat := (ring.size + (blockStep - 1)) / blockStep

/-- Searches a number of blocks from an offset on. -/
def search (ring : Ring) (taken : List Span) :
    (blocks : Nat) → Source → (blockStart resume : Nat) → Recovery × Source
  | 0, source, _, _ => (⟨[], .finished⟩, source)
  | blocks + 1, source, blockStart, resume =>
    if source.aborted then (⟨[], .cancelled⟩, source)
    else
      match source.readPiece ring.fileEnd .recoveryBlock blockStart (blockSize ring blockStart) with
      | (.error e, source) => (⟨[], .failed blockStart e⟩, source)
      | (.ok block, source) =>
        let (here, source) := harvest ring taken source resume (candidates block blockStart)
        if here.cancelled then (⟨here.records, .cancelled⟩, source)
        else
          let (later, source) :=
            search ring taken blocks source (blockStart + blockStep) here.resume
          ({ later with records := here.records ++ later.records }, source)

/-- Recovers what the walk of the ring left out. -/
def run (ring : Ring) (scan : Scan) (source : Source) : Recovery × Source :=
  search ring (occupied ring scan) (blockCount ring) source Ring.start Ring.start

end Recovery

end EventLog
