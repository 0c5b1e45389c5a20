import EventLog.Header
import EventLog.Record
import EventLog.Sentinel
import EventLog.Source

/-!
# The circular region of records

All of a file after its header is a ring: what runs past the end of the file continues right after
the header. `readBytes` reads a run of the ring in one piece or two, and `readFound` reads whatever
record starts at an offset. The buffer for a run is taken to be granted, however long the run is.
-/

namespace EventLog

/-- A run of bytes of the file. -/
structure Span where
  /-- The offset of the first byte. -/
  start : Nat
  /-- The offset after the last byte. -/
  stop : Nat
  deriving DecidableEq, Repr

/-- Two runs share a byte, if neither is empty. -/
def Span.overlaps (a b : Span) : Bool := a.start < b.stop && b.start < a.stop

/-- The region of records of a file. -/
structure Ring where
  /-- The length of the file, which is where the region ends. -/
  fileEnd : Nat
  deriving DecidableEq, Repr

namespace Ring

/-- Where the region starts: right after the header. -/
def start : Nat := Header.size

/-- How many bytes the region has. -/
def size (ring : Ring) : Nat := ring.fileEnd - start

/-- The offset lies in the region. -/
def contains (ring : Ring) (offset : Nat) : Bool := start ≤ offset && offset < ring.fileEnd

/-- Where the region continues after a run of bytes. -/
def next (ring : Ring) (offset size : Nat) : Nat :=
  if ring.fileEnd ≤ offset + size then start + (offset + size - ring.fileEnd) else offset + size

/-- The parts of the file that a run of bytes takes: two if it wraps around. -/
def spans (ring : Ring) (offset size : Nat) : List Span :=
  if offset + size ≤ ring.fileEnd then [⟨offset, offset + size⟩]
  else [⟨offset, ring.fileEnd⟩, ⟨start, start + (offset + size - ring.fileEnd)⟩]

/-- Reads a run of bytes of the region. -/
def readBytes (ring : Ring) (source : Source) (offset size : Nat) :
    Except DecodeError Bytes × Source :=
  if !ring.contains offset || ring.size < size then
    (.error (.outOfBounds .ring offset size ring.fileEnd), source)
  else
    let straight := min (ring.fileEnd - offset) size
    match source.readPiece ring.fileEnd .ringRecord offset straight with
    | (.error e, source) => (.error e, source)
    | (.ok front, source) =>
      if straight < size then
        match source.readPiece ring.fileEnd .wrappedRecord start (size - straight) with
        | (.error e, source) => (.error e, source)
        | (.ok back, source) => (.ok (front ++ back), source)
      else (.ok front, source)

/-- What can start at an offset of the region. -/
inductive Found where
  /-- An event record. -/
  | event (record : Record)
  /-- The end of file record. -/
  | sentinel (sentinel : Sentinel)
  deriving DecidableEq, Repr

/-- The smallest size that a record can declare: the size itself and a signature. -/
def minimumDeclared : Nat := 8

/-- Reads the bytes at an offset as an end of file record if they look like one, and else as an
event record. -/
def Found.decode (offset : Nat) (bytes : Bytes) : Except DecodeError Found :=
  if Sentinel.isCandidate bytes then (Sentinel.decode bytes).map .sentinel
  else (Record.decode bytes).map fun record => .event { record with offset }

/-- Reads the record that starts at an offset: first its size, then all of it. -/
def readFound (ring : Ring) (source : Source) (offset : Nat) :
    Except DecodeError Found × Source :=
  match ring.readBytes source offset 4 with
  | (.error e, source) => (.error e, source)
  | (.ok word, source) =>
    let size := (word.word32 0).toNat
    if size < minimumDeclared || ring.size < size then
      (.error (.outOfBounds .declaredSize offset size ring.size), source)
    else
      match ring.readBytes source offset size with
      | (.error e, source) => (.error e, source)
      | (.ok bytes, source) => (Found.decode offset bytes, source)

/-- An event record that was found has at least the size of the smallest record. -/
theorem minimumSize_le_of_decode {offset : Nat} {bytes : Bytes} {record : Record}
    (h : Found.decode offset bytes = .ok (.event record)) :
    Record.minimumSize ≤ record.size.toNat := by
  unfold Found.decode at h
  split at h
  · cases hs : Sentinel.decode bytes <;> simp [hs, Except.map] at h
  · cases hr : Record.decode bytes with
    | error e => simp [hr, Except.map] at h
    | ok r =>
      simp only [hr, Except.map, Except.ok.injEq, Found.event.injEq] at h
      subst h
      have := Record.minimumSize_le_of_decode hr
      exact this

/-- An event record that was read from the region has at least the size of the smallest record. -/
theorem minimumSize_le_of_readFound {ring : Ring} {source after : Source} {offset : Nat}
    {record : Record} (h : ring.readFound source offset = (.ok (.event record), after)) :
    Record.minimumSize ≤ record.size.toNat := by
  unfold readFound at h
  dsimp only at h
  split at h
  · simp at h
  · split at h
    · simp at h
    · split at h
      · simp at h
      · exact minimumSize_le_of_decode (congrArg Prod.fst h)

end Ring

end EventLog
