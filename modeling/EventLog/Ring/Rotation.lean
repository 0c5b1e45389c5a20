import EventLog.Ring.Filled
import EventLog.Scan

/-!
# Rings that are turned

A log whose records have been written on around the ring differs from the same log with its ring
unwound only in where its bytes stand. `Turned` says so of two files: what stands at an offset of
the one stands in the other at the offset that the turn carries it to. What a walk reports is
carried along by `Scan.moved`: the offsets of records, of the end of file record and of the place
where the walk ended, and nothing else.
-/

namespace EventLog

/-- An error about the part names an offset of the file, and not one within a record. -/
def Part.inFile : Part → Bool
  | .ring | .declaredSize | .firstRecordOffset => true
  | _ => false

/-- The error, with the offset that it names carried along if that is an offset of the file. -/
def DecodeError.moved (move : Nat → Nat) : DecodeError → DecodeError
  | .outOfBounds part offset size limit =>
    .outOfBounds part (if part.inFile then move offset else offset) size limit
  | error => error

/-- The record at the offset that its own is carried to. -/
def Record.moved (move : Nat → Nat) (record : Record) : Record :=
  { record with offset := move record.offset }

/-- The ending of a walk, with the offset where it ended carried along. -/
def Outcome.moved (move : Nat → Nat) : Outcome → Outcome
  | .corrupted offset error => .corrupted (move offset) (error.moved move)
  | outcome => outcome

/-- What a walk found, with all offsets carried along. -/
def Scan.moved (move : Nat → Nat) (scan : Scan) : Scan where
  records := scan.records.map (Record.moved move)
  sentinel := scan.sentinel.map fun found => (move found.1, found.2)
  outcome := scan.outcome.moved move

namespace Ring

/-- The offset that an offset of the region is carried to when the ring is turned by a distance;
other offsets stay. -/
def turned (ring : Ring) (turn offset : Nat) : Nat :=
  if ring.contains offset then ring.position offset turn else offset

/-- Two files are equally long, and what stands in the ring of the first stands in the ring of the
second a distance further. -/
structure Turned (turn : Nat) (first second : Array UInt8) : Prop where
  /-- The files are equally long. -/
  size : second.size = first.size
  /-- The byte at an offset is carried along with the offset. -/
  bytes : ∀ offset, contains ⟨first.size⟩ offset = true →
    second[turned ⟨first.size⟩ turn offset]? = first[offset]?

variable {ring : Ring} {turn offset : Nat}

/-- An offset of the region is carried to the position at the distance of the turn. -/
theorem turned_of_contains (inside : ring.contains offset = true) :
    ring.turned turn offset = ring.position offset turn := if_pos inside

/-- An offset outside of the region is not carried along. -/
theorem turned_of_not_contains (outside : ring.contains offset = false) :
    ring.turned turn offset = offset := by
  rw [turned, outside, if_neg Bool.false_ne_true]

/-- A turn carries offsets of the region into the region, and no others. -/
theorem contains_turned : ring.contains (ring.turned turn offset) = ring.contains offset := by
  cases inside : ring.contains offset with
  | false => rw [turned_of_not_contains inside, inside]
  | true => rw [turned_of_contains inside, contains_position inside]

/-- Positions at a distance are carried along with the offset that the distance counts from. -/
theorem turned_position (inside : ring.contains offset = true) (distance : Nat) :
    ring.turned turn (ring.position offset distance) =
      ring.position (ring.turned turn offset) distance := by
  rw [turned_of_contains (contains_position inside distance), turned_of_contains inside,
    position_position, position_position, Nat.add_comm]

/-- Every offset of the region stands at some distance within one turn. -/
theorem exists_position (inside : ring.contains offset = true) {byte : Nat}
    (inside' : ring.contains byte = true) :
    ∃ distance < ring.size, ring.position offset distance = byte := by
  have bounds := contains_iff.mp inside
  have bounds' := contains_iff.mp inside'
  have total : ring.size = ring.fileEnd - start := rfl
  by_cases before : byte < offset
  · refine ⟨ring.fileEnd - offset + (byte - start), by omega, ?_⟩
    rw [position_of_ge inside (by omega) (by omega)]
    omega
  · refine ⟨byte - offset, by omega, ?_⟩
    rw [position_of_lt inside (by omega)]
    omega

/-- Two files whose rings are filled by the same bytes, from an offset on and from where a turn
carries that offset, are turned against each other. -/
theorem turned_filled {header header' : Header} {bytes : Bytes} {fileEnd : Nat}
    (length : start + bytes.length = fileEnd) (inside : contains ⟨fileEnd⟩ offset = true) :
    Turned turn (filled header offset bytes)
      (filled header' (turned ⟨fileEnd⟩ turn offset) bytes) where
  size := by rw [size_filled, size_filled]
  bytes byte within := by
    have size : (filled header offset bytes).size = fileEnd := size_filled.trans length
    have size' : (filled header' (turned ⟨fileEnd⟩ turn offset) bytes).size = fileEnd :=
      size_filled.trans length
    have here := lies_filled_of_size size inside
    have there := lies_filled_of_size size' (contains_turned.trans inside)
    rw [size] at within ⊢
    obtain ⟨distance, near, rfl⟩ := exists_position inside within
    have room : distance < bytes.length := by
      rw [← length, size_mk] at near
      omega
    have same := here.2 distance room
    have same' := there.2 distance room
    rw [size] at same
    rw [size'] at same'
    rw [turned_position inside, same, same']

/-- Seen from where a turn carries an offset, the second ring is the first, seen from the offset. -/
theorem unrolled_turned {first second : Array UInt8} (turned : Turned turn first second)
    (inside : contains ⟨first.size⟩ offset = true) :
    unrolled second (Ring.turned ⟨first.size⟩ turn offset) = unrolled first offset := by
  have inside' : contains ⟨second.size⟩ (Ring.turned ⟨first.size⟩ turn offset) = true := by
    rw [turned.size, contains_turned]
    exact inside
  have bounds : start ≤ offset ∧ offset < first.size := contains_iff.mp inside
  have bounds' := contains_iff.mp inside'
  have length := length_unrolled bounds.1 (Nat.le_of_lt bounds.2)
  have length' := length_unrolled bounds'.1 (Nat.le_of_lt bounds'.2)
  rw [turned.size] at length'
  apply List.ext_getElem?
  intro distance
  by_cases within : distance < first.size - start
  · rw [getElem?_unrolled inside' (by rw [turned.size]; exact within),
      getElem?_unrolled inside within, turned.size, ← turned_position inside]
    exact turned.bytes _ (contains_position inside distance)
  · rw [List.getElem?_eq_none (by omega), List.getElem?_eq_none (by omega)]

end Ring

end EventLog
