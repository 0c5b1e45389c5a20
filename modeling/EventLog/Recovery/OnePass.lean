import EventLog.Recovery
import EventLog.Ring.Position

/-!
# Recovery in one pass

What recovery is to find can be said without blocks, without a source and without parts of the file:
go over the offsets at which a record signature stands, in order, and take every record that starts
after the one taken last and has no byte that is accounted for. `onePass` says so of the bytes of a
file, and `accounted` of a single byte whether it is accounted for.
-/

namespace EventLog.Recovery

/-- The offsets of the region at which a record could start: its signature stands after four bytes
for its size. -/
def signedOffsets (data : Array UInt8) : List Nat :=
  (List.range (data.size + 1 - Ring.minimumDeclared)).filter fun offset =>
    Ring.start ≤ offset && (data.extract (offset + 4) (offset + 8)).toList == logSignature

/-- An offset at which a record could start leaves room for a size and the signature. -/
theorem mem_signedOffsets {data : Array UInt8} {offset : Nat} :
    offset ∈ signedOffsets data ↔
      offset + Ring.minimumDeclared ≤ data.size ∧ Ring.start ≤ offset ∧
        (data.extract (offset + 4) (offset + 8)).toList = logSignature := by
  simp only [signedOffsets, List.mem_filter, List.mem_range, Bool.and_eq_true, decide_eq_true_eq,
    beq_iff_eq, Ring.minimumDeclared]
  constructor
  · rintro ⟨low, rest⟩
    exact ⟨by omega, rest⟩
  · rintro ⟨low, rest⟩
    exact ⟨by omega, rest⟩

/-- An offset at which a record could start lies in the region. -/
theorem contains_of_mem_signedOffsets {data : Array UInt8} {offset : Nat}
    (signed : offset ∈ signedOffsets data) : Ring.contains ⟨data.size⟩ offset = true := by
  obtain ⟨room, low, -⟩ := mem_signedOffsets.mp signed
  rw [Ring.minimumDeclared] at room
  exact Ring.contains_iff.mpr ⟨low, Nat.lt_of_lt_of_le (by omega) room⟩

/-- The offsets at which records could start are in order. -/
theorem signedOffsets_sorted (data : Array UInt8) : (signedOffsets data).Pairwise (· < ·) :=
  List.Pairwise.filter _ List.pairwise_lt_range

/-- A byte of the file belongs to the header, to a record of the walk or to its end of file
record. -/
def accounted (ring : Ring) (scan : Scan) (byte : Nat) : Bool :=
  byte < Ring.start ||
    scan.records.any (fun record => ring.covers record.offset record.size.toNat byte) ||
    scan.sentinel.any fun found => ring.covers found.1 Sentinel.size byte

/-- No byte of a run of the region is accounted for. -/
def unaccounted (ring : Ring) (scan : Scan) (offset size : Nat) : Bool :=
  (List.range size).all fun distance => !accounted ring scan (ring.position offset distance)

/-- The event record at an offset, if neither the bytes that show its size and signature nor any
other of its bytes are accounted for. -/
def spare? (data : Array UInt8) (scan : Scan) (offset : Nat) : Option Record :=
  match Ring.foundAt data offset with
  | .ok (.event record) =>
    if unaccounted ⟨data.size⟩ scan offset Ring.minimumDeclared &&
        unaccounted ⟨data.size⟩ scan offset record.size.toNat then
      some record
    else none
  | _ => none

/-- Takes the spare records at offsets that lie at or after `resume`, each of which moves `resume`
to its own end. -/
def takeSpare (data : Array UInt8) (scan : Scan) :
    (offsets : List Nat) → (resume : Nat) → List Record
  | [], _ => []
  | offset :: rest, resume =>
    if offset < resume then takeSpare data scan rest resume
    else
      match spare? data scan offset with
      | none => takeSpare data scan rest resume
      | some record => record :: takeSpare data scan rest (offset + record.size.toNat)

/-- All records that the walk of a file left out. -/
def onePass (data : Array UInt8) (scan : Scan) : List Record :=
  takeSpare data scan (signedOffsets data) Ring.start

end EventLog.Recovery
