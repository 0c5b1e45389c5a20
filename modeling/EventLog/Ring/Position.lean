import EventLog.Ring.Unrolled

/-!
# Positions on the ring

The byte at a distance after an offset stands at a position that only the region decides: the walk
steps on by `next`, a read is cut into `spans`, and a file is seen as one run by `unrolled`, but all
three speak of the same positions. `next_eq_position`, `mem_spans_iff` and `getElem?_unrolled` say
so.
-/

namespace EventLog.Ring

/-- Where the byte at a distance after an offset stands. -/
def position (ring : Ring) (offset distance : Nat) : Nat :=
  start + (offset - start + distance) % ring.size

/-- A byte of the file is one of a run of bytes of the region. -/
def covers (ring : Ring) (offset size byte : Nat) : Bool :=
  (List.range size).any fun distance => ring.position offset distance == byte

/-- The bytes lie in the region of a file from an offset on, one position after the other. -/
def Lies (data : Array UInt8) (offset : Nat) (bytes : Bytes) : Prop :=
  bytes.length ≤ data.size - start ∧
    ∀ distance < bytes.length,
      data[position ⟨data.size⟩ offset distance]? = bytes[distance]?

variable {ring : Ring} {offset : Nat}

/-- The region takes all of the file but its header. -/
theorem size_mk (fileEnd : Nat) : size ⟨fileEnd⟩ = fileEnd - start := rfl

/-- An offset lies in the region if it comes after the header and before the end of the file. -/
theorem contains_iff : ring.contains offset = true ↔ start ≤ offset ∧ offset < ring.fileEnd := by
  simp only [contains, Bool.and_eq_true, decide_eq_true_eq]

/-- A region that contains an offset is not empty. -/
theorem size_pos (inside : ring.contains offset = true) : 0 < ring.size := by
  have bounds := contains_iff.mp inside
  unfold size
  omega

/-- From an offset in the region every distance leads into the region. -/
theorem contains_position (inside : ring.contains offset = true) (distance : Nat) :
    ring.contains (ring.position offset distance) = true := by
  have below := Nat.mod_lt (offset - start + distance) (size_pos inside)
  have total : ring.size = ring.fileEnd - start := rfl
  rw [contains_iff]
  unfold position
  omega

/-- A position is the plain sum as long as that stays within the file. -/
theorem position_of_lt (inside : ring.contains offset = true) {distance : Nat}
    (within : offset + distance < ring.fileEnd) :
    ring.position offset distance = offset + distance := by
  have bounds := contains_iff.mp inside
  have total : ring.size = ring.fileEnd - start := rfl
  unfold position
  rw [Nat.mod_eq_of_lt (by omega)]
  omega

/-- Past the end of the file a position counts on from the end of the header. -/
theorem position_of_ge (inside : ring.contains offset = true) {distance : Nat}
    (past : ring.fileEnd ≤ offset + distance) (fits : distance ≤ ring.size) :
    ring.position offset distance = start + (offset + distance - ring.fileEnd) := by
  have bounds := contains_iff.mp inside
  have total : ring.size = ring.fileEnd - start := rfl
  unfold position
  rw [Nat.mod_eq_sub_mod (by omega), Nat.mod_eq_of_lt (by omega)]
  omega

/-- No distance leads to the offset itself. -/
theorem position_zero (inside : ring.contains offset = true) : ring.position offset 0 = offset := by
  have bounds := contains_iff.mp inside
  exact position_of_lt inside (by omega)

/-- Distances add up, however often they lead around. -/
theorem position_position (first second : Nat) :
    ring.position (ring.position offset first) second = ring.position offset (first + second) := by
  unfold position
  rw [Nat.add_sub_cancel_left, Nat.mod_add_mod, Nat.add_assoc]

/-- Within one turn different distances lead to different positions. -/
theorem position_injective (inside : ring.contains offset = true) {first second : Nat}
    (hf : first < ring.size) (hs : second < ring.size)
    (same : ring.position offset first = ring.position offset second) : first = second := by
  have bounds := contains_iff.mp inside
  have total : ring.size = ring.fileEnd - start := rfl
  by_cases pf : ring.fileEnd ≤ offset + first <;> by_cases ps : ring.fileEnd ≤ offset + second
  · rw [position_of_ge inside pf (by omega), position_of_ge inside ps (by omega)] at same
    omega
  · rw [position_of_ge inside pf (by omega), position_of_lt inside (by omega)] at same
    omega
  · rw [position_of_lt inside (by omega), position_of_ge inside ps (by omega)] at same
    omega
  · rw [position_of_lt inside (by omega), position_of_lt inside (by omega)] at same
    omega

/-- The walk steps on to the position at the distance of one record. -/
theorem next_eq_position (inside : ring.contains offset = true) {size : Nat}
    (fits : size ≤ ring.size) : ring.next offset size = ring.position offset size := by
  unfold next
  by_cases past : ring.fileEnd ≤ offset + size
  · rw [if_pos past, position_of_ge inside past fits]
  · rw [if_neg past, position_of_lt inside (by omega)]

/-- A byte belongs to a run if some distance within the run leads to it. -/
theorem covers_iff {size byte : Nat} :
    ring.covers offset size byte = true ↔
      ∃ distance < size, ring.position offset distance = byte := by
  simp only [covers, List.any_eq_true, List.mem_range, beq_iff_eq]

/-- A run that does not wrap around has the bytes between its two ends. -/
theorem covers_iff_of_le (inside : ring.contains offset = true) {size byte : Nat}
    (straight : offset + size ≤ ring.fileEnd) :
    ring.covers offset size byte = true ↔ offset ≤ byte ∧ byte < offset + size := by
  rw [covers_iff]
  constructor
  · rintro ⟨distance, within, rfl⟩
    rw [position_of_lt inside (by omega)]
    omega
  · rintro ⟨low, high⟩
    refine ⟨byte - offset, by omega, ?_⟩
    rw [position_of_lt inside (by omega)]
    omega

/-- A run that wraps around has the bytes to the end of the file and the rest after the header. -/
theorem covers_iff_of_gt (inside : ring.contains offset = true) {size byte : Nat}
    (wraps : ring.fileEnd < offset + size) (fits : size ≤ ring.size) :
    ring.covers offset size byte = true ↔
      (offset ≤ byte ∧ byte < ring.fileEnd) ∨
        (start ≤ byte ∧ byte < start + (offset + size - ring.fileEnd)) := by
  rw [covers_iff]
  constructor
  · rintro ⟨distance, within, rfl⟩
    by_cases past : ring.fileEnd ≤ offset + distance
    · rw [position_of_ge inside past (by omega)]
      omega
    · rw [position_of_lt inside (by omega)]
      omega
  · rintro (⟨low, high⟩ | ⟨low, high⟩)
    · refine ⟨byte - offset, by omega, ?_⟩
      rw [position_of_lt inside (by omega)]
      omega
    · have bounds := contains_iff.mp inside
      have total : ring.size = ring.fileEnd - start := rfl
      refine ⟨ring.fileEnd - offset + (byte - start), by omega, ?_⟩
      rw [position_of_ge inside (by omega) (by omega)]
      omega

/-- Of two runs that are not empty, the first of which ends before the second starts, the second
shares no byte with the first just if it does not reach around to it. -/
theorem covers_disjoint_iff {other first second : Nat} (inside : ring.contains offset = true)
    (inside' : ring.contains other = true) (some : 0 < first) (before : offset + first ≤ other)
    (fits : second ≤ ring.size) :
    (∀ byte, ring.covers offset first byte = true → ring.covers other second byte = false) ↔
      other + second ≤ offset + ring.size := by
  have bounds := contains_iff.mp inside
  have bounds' := contains_iff.mp inside'
  have total : ring.size = ring.fileEnd - start := rfl
  have ends : offset + first ≤ ring.fileEnd := by omega
  have front (byte : Nat) : ring.covers offset first byte = true ↔
      offset ≤ byte ∧ byte < offset + first := covers_iff_of_le inside ends
  simp only [front, ← Bool.not_eq_true]
  by_cases straight : other + second ≤ ring.fileEnd
  · have back (byte : Nat) : ring.covers other second byte = true ↔
        other ≤ byte ∧ byte < other + second := covers_iff_of_le inside' straight
    simp only [back]
    constructor
    · intro _
      omega
    · intro _ byte near
      omega
  · have back (byte : Nat) : ring.covers other second byte = true ↔
        (other ≤ byte ∧ byte < ring.fileEnd) ∨
          (start ≤ byte ∧ byte < start + (other + second - ring.fileEnd)) :=
      covers_iff_of_gt inside' (by omega) fits
    simp only [back]
    constructor
    · intro apart
      -- The first byte of the first run is the one that the second run reaches first.
      have edge := apart offset ⟨Nat.le_refl offset, by omega⟩
      omega
    · intro short byte near
      omega

/-- The parts of the file that a run takes hold just the bytes of the run. -/
theorem mem_spans_iff (inside : ring.contains offset = true) {size : Nat}
    (fits : size ≤ ring.size) (byte : Nat) :
    (∃ span ∈ ring.spans offset size, span.start ≤ byte ∧ byte < span.stop) ↔
      ring.covers offset size byte = true := by
  unfold spans
  by_cases straight : offset + size ≤ ring.fileEnd
  · rw [if_pos straight, covers_iff_of_le inside straight]
    simp only [List.mem_singleton, exists_eq_left]
  · rw [if_neg straight, covers_iff_of_gt inside (by omega) fits]
    simp only [List.mem_cons, List.not_mem_nil, or_false, exists_eq_or_imp, exists_eq_left]

/-- No part of the file that a run takes is empty, unless the run is. -/
theorem start_lt_stop_of_mem_spans (inside : ring.contains offset = true) {size : Nat}
    (some : 0 < size) {span : Span} (part : span ∈ ring.spans offset size) :
    span.start < span.stop := by
  have bounds := contains_iff.mp inside
  unfold spans at part
  by_cases straight : offset + size ≤ ring.fileEnd
  · rw [if_pos straight, List.mem_singleton] at part
    subst part
    dsimp only
    omega
  · rw [if_neg straight] at part
    rcases List.mem_cons.mp part with rfl | part
    · exact bounds.2
    · rw [List.mem_singleton] at part
      subst part
      dsimp only
      omega

variable {data : Array UInt8}

/-- Seen from an offset, the byte at a distance is the one at its position. -/
theorem getElem?_unrolled (inside : contains ⟨data.size⟩ offset = true) {distance : Nat}
    (within : distance < data.size - start) :
    (unrolled data offset)[distance]? = data[position ⟨data.size⟩ offset distance]? := by
  have bounds : start ≤ offset ∧ offset < data.size := contains_iff.mp inside
  have front : (data.extract offset data.size).toList.length = data.size - offset := by
    simp only [Array.length_toList, Array.size_extract, Nat.min_self]
  unfold unrolled
  by_cases past : data.size ≤ offset + distance
  · rw [position_of_ge inside past (Nat.le_of_lt within)]
    rw [List.getElem?_append_right (by omega), front]
    rw [Array.getElem?_toList, Array.getElem?_extract, if_pos (by omega)]
    congr 1
    dsimp only
    omega
  · rw [position_of_lt inside (Nat.lt_of_not_le past)]
    rw [List.getElem?_append_left (by omega)]
    rw [Array.getElem?_toList, Array.getElem?_extract, if_pos (by omega)]

/-- Bytes lie in the region from an offset on if they are a front part of it, seen from there. -/
theorem take_unrolled_of_lies (inside : contains ⟨data.size⟩ offset = true) {bytes : Bytes}
    (lies : Lies data offset bytes) : (unrolled data offset).take bytes.length = bytes := by
  have bounds : start ≤ offset ∧ offset < data.size := contains_iff.mp inside
  have total := length_unrolled bounds.1 (Nat.le_of_lt bounds.2)
  apply List.ext_getElem?
  intro distance
  by_cases within : distance < bytes.length
  · have near := Nat.lt_of_lt_of_le within lies.1
    rw [List.getElem?_take_of_lt within, getElem?_unrolled inside near]
    exact lies.2 distance within
  · rw [List.getElem?_eq_none (by rw [List.length_take]; omega),
      List.getElem?_eq_none (Nat.le_of_not_lt within)]

/-- Of bytes that lie one after the other, the second lie from the end of the first on. -/
theorem Lies.of_append {first second : Bytes} (lies : Lies data offset (first ++ second)) :
    Lies data offset first ∧ Lies data (position ⟨data.size⟩ offset first.length) second := by
  have total : (first ++ second).length = first.length + second.length := List.length_append
  have room := lies.1
  constructor
  · refine ⟨by omega, ?_⟩
    intro distance within
    rw [lies.2 distance (by omega), List.getElem?_append_left within]
  · refine ⟨by omega, ?_⟩
    intro distance within
    rw [position_position, lies.2 _ (by omega), List.getElem?_append_right (by omega),
      Nat.add_sub_cancel_left]

end EventLog.Ring
