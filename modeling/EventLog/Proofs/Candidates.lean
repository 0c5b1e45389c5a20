import EventLog.Recovery.OnePass

/-!
# Which offsets the blocks of a recovery pass offer

A block of the file offers the offsets whose signature starts in its own share, which leaves out the
bytes that it has in common with the next block (`candidates_eq_share`). Shares of neighbouring
blocks join to one (`share_append`), so that all blocks together offer every offset at which a
signature stands, in order and once (`offered_eq_signedOffsets`).
-/

namespace EventLog.Recovery

open EventLog.Ring

/-- Two lists in ascending order are equal if they have the same members. -/
theorem eq_of_sorted_of_mem_iff {first second : List Nat} (hf : first.Pairwise (· < ·))
    (hs : second.Pairwise (· < ·)) (same : ∀ n, n ∈ first ↔ n ∈ second) : first = second := by
  have permuted : first.Perm second :=
    (List.perm_ext_iff_of_nodup (hf.imp Nat.ne_of_lt) (hs.imp Nat.ne_of_lt)).mpr (same ·)
  refine permuted.eq_of_pairwise ?_ hf hs
  intro a b _ _ ab ba
  omega

/-- The pattern occurs at a position just if it stands in front of what follows there. -/
theorem mem_occurrences {pattern bytes : Bytes} {position place : Nat} :
    place ∈ occurrences pattern bytes position ↔
      ∃ index < bytes.length, place = position + index ∧ pattern <+: bytes.drop index := by
  induction bytes generalizing position with
  | nil => simp only [occurrences, List.not_mem_nil, List.length_nil, Nat.not_lt_zero, false_and,
      exists_false]
  | cons b rest ih =>
    have later : place ∈ occurrences pattern rest (position + 1) ↔
        ∃ index < rest.length, place = position + (index + 1) ∧
          pattern <+: (b :: rest).drop (index + 1) := by
      rw [ih]
      simp only [List.drop_succ_cons, Nat.add_assoc, Nat.add_comm 1]
    have split : (∃ index < (b :: rest).length, place = position + index ∧
          pattern <+: (b :: rest).drop index) ↔
        (place = position ∧ pattern <+: b :: rest) ∨
          place ∈ occurrences pattern rest (position + 1) := by
      rw [later]
      constructor
      · rintro ⟨index, within, stands⟩
        cases index with
        | zero => exact .inl stands
        | succ index => exact .inr ⟨index, Nat.lt_of_succ_lt_succ within, stands⟩
      · rintro (stands | ⟨index, within, stands⟩)
        · exact ⟨0, Nat.zero_lt_succ _, stands⟩
        · exact ⟨index + 1, Nat.succ_lt_succ within, stands⟩
    rw [split, occurrences, ← List.isPrefixOf_iff_prefix]
    by_cases here : pattern.isPrefixOf (b :: rest) = true
    · rw [if_pos here, List.mem_cons]
      simp only [here, and_true]
    · rw [if_neg here]
      simp only [here, Bool.false_eq_true, and_false, false_or]

/-- Occurrences come in ascending order. -/
theorem occurrences_sorted (pattern bytes : Bytes) (position : Nat) :
    (occurrences pattern bytes position).Pairwise (· < ·) := by
  induction bytes generalizing position with
  | nil => exact .nil
  | cons b rest ih =>
    unfold occurrences
    split
    · refine .cons ?_ (ih (position + 1))
      intro place member
      obtain ⟨index, -, same, -⟩ := mem_occurrences.mp member
      omega
    · exact ih (position + 1)

/-- The offsets whose signature starts at or after one position and before another. -/
def share (data : Array UInt8) (low high : Nat) : List Nat :=
  (signedOffsets data).filter fun offset => low ≤ offset + 4 && offset + 4 < high

/-- An offset is in a share if a signature stands there and starts between the two positions. -/
theorem mem_share {data : Array UInt8} {low high offset : Nat} :
    offset ∈ share data low high ↔
      offset ∈ signedOffsets data ∧ low ≤ offset + 4 ∧ offset + 4 < high := by
  simp only [share, List.mem_filter, Bool.and_eq_true, decide_eq_true_eq]

/-- The offsets of a share come in ascending order. -/
theorem share_sorted (data : Array UInt8) (low high : Nat) :
    (share data low high).Pairwise (· < ·) := (signedOffsets_sorted data).filter _

/-- Neighbouring shares join to one. -/
theorem share_append {data : Array UInt8} {low middle high : Nat} (hl : low ≤ middle)
    (hh : middle ≤ high) :
    share data low middle ++ share data middle high = share data low high := by
  refine eq_of_sorted_of_mem_iff ?_ (share_sorted data low high) ?_
  · rw [List.pairwise_append]
    refine ⟨share_sorted data low middle, share_sorted data middle high, ?_⟩
    intro first hf second hs
    have before := (mem_share.mp hf).2.2
    have after := (mem_share.mp hs).2.1
    omega
  · intro offset
    rw [List.mem_append, mem_share, mem_share, mem_share]
    constructor
    · rintro (⟨signed, bounds⟩ | ⟨signed, bounds⟩)
      · exact ⟨signed, by omega⟩
      · exact ⟨signed, by omega⟩
    · rintro ⟨signed, bounds⟩
      by_cases before : offset + 4 < middle
      · exact .inl ⟨signed, bounds.1, before⟩
      · exact .inr ⟨signed, by omega⟩

/-- An empty range has an empty share. -/
theorem share_empty {data : Array UInt8} (low : Nat) : share data low low = [] := by
  rw [List.eq_nil_iff_forall_not_mem]
  intro offset member
  have bounds := (mem_share.mp member).2
  omega

/-- From the end of the header to the end of the file every offset with a signature is in the
share. -/
theorem share_whole {data : Array UInt8} {high : Nat} (whole : data.size ≤ high) :
    share data start high = signedOffsets data := by
  rw [share, List.filter_eq_self]
  intro offset signed
  obtain ⟨room, low, -⟩ := mem_signedOffsets.mp signed
  rw [minimumDeclared] at room
  rw [Bool.and_eq_true, decide_eq_true_eq, decide_eq_true_eq]
  omega

/-- The signature stands in a piece of a file just if it stands there in the file and ends before
the piece does. -/
theorem signature_in_piece {data : Array UInt8} {low size index : Nat} :
    logSignature <+: ((data.extract low (low + size)).toList).drop index ↔
      (data.extract (low + index) (low + index + 4)).toList = logSignature ∧ index + 4 ≤ size := by
  have length : logSignature.length = 4 := rfl
  rw [List.prefix_iff_eq_take, length]
  simp only [Array.toList_extract, List.extract_eq_take_drop]
  rw [List.drop_take, List.take_take, List.drop_drop,
    show low + index + 4 - (low + index) = 4 by omega, show low + size - low = size by omega]
  constructor
  · intro stands
    have full := congrArg List.length stands
    rw [length, List.length_take] at full
    have room : index + 4 ≤ size := by omega
    rw [Nat.min_eq_left (by omega)] at stands
    exact ⟨stands.symm, room⟩
  · rintro ⟨stands, room⟩
    rw [Nat.min_eq_left (by omega)]
    exact stands.symm

/-- A block offers its offsets in ascending order. -/
theorem candidates_sorted (block : Bytes) (blockStart : Nat) :
    (candidates block blockStart).Pairwise (· < ·) := by
  unfold candidates
  rw [List.pairwise_map]
  have ordered := (occurrences_sorted logSignature block blockStart).filter (start + 4 ≤ ·)
  refine ordered.imp_of_mem ?_
  intro first second hf hs before
  have high := (List.mem_filter.mp hf).2
  rw [decide_eq_true_eq] at high
  omega

/-- A piece of a file offers an offset just if that lies in the ring and a signature stands four
bytes later in the piece. -/
theorem mem_candidates {data : Array UInt8} {blockStart size offset : Nat} :
    offset ∈ candidates (data.extract blockStart (blockStart + size)).toList blockStart ↔
      start ≤ offset ∧ blockStart ≤ offset + 4 ∧ offset + 8 ≤ blockStart + size ∧
        (data.extract (offset + 4) (offset + 8)).toList = logSignature := by
  unfold candidates
  simp only [List.mem_map, List.mem_filter, decide_eq_true_eq, mem_occurrences,
    signature_in_piece, Array.length_toList, Array.size_extract]
  constructor
  · rintro ⟨place, ⟨⟨index, -, rfl, stands, room⟩, high⟩, rfl⟩
    rw [show blockStart + index - 4 + 4 = blockStart + index by omega,
      show blockStart + index - 4 + 8 = blockStart + index + 4 by omega]
    exact ⟨by omega, by omega, by omega, stands⟩
  · rintro ⟨inside, above, room, stands⟩
    have full := congrArg List.length stands
    rw [Array.length_toList, Array.size_extract, show logSignature.length = 4 from rfl] at full
    refine ⟨offset + 4, ⟨⟨offset + 4 - blockStart, by omega, by omega, ?_, by omega⟩, by omega⟩,
      by omega⟩
    rw [show blockStart + (offset + 4 - blockStart) = offset + 4 by omega]
    exact stands

/-- A block offers the offsets of its share. -/
theorem candidates_eq_share {data : Array UInt8} {blockStart : Nat} :
    candidates (data.extract blockStart (blockStart + blockSize ⟨data.size⟩ blockStart)).toList
        blockStart = share data blockStart (blockStart + blockStep) := by
  have size : blockSize ⟨data.size⟩ blockStart = min (blockStep + 3) (data.size - blockStart) := rfl
  refine eq_of_sorted_of_mem_iff (candidates_sorted _ _) (share_sorted _ _ _) ?_
  intro offset
  rw [mem_candidates, mem_share, mem_signedOffsets, minimumDeclared]
  constructor
  · rintro ⟨inside, above, room, stands⟩
    exact ⟨⟨by omega, inside, stands⟩, above, by omega⟩
  · rintro ⟨⟨room, inside, stands⟩, above, below⟩
    exact ⟨inside, above, by omega, stands⟩

/-- The blocks of a ring reach to the end of the file. -/
theorem size_le_blockCount (fileEnd : Nat) :
    fileEnd ≤ start + blockCount ⟨fileEnd⟩ * blockStep := by
  have count : blockCount ⟨fileEnd⟩ = (fileEnd - start + (blockStep - 1)) / blockStep := rfl
  rw [count, blockStep]
  omega

/-- The offsets that the blocks of a ring offer, block by block. -/
def offered (data : Array UInt8) : List Nat :=
  (List.range (blockCount ⟨data.size⟩)).flatMap fun block =>
    let blockStart := start + block * blockStep
    candidates (data.extract blockStart (blockStart + blockSize ⟨data.size⟩ blockStart)).toList
      blockStart

/-- All blocks together offer the offsets at which a signature stands, in order and once. -/
theorem offered_eq_signedOffsets (data : Array UInt8) : offered data = signedOffsets data := by
  have shares (blocks : Nat) : (List.range blocks).flatMap (fun block =>
      share data (start + block * blockStep) (start + block * blockStep + blockStep)) =
        share data start (start + blocks * blockStep) := by
    induction blocks with
    | zero => rw [Nat.zero_mul, Nat.add_zero, share_empty, List.range_zero, List.flatMap_nil]
    | succ blocks ih =>
      rw [List.range_succ, List.flatMap_append, ih, List.flatMap_singleton,
        share_append (Nat.le_add_right _ _) (Nat.le_add_right _ _), Nat.succ_mul, Nat.add_assoc]
  unfold offered
  simp only [candidates_eq_share]
  rw [shares, share_whole (size_le_blockCount data.size)]

end EventLog.Recovery
