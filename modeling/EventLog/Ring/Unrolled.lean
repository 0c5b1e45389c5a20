import EventLog.Ring
import EventLog.Source.Harmless

/-!
# The ring as one run of bytes

Seen from an offset, the region of records is one run of bytes: all from the offset to the end of
the file, and then all from the end of the header to the offset. A run of the ring is a front part
of that (`readBytes_of_harmless`), whether or not it wraps around, and what can be read at an offset
depends on that run alone (`readFound_of_harmless`).
-/

namespace EventLog.Ring

/-- The bytes of the region in the order in which they follow an offset. -/
def unrolled (data : Array UInt8) (offset : Nat) : Bytes :=
  (data.extract offset data.size).toList ++ (data.extract start offset).toList

/-- The region has as many bytes as the file less its header, from wherever it is seen. -/
theorem length_unrolled {data : Array UInt8} {offset : Nat} (low : start ≤ offset)
    (high : offset ≤ data.size) : (unrolled data offset).length = data.size - start := by
  simp only [unrolled, List.length_append, Array.length_toList, Array.size_extract]
  omega

/-- A run that does not wrap around is a front part of the ring. -/
theorem take_unrolled_of_le {data : Array UInt8} {offset size : Nat}
    (h : offset + size ≤ data.size) :
    (unrolled data offset).take size = (data.extract offset (offset + size)).toList := by
  unfold unrolled
  rw [List.take_append_of_le_length
    (by simp only [Array.length_toList, Array.size_extract]; omega)]
  simp only [Array.toList_extract, List.extract_eq_take_drop, List.take_take]
  congr 1
  omega

/-- A run that wraps around is a front part of the ring. -/
theorem take_unrolled_of_lt {data : Array UInt8} {offset size : Nat} (inside : offset ≤ data.size)
    (wraps : data.size < offset + size) (fits : size ≤ data.size - start) :
    (unrolled data offset).take size =
      (data.extract offset data.size).toList ++
        (data.extract start (start + (size - (data.size - offset)))).toList := by
  unfold unrolled
  rw [List.take_append]
  simp only [Array.length_toList, Array.size_extract, Nat.min_self]
  congr 1
  · rw [List.take_of_length_le]
    simp only [Array.length_toList, Array.size_extract]
    omega
  · simp only [Array.toList_extract, List.extract_eq_take_drop, List.take_take]
    congr 1
    omega

/-- A run of the ring, read from a source that does no harm, is a front part of the ring. -/
theorem readBytes_of_harmless {ring : Ring} {source : Source} (h : source.plan.Harmless)
    (whole : ring.fileEnd = source.data.size) {offset size : Nat}
    (inside : ring.contains offset = true) (fits : size ≤ ring.size) :
    (ring.readBytes source offset size).1 = .ok ((unrolled source.data offset).take size) ∧
      (ring.readBytes source offset size).2.Agrees source := by
  have bounds : start ≤ offset ∧ offset < source.data.size := by
    simpa [contains, whole] using inside
  have room : size ≤ source.data.size - start := by simpa [Ring.size, whole] using fits
  unfold readBytes
  rw [if_neg (by simp [inside, fits])]
  simp only [whole]
  obtain ⟨front, kept⟩ := Source.readPiece_of_harmless source h .ringRecord offset
    (min (source.data.size - offset) size)
  rw [if_neg (by omega)] at front
  cases reads : source.readPiece source.data.size .ringRecord offset
      (min (source.data.size - offset) size) with
  | mk outcome after =>
    rw [reads] at front kept
    subst front
    by_cases wraps : min (source.data.size - offset) size < size
    · simp only [if_pos wraps]
      have same : after.data.size = source.data.size := congrArg Array.size kept.1
      obtain ⟨back, kept'⟩ := Source.readPiece_of_harmless after (kept.harmless h) .wrappedRecord
        start (size - min (source.data.size - offset) size)
      rw [same, if_neg (by omega)] at back
      rw [same] at kept'
      cases again : after.readPiece source.data.size .wrappedRecord start
          (size - min (source.data.size - offset) size) with
      | mk outcome last =>
        rw [again] at back kept'
        subst back
        refine ⟨?_, kept'.trans kept⟩
        rw [take_unrolled_of_lt (by omega) (by omega) room, kept.1,
          show offset + min (source.data.size - offset) size = source.data.size by omega,
          show size - min (source.data.size - offset) size =
            size - (source.data.size - offset) by omega]
    · simp only [if_neg wraps]
      refine ⟨?_, kept⟩
      rw [take_unrolled_of_le (by omega), show min (source.data.size - offset) size = size by omega]

/-- What the bytes that follow an offset hold: their first word is a size, and a record of that size
must fit into the region. -/
def foundAt (data : Array UInt8) (offset : Nat) : Except DecodeError Found :=
  let bytes := unrolled data offset
  let size := (bytes.word32 0).toNat
  if size < minimumDeclared ∨ data.size - start < size then
    .error (.outOfBounds .declaredSize offset size (data.size - start))
  else Found.decode offset (bytes.take size)

/-- A record, read from a source that does no harm, is what the bytes at its offset hold. -/
theorem readFound_of_harmless {ring : Ring} {source : Source} (h : source.plan.Harmless)
    (whole : ring.fileEnd = source.data.size) (room : 4 ≤ ring.size) {offset : Nat}
    (inside : ring.contains offset = true) :
    (ring.readFound source offset).1 = foundAt source.data offset ∧
      (ring.readFound source offset).2.Agrees source := by
  have total : ring.size = source.data.size - start := by rw [Ring.size, whole]
  obtain ⟨word, kept⟩ := readBytes_of_harmless h whole inside room
  have front : Bytes.word32 ((unrolled source.data offset).take 4) 0 =
      (unrolled source.data offset).word32 0 := Bytes.word32_take (Nat.le_refl 4)
  unfold readFound foundAt
  cases reads : ring.readBytes source offset 4 with
  | mk outcome after =>
    rw [reads] at word kept
    subst word
    simp only [front, total]
    by_cases bad : ((unrolled source.data offset).word32 0).toNat < minimumDeclared ∨
        source.data.size - start < ((unrolled source.data offset).word32 0).toNat
    · rw [if_pos bad, if_pos (by simpa using bad)]
      exact ⟨rfl, kept⟩
    · rw [if_neg bad, if_neg (by simpa using bad)]
      have same : after.data = source.data := kept.1
      obtain ⟨bytes, kept'⟩ := readBytes_of_harmless (kept.harmless h) (by rw [whole, same]) inside
        (show ((unrolled source.data offset).word32 0).toNat ≤ ring.size by omega)
      cases again : ring.readBytes after offset ((unrolled source.data offset).word32 0).toNat with
      | mk outcome last =>
        rw [again] at bytes kept'
        subst bytes
        rw [same]
        exact ⟨rfl, kept'.trans kept⟩

/-- What a read that cannot fail finds at an offset of the region: what the bytes hold, unless the
region has no room for a size. -/
def readAt (data : Array UInt8) (offset : Nat) : Except DecodeError Found :=
  if data.size - start < 4 then .error (.outOfBounds .ring offset 4 data.size)
  else foundAt data offset

/-- Looking for a record in a source that does no harm finds that. -/
theorem readFound_eq_readAt {data : Array UInt8} {source : Source} (same : source.data = data)
    (h : source.plan.Harmless) {offset : Nat} (inside : contains ⟨data.size⟩ offset = true) :
    (readFound ⟨data.size⟩ source offset).1 = readAt data offset ∧
      (readFound ⟨data.size⟩ source offset).2.Agrees source := by
  subst same
  unfold readAt
  by_cases small : source.data.size - start < 4
  · have short : readBytes ⟨source.data.size⟩ source offset 4 =
        (.error (.outOfBounds .ring offset 4 source.data.size), source) := by
      have less : Ring.size ⟨source.data.size⟩ < 4 := small
      rw [readBytes, if_pos (by rw [decide_eq_true less, Bool.or_true])]
    rw [if_pos small]
    unfold readFound
    rw [short]
    exact ⟨rfl, rfl, rfl, rfl⟩
  · rw [if_neg small]
    have whole : (⟨source.data.size⟩ : Ring).fileEnd = source.data.size := rfl
    exact readFound_of_harmless h whole (Nat.le_of_not_lt small) inside

end EventLog.Ring
