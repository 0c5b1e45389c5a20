import EventLog.Ring.Position

/-!
# Files whose ring is filled

A log writer fills the ring from some offset on, past the end of the file and on after the header.
`filled` is the file that has then been written: its first bytes are those of the header
(`extract_filled`), and what was written lies in its ring (`lies_filled`).
-/

namespace EventLog

/-- A header takes as many bytes as it declares. -/
theorem Header.length_encode (header : Header) : header.encode.length = Header.size := by
  simp only [Header.encode, Header.size, Bytes.ofWord32, logSignature, List.length_append,
    Bytes.length_ofNat, List.length_cons, List.length_nil]

namespace Ring

/-- A file whose ring is filled by some bytes, from an offset on. -/
def filled (header : Header) (offset : Nat) (bytes : Bytes) : Array UInt8 :=
  let front := start + bytes.length - offset
  (header.encode ++ (bytes.drop front ++ bytes.take front)).toArray

variable {header : Header} {offset : Nat} {bytes : Bytes}

/-- The bytes take all of the file but its header. -/
theorem size_filled : (filled header offset bytes).size = start + bytes.length := by
  rw [filled, List.size_toArray, List.length_append, header.length_encode, List.length_append,
    List.length_drop, List.length_take, start]
  omega

/-- The file starts with the bytes of its header. -/
theorem extract_filled :
    ((filled header offset bytes).extract 0 Header.size).toList = header.encode := by
  have length := header.length_encode
  rw [filled, Array.toList_extract, List.extract_eq_take_drop, List.drop_zero, Nat.sub_zero,
    ← length, List.take_left]

/-- The bytes lie in the ring from the offset on. -/
theorem lies_filled (inside : contains ⟨start + bytes.length⟩ offset = true) :
    Lies (filled header offset bytes) offset bytes := by
  have bounds : start ≤ offset ∧ offset < start + bytes.length := contains_iff.mp inside
  have length : header.encode.length = start := header.length_encode
  have back : (bytes.drop (start + bytes.length - offset)).length = offset - start := by
    rw [List.length_drop]
    omega
  rw [Lies, size_filled]
  refine ⟨by omega, ?_⟩
  intro distance within
  rw [filled, List.getElem?_toArray]
  by_cases past : start + bytes.length ≤ offset + distance
  · rw [position_of_ge inside past (by rw [size_mk]; omega)]
    dsimp only
    rw [List.getElem?_append_right (by omega), length, List.getElem?_append_left (by omega),
      List.getElem?_drop]
    congr 1
    omega
  · rw [position_of_lt inside (Nat.lt_of_not_le past)]
    rw [List.getElem?_append_right (by omega), length, List.getElem?_append_right (by omega), back,
      List.getElem?_take_of_lt (by omega)]
    congr 1
    omega

/-- The bytes lie in the ring, if the offset lies in the region that the length of the file
leaves. -/
theorem lies_filled_of_size {fileEnd : Nat} (length : (filled header offset bytes).size = fileEnd)
    (inside : contains ⟨fileEnd⟩ offset = true) :
    Lies (filled header offset bytes) offset bytes := by
  rw [size_filled] at length
  subst length
  exact lies_filled inside

end Ring

end EventLog
