import EventLog.Error

/-!
# The end of file record

The records of a log end with 40 bytes that repeat where the records start and end. `decode` checks
the leading size before the length, then the four signatures in order, and the trailing size last.
-/

namespace EventLog

/-- What the end of file record says. -/
structure Sentinel where
  /-- Where the oldest record starts. -/
  firstRecordOffset : UInt32
  /-- Where the end of file record itself starts. -/
  sentinelOffset : UInt32
  /-- The number that the next record will get. -/
  nextRecordNumber : UInt32
  /-- The number of the oldest record. -/
  firstRecordNumber : UInt32
  deriving DecidableEq, Repr

namespace Sentinel

/-- The size of an end of file record, which its first and last word repeat. -/
def size : Nat := 40

/-- The signature at each of the four positions, counted from one: a byte that names the position,
four times. -/
def signature (position : Nat) : Bytes := List.replicate 4 (UInt8.ofNat (0x11 * position))

/-- The four bytes at the place of a signature. -/
def signatureIn (bytes : Bytes) (position : Nat) : Bytes := bytes.slice (4 * position) 4

/-- The bytes after the leading size are the first signature, so that these bytes are to be read as
an end of file record and not as an event record. -/
def isCandidate (bytes : Bytes) : Bool := signatureIn bytes 1 == signature 1

/-- The lowest position whose signature is wrong. -/
def wrongSignature? (bytes : Bytes) : Option Nat :=
  [1, 2, 3, 4].find? fun position => signatureIn bytes position != signature position

/-- The fields of an end of file record at their offsets. -/
def ofFields (bytes : Bytes) : Sentinel where
  firstRecordOffset := bytes.word32 20
  sentinelOffset := bytes.word32 24
  nextRecordNumber := bytes.word32 28
  firstRecordNumber := bytes.word32 32

/-- Reads an end of file record from the front of the bytes. -/
def decode (bytes : Bytes) : Except DecodeError Sentinel :=
  if bytes.length < 4 then .error (.truncated .sentinelSize 0 4 bytes.length)
  else if (bytes.word32 0).toNat ≠ size then
    .error (.sizeMismatch .sentinelSize size (bytes.word32 0).toNat)
  else if bytes.length < size then .error (.truncated .sentinel 0 size bytes.length)
  else match wrongSignature? bytes with
    | some position =>
      .error (.signatureMismatch (.sentinelSignature position) (signature position)
        (signatureIn bytes position))
    | none =>
      if (bytes.word32 36).toNat ≠ size then
        .error (.sizeMismatch .sentinelSizeCopy size (bytes.word32 36).toNat)
      else .ok (ofFields bytes)

/-- No signature is wrong if all four are right. -/
theorem wrongSignature?_eq_none_iff {bytes : Bytes} :
    wrongSignature? bytes = none ↔
      ∀ position ∈ [1, 2, 3, 4], signatureIn bytes position = signature position := by
  simp only [wrongSignature?, List.find?_eq_none, bne_iff_ne, ne_eq, Decidable.not_not]

/-- Bytes can be read as an end of file record if they are long enough, start and end with the right
size and have the four signatures between. -/
theorem decode_eq_ok_iff {bytes : Bytes} {sentinel : Sentinel} :
    decode bytes = .ok sentinel ↔
      size ≤ bytes.length ∧ (bytes.word32 0).toNat = size ∧
        (∀ position ∈ [1, 2, 3, 4], signatureIn bytes position = signature position) ∧
        (bytes.word32 36).toNat = size ∧ sentinel = ofFields bytes := by
  rw [← wrongSignature?_eq_none_iff]
  unfold decode
  by_cases short : bytes.length < 4
  · rw [if_pos short]
    exact ⟨nofun, fun h => absurd h.1 (by unfold size; omega)⟩
  · rw [if_neg short]
    by_cases other : (bytes.word32 0).toNat ≠ size
    · rw [if_pos other]
      exact ⟨nofun, fun h => absurd h.2.1 other⟩
    · rw [if_neg other]
      by_cases less : bytes.length < size
      · rw [if_pos less]
        exact ⟨nofun, fun h => absurd h.1 (by omega)⟩
      · rw [if_neg less]
        cases wrong : wrongSignature? bytes with
        | some position => exact ⟨nofun, fun h => nomatch h.2.2.1⟩
        | none =>
          by_cases copy : (bytes.word32 36).toNat ≠ size
          · simp only [if_pos copy]
            exact ⟨nofun, fun h => absurd h.2.2.2.1 copy⟩
          · simp only [if_neg copy, Except.ok.injEq]
            constructor
            · intro h
              have right := Decidable.not_not.mp other
              have repeated := Decidable.not_not.mp copy
              exact ⟨by omega, right, trivial, repeated, h.symm⟩
            · intro h
              exact h.2.2.2.2.symm

/-- Bytes that can be read as an end of file record look like one. -/
theorem isCandidate_of_decode {bytes : Bytes} {sentinel : Sentinel}
    (h : decode bytes = .ok sentinel) : isCandidate bytes = true := by
  have right := (decode_eq_ok_iff.mp h).2.2.1 1 (by decide)
  rw [isCandidate, right, beq_self_eq_true]

/-- Bytes with the signature of the file header and of event records do not look like an end of file
record. -/
theorem not_isCandidate_of_signature {bytes : Bytes} {other : Bytes} (h : bytes.slice 4 4 = other)
    (apart : other ≠ signature 1) : isCandidate bytes = false := by
  rw [isCandidate, signatureIn, Nat.mul_one, h]
  exact beq_eq_false_iff_ne.mpr apart

/-- The bytes of an end of file record. -/
def encode (sentinel : Sentinel) : Bytes :=
  Bytes.ofNat 4 size ++ signature 1 ++ signature 2 ++ signature 3 ++ signature 4 ++
    Bytes.ofWord32 sentinel.firstRecordOffset ++ Bytes.ofWord32 sentinel.sentinelOffset ++
    Bytes.ofWord32 sentinel.nextRecordNumber ++ Bytes.ofWord32 sentinel.firstRecordNumber ++
    Bytes.ofNat 4 size

/-- An end of file record takes as many bytes as it declares. -/
@[simp] theorem length_encode (sentinel : Sentinel) : sentinel.encode.length = size := by
  simp only [encode, signature, Bytes.ofWord32, List.length_append, Bytes.length_ofNat,
    List.length_replicate, size]

end Sentinel

end EventLog
