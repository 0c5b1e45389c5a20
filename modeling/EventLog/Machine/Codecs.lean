import EventLog.Header
import EventLog.Machine.Cursor
import EventLog.Sentinel
import EventLog.Sid
import EventLog.StringTable.Ranges
import Mathlib.Data.List.Find

/-!
# Decoding the small structures on the machine

The file header, the end of file record, security identifiers and packed tables of strings, each
read step by step as a machine does it. On every byte string whose length is a word, the machine
comes to an end, with just what decoding delivers.
-/

namespace EventLog.Machine

open Decoding

variable {bytes : Bytes}

/-- Reads a header on the machine. -/
def decodeHeader (bytes : Bytes) : Decoding Header := do
  let front ← pieceAt .header bytes 0 Header.size
  let (size, cursor) ← Cursor.word32 ⟨front, 0⟩ .headerSize
  let (signature, cursor) ← cursor.take .headerSignature 4
  ensureSignature .headerSignature logSignature signature
  let (majorVersion, cursor) ← cursor.word32 .header
  let (minorVersion, cursor) ← cursor.word32 .header
  let (firstRecordOffset, cursor) ← cursor.word32 .header
  let (sentinelOffset, cursor) ← cursor.word32 .header
  let (nextRecordNumber, cursor) ← cursor.word32 .header
  let (firstRecordNumber, cursor) ← cursor.word32 .header
  let (maximumFileSize, cursor) ← cursor.word32 .header
  let (flags, cursor) ← cursor.word32 .header
  let (retention, cursor) ← cursor.word32 .header
  let (copy, _) ← cursor.word32 .headerSizeCopy
  ensureSize .headerSize Header.size size.toNat
  ensureSize .headerSizeCopy size.toNat copy.toNat
  return { majorVersion, minorVersion, firstRecordOffset, sentinelOffset, nextRecordNumber,
           firstRecordNumber, maximumFileSize, flags, retention }

/-- The machine reads every header as decoding does. -/
theorem decodeHeader_eq (bytes : Bytes) : decodeHeader bytes = ends (Header.decode bytes) := by
  have word (offset : Nat) (room : offset + 4 ≤ 48) :
      (bytes.slice 0 48).word32 offset = bytes.word32 offset := by
    rw [Bytes.word32, Bytes.slice_slice_zero room, Bytes.word32]
  unfold decodeHeader Header.decode
  rw [Header.size]
  by_cases short : bytes.length < 48
  · rw [if_pos short, pieceAt_eq_error (by omega), ends_error_bind]
    rfl
  · have length : (bytes.slice 0 48).length = 48 := by
      rw [Bytes.length_slice]
      omega
    have small : (bytes.slice 0 48).length < UInt64.size := by
      rw [length]
      decide
    rw [if_neg short, pieceAt_eq (by decide) (by omega), ends_ok_bind,
      Cursor.word32_eq small (by omega), ends_ok_bind]
    dsimp only
    rw [Cursor.take_eq small (by omega), ends_ok_bind]
    dsimp only
    rw [ensureSignature_bind, Bytes.slice_slice_zero (by omega)]
    split
    · rfl
    · iterate 10
        rw [Cursor.word32_eq small (by omega), ends_ok_bind]
        dsimp only
      simp (disch := decide) only [Nat.reduceAdd, word]
      rw [ensureSize_bind]
      split
      · rfl
      · rename_i same
        rw [Decidable.not_not.mp same, ensureSize_bind]
        split <;> rfl

/-- Reads signatures one after the other and checks each of them. -/
def signatures : List Nat → Cursor → Decoding Cursor
  | [], cursor => return cursor
  | position :: rest, cursor => do
    let (found, cursor) ← cursor.take (.sentinelSignature position) 4
    ensureSignature (.sentinelSignature position) (Sentinel.signature position) found
    signatures rest cursor

/-- Reads an end of file record on the machine. -/
def decodeSentinel (bytes : Bytes) : Decoding Sentinel := do
  let declared ← word32At .sentinelSize bytes 0
  ensureSize .sentinelSize Sentinel.size declared.toNat
  let front ← pieceAt .sentinel bytes 0 Sentinel.size
  let (size, cursor) ← Cursor.word32 ⟨front, 0⟩ .sentinelSize
  let cursor ← signatures [1, 2, 3, 4] cursor
  let (firstRecordOffset, cursor) ← cursor.word32 .sentinel
  let (sentinelOffset, cursor) ← cursor.word32 .sentinel
  let (nextRecordNumber, cursor) ← cursor.word32 .sentinel
  let (firstRecordNumber, cursor) ← cursor.word32 .sentinel
  let (copy, _) ← cursor.word32 .sentinelSizeCopy
  ensureSize .sentinelSizeCopy size.toNat copy.toNat
  return { firstRecordOffset, sentinelOffset, nextRecordNumber, firstRecordNumber }

/-- Signatures that are there are read up to the first that is wrong. -/
theorem signatures_eq (small : bytes.length < UInt64.size) {position number : Nat}
    (room : 4 * (position + number) ≤ bytes.length) :
    signatures (List.range' position number) ⟨bytes, 4 * position⟩ =
      match (List.range' position number).find? fun position =>
        Sentinel.signatureIn bytes position != Sentinel.signature position with
      | some wrong => ends (.error (.signatureMismatch (.sentinelSignature wrong)
          (Sentinel.signature wrong) (Sentinel.signatureIn bytes wrong)))
      | none => ends (.ok ⟨bytes, 4 * (position + number)⟩) := by
  induction number generalizing position with
  | zero => rfl
  | succ number ih =>
    rw [List.range'_succ, signatures, Cursor.take_eq small (by omega), ends_ok_bind,
      List.find?_cons]
    dsimp only
    rw [ensureSignature_bind]
    by_cases wrong : bytes.slice (4 * position) 4 ≠ Sentinel.signature position
    · have found : (Sentinel.signatureIn bytes position != Sentinel.signature position) = true :=
        bne_iff_ne.mpr wrong
      rw [if_pos wrong, found]
      rfl
    · have right :
          (Sentinel.signatureIn bytes position != Sentinel.signature position) = false := by
        rw [bne_eq_false_iff_eq]
        exact Decidable.not_not.mp wrong
      have later := @ih (position + 1) (by omega)
      rw [if_neg wrong, right, show 4 * position + 4 = 4 * (position + 1) by omega, later,
        show position + 1 + number = position + (number + 1) by omega]

/-- The machine reads every end of file record as decoding does. -/
theorem decodeSentinel_eq (bytes : Bytes) :
    decodeSentinel bytes = ends (Sentinel.decode bytes) := by
  have word (offset : Nat) (room : offset + 4 ≤ 40) :
      (bytes.slice 0 40).word32 offset = bytes.word32 offset := by
    rw [Bytes.word32, Bytes.slice_slice_zero room, Bytes.word32]
  unfold decodeSentinel Sentinel.decode
  rw [Sentinel.size]
  by_cases tiny : bytes.length < 4
  · rw [if_pos tiny, word32At, pieceAt_eq_error (by omega), ends_error_bind, ends_error_bind]
    rfl
  · rw [if_neg tiny, word32At_eq (by decide) (by omega), ends_ok_bind, ensureSize_bind]
    split
    · rfl
    · rename_i shown
      by_cases short : bytes.length < 40
      · rw [if_pos short, pieceAt_eq_error (by omega), ends_error_bind]
        rfl
      · have length : (bytes.slice 0 40).length = 40 := by
          rw [Bytes.length_slice]
          omega
        have small : (bytes.slice 0 40).length < UInt64.size := by
          rw [length]
          decide
        have wrong : ((List.range' 1 4).find? fun position =>
            Sentinel.signatureIn (bytes.slice 0 40) position != Sentinel.signature position) =
              Sentinel.wrongSignature? bytes := by
          unfold Sentinel.wrongSignature? Sentinel.signatureIn
          refine List.find?_congr ?_
          intro position member
          have last := (List.mem_range'_1.mp member).2
          rw [Bytes.slice_slice_zero (by omega)]
        have signed := @signatures_eq _ small 1 4 (by omega)
        rw [if_neg short, pieceAt_eq (by decide) (by omega), ends_ok_bind,
          Cursor.word32_eq small (by omega), ends_ok_bind]
        dsimp only
        rw [show [1, 2, 3, 4] = List.range' 1 4 from rfl, show 0 + 4 = 4 * 1 from rfl, signed,
          wrong]
        cases found : Sentinel.wrongSignature? bytes with
        | some position =>
          have last := (List.mem_range'_1.mp (List.mem_of_find?_eq_some (wrong.trans found))).2
          have same : Sentinel.signatureIn (bytes.slice 0 40) position =
              Sentinel.signatureIn bytes position := Bytes.slice_slice_zero (by omega)
          dsimp only
          rw [ends_error_bind, same]
        | none =>
          rw [ends_ok_bind]
          iterate 5
            rw [Cursor.word32_eq small (by omega), ends_ok_bind]
            dsimp only
          simp (disch := decide) only [Nat.reduceAdd, Nat.reduceMul, word]
          rw [ensureSize_bind, Decidable.not_not.mp shown]
          split <;> rfl

/-- The sub-authority at an index. -/
def subAuthority (bytes : Bytes) (index : Nat) : Decoding UInt32 := do
  let distance ← compute (mul index 4)
  let offset ← compute (add 8 distance)
  word32At .sidSubAuthorities bytes offset

/-- Reads a security identifier on the machine. -/
def decodeSid (bytes : Bytes) : Decoding Sid := do
  let revision ← pieceAt .sidRevision bytes 0 1
  let count ← pieceAt .sidCount bytes 1 1
  let authority ← pieceAt .sidAuthority bytes 2 6
  let listed ← compute (mul count.littleEndian 4)
  let needed ← compute (add 8 listed)
  if bytes.length < needed then
    let need ← compute (sub needed 8)
    ends (.error (.truncated .sidSubAuthorities 8 need (bytes.length - 8)))
  else
    let subAuthorities ← (List.range count.littleEndian).mapM (subAuthority bytes)
    return {
      revision := .ofNat revision.littleEndian
      authority := .ofNat 48 authority.bigEndian
      subAuthorities }

/-- The machine reads every security identifier as decoding does. -/
theorem decodeSid_eq (bytes : Bytes) : decodeSid bytes = ends (Sid.decode bytes) := by
  unfold decodeSid Sid.decode
  by_cases none : bytes.length < 1
  · rw [if_pos none, pieceAt_eq_error (by omega), ends_error_bind]
    rfl
  · rw [if_neg none, pieceAt_eq (by decide) (by omega), ends_ok_bind]
    by_cases one : bytes.length < 2
    · rw [if_pos one, pieceAt_eq_error (by omega), ends_error_bind]
    · rw [if_neg one, pieceAt_eq (by decide) (by omega), ends_ok_bind]
      by_cases short : bytes.length < 8
      · rw [if_pos short, pieceAt_eq_error (by omega), ends_error_bind]
      · have counted := Bytes.littleEndian_lt (bytes.slice 1 1)
        have width : (bytes.slice 1 1).length = 1 := by
          rw [Bytes.length_slice]
          omega
        have most : Bytes.capacity 1 = 256 := rfl
        have words := words_eq
        rw [width, most] at counted
        rw [if_neg short, pieceAt_eq (by decide) (by omega), ends_ok_bind, mul_eq (by omega),
          compute_some, ends_ok_bind, add_eq (by omega), compute_some, ends_ok_bind]
        dsimp only
        rw [Nat.mul_comm _ 4]
        by_cases less : bytes.length < 8 + 4 * (bytes.slice 1 1).littleEndian
        · rw [if_pos less, if_pos less, sub_eq (by omega), compute_some, ends_ok_bind,
            Nat.add_sub_cancel_left]
        · have each : ∀ index ∈ List.range (bytes.slice 1 1).littleEndian,
              subAuthority bytes index = pure (bytes.word32 (8 + 4 * index)) := by
            intro index member
            have before := List.mem_range.mp member
            rw [subAuthority, mul_eq (by omega), compute_some, ends_ok_bind, add_eq (by omega),
              compute_some, ends_ok_bind, word32At_eq (by omega) (by omega), Nat.mul_comm index 4]
            rfl
          rw [if_neg less, if_neg less, mapM_eq each]
          rfl

/-- Where the strings start and stop that a pass finds in the units from `index` on, if the string
that it is in starts at `start`, and where the last of them stops. -/
def rangesFrom (start index : Nat) : CodeUnits → Option (List (Nat × Nat) × Nat)
  | [] => some ([], start)
  | u :: units =>
    if u = 0 then do
      let unit ← mul index 2
      let stop ← add unit 2
      let (ranges, last) ← rangesFrom stop (index + 1) units
      return ((start, stop) :: ranges, last)
    else rangesFrom start (index + 1) units

/-- Reads a packed table on the machine: its strings are the units in the ranges that a pass finds,
and what is left after the last range belongs to no string. -/
def decodeTable (bytes : Bytes) : Decoding StringTable :=
  if bytes.length < 2 ∨ bytes.length % 2 ≠ 0 then
    ends (.error (.outOfBounds .stringTable 0 bytes.length bytes.length))
  else do
    let (ranges, last) ← compute (rangesFrom 0 0 (CodeUnits.ofBytes bytes))
    let left ← compute (sub bytes.length last)
    return {
      entries := ranges.map fun range => CodeUnits.textUnits (StringTable.inRange bytes range)
      rest := CodeUnits.ofBytes (bytes.slice last left) }

/-- A pass that has gone through whole strings, and through some units of the next one, finds the
ranges of the strings that are left, if these end at a word. -/
theorem rangesFrom_eq {started units : CodeUnits} {start index : Nat}
    (at_index : start + 2 * started.length = 2 * index) (whole : 0 ∉ started)
    (small : 2 * (index + units.length) < UInt64.size) :
    rangesFrom start index units = some (StringTable.rangesFrom start index units,
      start + ((StringTable.ofUnits (started ++ units)).entries.flatMap
        StringTable.encodeEntry).length) := by
  induction units generalizing started start index with
  | nil =>
    rw [List.append_nil, StringTable.ofUnits_of_zero_not_mem whole]
    rfl
  | cons u units ih =>
    rw [List.length_cons] at small
    by_cases zero : u = 0
    · subst zero
      have fresh : index * 2 + 2 + 2 * List.length ([] : CodeUnits) = 2 * (index + 1) := by
        rw [List.length_nil]
        omega
      have later := ih fresh List.not_mem_nil (by omega)
      have moved : start + (StringTable.encodeEntry started).length = index * 2 + 2 := by
        rw [StringTable.length_encodeEntry]
        omega
      rw [rangesFrom, if_pos rfl, mul_eq (by omega), StringTable.rangesFrom, if_pos rfl,
        StringTable.ofUnits_append_zero whole]
      dsimp only [Option.bind_eq_bind, Option.bind_some]
      rw [add_eq (by omega), Option.bind_some, later, List.flatMap_cons, List.length_append,
        ← Nat.add_assoc, moved]
      rfl
    · have longer : 0 ∉ started ++ [u] := by
        rw [List.mem_append, List.mem_singleton, not_or]
        exact ⟨whole, fun same => zero same.symm⟩
      have later : start + 2 * (started ++ [u]).length = 2 * (index + 1) := by
        rw [List.length_append, List.length_singleton]
        omega
      rw [rangesFrom, if_neg zero, StringTable.rangesFrom, if_neg zero, List.append_cons]
      exact ih later longer (by omega)

/-- The machine reads every packed table as decoding does, if its bytes are not more than a word can
count. -/
theorem decodeTable_eq {bytes : Bytes} (small : bytes.length < UInt64.size) :
    decodeTable bytes = ends (StringTable.decode bytes) := by
  unfold decodeTable StringTable.decode
  by_cases bad : bytes.length < 2 ∨ bytes.length % 2 ≠ 0
  · rw [if_pos bad, if_pos bad]
  · have even : bytes.length % 2 = 0 := by omega
    have half := CodeUnits.length_ofBytes bytes
    have texts := StringTable.textUnits_ranges even
    have joined := StringTable.encode_ofUnits (CodeUnits.ofBytes bytes)
    have pass : rangesFrom 0 0 (CodeUnits.ofBytes bytes) = _ :=
      rangesFrom_eq rfl List.not_mem_nil (by omega)
    rw [CodeUnits.toBytes_ofBytes even, StringTable.encode] at joined
    rw [List.nil_append, Nat.zero_add] at pass
    have length := congrArg List.length joined
    rw [List.length_append] at length
    generalize StringTable.ofUnits (CodeUnits.ofBytes bytes) = table at *
    obtain ⟨entries, rest⟩ := table
    dsimp only at texts joined pass length
    have tail : CodeUnits.ofBytes (bytes.slice (entries.flatMap StringTable.encodeEntry).length
        (bytes.length - (entries.flatMap StringTable.encodeEntry).length)) = rest := by
      have back := CodeUnits.ofBytes_toBytes_append rest []
      rw [List.append_nil] at back
      rw [Bytes.slice, ← joined, List.drop_left, List.length_append, Nat.add_sub_cancel_left,
        List.take_length, back]
      exact List.append_nil rest
    rw [if_neg bad, if_neg bad, pass, compute_some, ends_ok_bind]
    dsimp only
    rw [sub_eq (by omega), compute_some, ends_ok_bind, tail, pure_eq]
    exact congrArg (fun entries => ends (.ok (StringTable.mk entries rest))) texts

end EventLog.Machine
