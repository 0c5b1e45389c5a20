import Mathlib.Data.List.Rotate
import EventLog.Proofs.PrimaryRecords

/-!
# Reads of the ring are exact

The ring is the region of a file after its header, turned so that it starts at an offset
(`unrolled_eq_rotate`). A source that does no harm delivers every front part of that, and a record
is found there just if one of the two codecs accepts as many bytes as the first word declares
(`reads_exact`). Neither the least size that a record can declare nor the choice of the codec by the
signature loses anything: what a codec accepts is larger (`minimumDeclared_le_of_held`), and no
bytes are accepted by both (`sentinel_ne_of_decode`).
-/

namespace EventLog.Ring

/-- The bytes of a file after its header. -/
def region (data : Array UInt8) : Bytes := (data.extract start data.size).toList

/-- What bytes hold that one of the two codecs accepts. -/
inductive Held (offset : Nat) (bytes : Bytes) : Found → Prop where
  /-- An event record, which is told where it starts. -/
  | event {record : Record} (decodes : Record.decode bytes = .ok record) :
    Held offset bytes (.event { record with offset })
  /-- An end of file record. -/
  | sentinel {sentinel : Sentinel} (decodes : Sentinel.decode bytes = .ok sentinel) :
    Held offset bytes (.sentinel sentinel)

variable {data : Array UInt8} {offset : Nat} {bytes : Bytes} {found : Found}

/-- Seen from an offset, the ring is the region turned to start there. -/
theorem unrolled_eq_rotate (inside : contains ⟨data.size⟩ offset = true) :
    unrolled data offset = (region data).rotate (offset - start) := by
  have bounds : start ≤ offset ∧ offset < data.size := contains_iff.mp inside
  have length : (region data).length = data.size - start := by
    rw [region, Array.length_toList, Array.size_extract, Nat.min_self]
  rw [List.rotate_eq_drop_append_take (by omega), region, unrolled]
  simp only [Array.toList_extract, List.extract_eq_take_drop]
  rw [List.drop_take, List.drop_drop, List.take_take]
  congr 2
  · omega
  · congr 1
    omega
  · omega

/-- Bytes that are an event record are no end of file record. -/
theorem sentinel_ne_of_decode {record : Record} (decodes : Record.decode bytes = .ok record)
    (sentinel : Sentinel) : Sentinel.decode bytes ≠ .ok sentinel := by
  intro closes
  have event : Found.decode 0 bytes = .ok (.event { record with offset := 0 }) := by
    have nowhere := (Record.front_of_decode decodes).2.2
    refine decode_event_iff.mpr ⟨rfl, ?_⟩
    rw [decodes, ← nowhere]
  rw [decode_sentinel_iff.mpr closes] at event
  cases event

/-- The choice of the codec by the signature finds just what one of the codecs accepts. -/
theorem decode_eq_ok_iff_held :
    Found.decode offset bytes = .ok found ↔ Held offset bytes found := by
  constructor
  · intro decoded
    cases found with
    | event record =>
      obtain ⟨rfl, decodes⟩ := decode_event_iff.mp decoded
      have held : Held record.offset bytes
          (.event { { record with offset := 0 } with offset := record.offset }) := .event decodes
      exact held
    | sentinel sentinel => exact .sentinel (decode_sentinel_iff.mp decoded)
  · rintro (⟨decodes⟩ | ⟨decodes⟩)
    · refine decode_event_iff.mpr ⟨rfl, ?_⟩
      rw [decodes, ← (Record.front_of_decode decodes).2.2]
    · exact decode_sentinel_iff.mpr decodes

/-- What one of the codecs accepts is not smaller than the least size that a record can declare. -/
theorem minimumDeclared_le_of_held (held : Held offset bytes found) :
    minimumDeclared ≤ bytes.length := by
  cases held with
  | event decodes =>
    have size := Record.size_of_decode decodes
    have least := Record.minimumSize_le_of_decode decodes
    rw [size, Record.minimumSize] at least
    rw [minimumDeclared]
    omega
  | sentinel decodes =>
    have long := (Sentinel.decode_eq_ok_iff.mp decodes).1
    rw [Sentinel.size] at long
    rw [minimumDeclared]
    omega

/-- What is found at an offset is what a codec accepts of as many bytes as the first word says, if
that many fit into the region. -/
theorem foundAt_eq_ok_iff_held :
    foundAt data offset = .ok found ↔
      ((unrolled data offset).word32 0).toNat ≤ data.size - start ∧
        Held offset ((unrolled data offset).take ((unrolled data offset).word32 0).toNat)
          found := by
  rw [foundAt_ok_iff, decode_eq_ok_iff_held]
  constructor
  · rintro ⟨⟨-, fits⟩, held⟩
    exact ⟨fits, held⟩
  · rintro ⟨fits, held⟩
    have least := minimumDeclared_le_of_held held
    rw [List.length_take] at least
    exact ⟨⟨by omega, fits⟩, held⟩

/-- If no read can fail, a run of the ring that fits into it is a front part of the region turned to
start at the offset, and what is found there is just what one of the codecs accepts of as many bytes
as the first word says; no bytes are accepted by both. -/
theorem reads_exact {source : Source} (h : source.plan.Harmless)
    (inside : contains ⟨source.data.size⟩ offset = true) :
    let ring : Ring := ⟨source.data.size⟩
    let turned : Bytes := (region source.data).rotate (offset - start)
    let declared := (turned.word32 0).toNat
    (∀ size ≤ source.data.size - start,
        (ring.readBytes source offset size).1 = .ok (turned.take size)) ∧
      (∀ found, (ring.readFound source offset).1 = .ok found ↔
        declared ≤ source.data.size - start ∧ Held offset (turned.take declared) found) ∧
      ∀ bytes record sentinel, Record.decode bytes = .ok record →
        Sentinel.decode bytes ≠ .ok sentinel := by
  dsimp only
  rw [← unrolled_eq_rotate inside]
  refine ⟨?_, ?_, ?_⟩
  · intro size fits
    exact (readBytes_of_harmless h rfl inside fits).1
  · intro found
    rw [← foundAt_eq_ok_iff_held]
    exact (readFound_harmless rfl h inside).1 found
  · intro bytes record sentinel decodes
    exact sentinel_ne_of_decode decodes sentinel

end EventLog.Ring

namespace EventLog.Session

open EventLog.Ring

/-- A log with two records, the first of which the end of the file cuts within its size. -/
def cutSizeLog : Array UInt8 :=
  filled (plainHeader 214 174) 214
    (plainParts.flatMap Prod.fst ++ (plainSentinel 214 174).encode)

/-- The cut size is read in two pieces, and so is the record, which is told where it starts. -/
theorem cut_size_read :
    (readBytes ⟨cutSizeLog.size⟩ (.ofBytes cutSizeLog) 214 4).1 = .ok [64, 0, 0, 0] ∧
      (readFound ⟨cutSizeLog.size⟩ (.ofBytes cutSizeLog) 214).1 =
        .ok (.event { plainRecord 1 with offset := 214 }) := by
  have size : cutSizeLog.size = 216 := by decide +kernel
  have inside : contains ⟨cutSizeLog.size⟩ 214 = true := by
    rw [size]
    rfl
  have laid : Lies cutSizeLog 214
      (plainBytes 1 ++ (plainBytes 2 ++ (plainSentinel 214 174).encode)) :=
    lies_filled (by decide +kernel)
  have front := take_unrolled_of_lies inside laid.of_append.1
  rw [unrolled_eq_rotate inside, length_plainBytes] at front
  have word : ((region cutSizeLog).rotate (214 - start)).take 4 = [64, 0, 0, 0] := by
    rw [← Nat.min_eq_left (show 4 ≤ 64 by decide), ← List.take_take, front]
    rfl
  have declared : (Bytes.word32 ((region cutSizeLog).rotate (214 - start)) 0).toNat = 64 := by
    rw [← Bytes.word32_take (Nat.le_refl 4), word]
    rfl
  have harmless : (Source.ofBytes cutSizeLog).plan.Harmless := FaultPlan.harmless_none
  obtain ⟨run, found, -⟩ := reads_exact harmless inside
  have same : (Source.ofBytes cutSizeLog).data = cutSizeLog := rfl
  rw [same] at run found
  constructor
  · rw [run 4 (by rw [size]; decide), word]
  · have decodes : Record.decode (plainBytes 1) = .ok (plainRecord 1) := rfl
    refine (found _).mpr ⟨?_, ?_⟩
    · rw [declared, size]
      decide
    · rw [declared, front]
      exact .event decodes

end EventLog.Session
