import EventLog.Proofs.Source
import EventLog.Ring.Position

/-!
# What is found on the ring

A read of the ring, under any plan, delivers the bytes that stand there or none
(`readBytes_ok`), and so what is found at an offset is what its bytes hold (`readFound_ok`).
`foundAt_event_iff` and `foundAt_sentinel_iff` say what that is without a source: the record whose
decoding succeeds on as many bytes as it declares.
-/

namespace EventLog.Ring

/-- An event record stands at an offset of the ring. -/
structure StandsAt (data : Array UInt8) (offset : Nat) (record : Record) : Prop where
  /-- The record knows where it stands. -/
  starts : record.offset = offset
  /-- The ring has room for the record. -/
  fits : record.size.toNat ≤ data.size - start
  /-- As many bytes of the ring as the record declares decode to it. -/
  decodes : Record.decode ((unrolled data offset).take record.size.toNat) =
    .ok { record with offset := 0 }

/-- An end of file record stands at an offset of the ring. -/
def SentinelAt (data : Array UInt8) (offset : Nat) (sentinel : Sentinel) : Prop :=
  Sentinel.decode ((unrolled data offset).take Sentinel.size) = .ok sentinel

variable {ring : Ring} {data : Array UInt8} {offset : Nat}

/-- Reading a run changes nothing of a source but its counts of calls and the flag. -/
theorem readBytes_continues (ring : Ring) (source : Source) (offset size : Nat) :
    (ring.readBytes source offset size).2.Continues source := by
  unfold readBytes
  split
  · exact .refl source
  · dsimp only
    cases front : source.readPiece ring.fileEnd .ringRecord offset
        (min (ring.fileEnd - offset) size) with
    | mk outcome after =>
      have read := (source.readPiece_continues _ _ _ _).of_eq front
      cases outcome with
      | error e => exact read
      | ok bytes =>
        dsimp only
        split
        · cases back : after.readPiece ring.fileEnd .wrappedRecord start
              (size - min (ring.fileEnd - offset) size) with
          | mk outcome last =>
            have again := (after.readPiece_continues _ _ _ _).of_eq back
            cases outcome with
            | error e => exact again.trans read
            | ok more => exact again.trans read
        · exact read

/-- A run that was delivered lies in the region and is a front part of the ring. -/
theorem readBytes_ok {source : Source} (whole : ring.fileEnd = source.data.size) {size : Nat}
    {bytes : Bytes} (delivered : (ring.readBytes source offset size).1 = .ok bytes) :
    ring.contains offset = true ∧ size ≤ ring.size ∧
      bytes = (unrolled source.data offset).take size := by
  unfold readBytes at delivered
  split at delivered
  · cases delivered
  · rename_i good
    simp only [Bool.or_eq_true, Bool.not_eq_true', decide_eq_true_eq, not_or, Bool.not_eq_false,
      Nat.not_lt] at good
    obtain ⟨inside, fits⟩ := good
    have bounds := contains_iff.mp inside
    have total : ring.size = source.data.size - start := by rw [Ring.size, whole]
    refine ⟨inside, fits, ?_⟩
    rw [whole] at delivered bounds
    dsimp only at delivered
    cases front : source.readPiece source.data.size .ringRecord offset
        (min (source.data.size - offset) size) with
    | mk outcome after =>
      have read := (source.readPiece_continues _ _ _ _).of_eq front
      rw [front] at delivered
      cases outcome with
      | error e => cases delivered
      | ok first =>
        have piece := Source.readPiece_ok (congrArg Prod.fst front)
        dsimp only at delivered
        by_cases wraps : min (source.data.size - offset) size < size
        · rw [if_pos wraps] at delivered
          cases back : after.readPiece source.data.size .wrappedRecord start
              (size - min (source.data.size - offset) size) with
          | mk outcome last =>
            rw [back] at delivered
            cases outcome with
            | error e => cases delivered
            | ok second =>
              have rest := Source.readPiece_ok (congrArg Prod.fst back)
              have joined : first ++ second = bytes := Except.ok.inj delivered
              have same : after.data = source.data := read.data
              have straight : min (source.data.size - offset) size = source.data.size - offset := by
                omega
              rw [same] at rest
              rw [← joined, piece.2, rest.2, straight,
                take_unrolled_of_lt (Nat.le_of_lt bounds.2) (by omega) (by omega)]
              rw [show offset + (source.data.size - offset) = source.data.size by omega]
        · rw [if_neg wraps] at delivered
          have same : first = bytes := Except.ok.inj delivered
          have straight : min (source.data.size - offset) size = size := by omega
          rw [← same, piece.2, straight, take_unrolled_of_le (by omega)]

/-- A run that was delivered starts in the region, fits into it, and has no more bytes than asked
for, whatever length the source reports. -/
theorem bounds_of_readBytes {source after : Source} {size : Nat} {bytes : Bytes}
    (read : ring.readBytes source offset size = (.ok bytes, after)) :
    ring.contains offset = true ∧ size ≤ ring.size ∧ bytes.length ≤ size := by
  unfold readBytes at read
  split at read
  · cases read
  · rename_i good
    simp only [Bool.or_eq_true, Bool.not_eq_true', decide_eq_true_eq, not_or, Bool.not_eq_false,
      Nat.not_lt] at good
    refine ⟨good.1, good.2, ?_⟩
    dsimp only at read
    split at read
    · cases read
    · rename_i front
      have first := Source.length_of_readPiece front
      split at read
      · split at read
        · cases read
        · rename_i back
          have second := Source.length_of_readPiece back
          cases read
          rw [List.length_append]
          omega
      · cases read
        omega

/-- What was found was decoded from bytes that are not more than the region has, at an offset in the
region. -/
theorem decoded_of_readFound {source after : Source} {found : Found}
    (read : ring.readFound source offset = (.ok found, after)) :
    ring.contains offset = true ∧
      ∃ bytes : Bytes, bytes.length ≤ ring.size ∧ Found.decode offset bytes = .ok found := by
  unfold readFound at read
  dsimp only at read
  split at read
  · cases read
  · split at read
    · cases read
    · split at read
      · cases read
      · rename_i bytes _ whole
        obtain ⟨inside, fits, length⟩ := bounds_of_readBytes whole
        exact ⟨inside, bytes, Nat.le_trans length fits, congrArg Prod.fst read⟩

/-- Looking for a record changes nothing of a source but its counts of calls and the flag. -/
theorem readFound_continues (ring : Ring) (source : Source) (offset : Nat) :
    (ring.readFound source offset).2.Continues source := by
  unfold readFound
  cases front : ring.readBytes source offset 4 with
  | mk outcome after =>
    have read := (ring.readBytes_continues _ _ _).of_eq front
    cases outcome with
    | error e => exact read
    | ok word =>
      dsimp only
      split
      · exact read
      · cases back : ring.readBytes after offset (word.word32 0).toNat with
        | mk outcome last =>
          have again := (ring.readBytes_continues _ _ _).of_eq back
          cases outcome with
          | error e => exact again.trans read
          | ok bytes => exact again.trans read

/-- What was found at an offset is what the bytes at the offset hold. -/
theorem readFound_ok {source after : Source} (same : source.data = data) {found : Found}
    (read : readFound ⟨data.size⟩ source offset = (.ok found, after)) :
    contains ⟨data.size⟩ offset = true ∧ foundAt data offset = .ok found ∧ after.data = data := by
  subst same
  have kept := ((readFound_continues _ _ _).of_eq read).data
  unfold readFound at read
  cases front : readBytes ⟨source.data.size⟩ source offset 4 with
  | mk outcome middle =>
    have same : middle.data = source.data := ((readBytes_continues _ _ _ _).of_eq front).data
    rw [front] at read
    cases outcome with
    | error e => cases read
    | ok word =>
      obtain ⟨inside, room, shown⟩ := readBytes_ok rfl (congrArg Prod.fst front)
      refine ⟨inside, ?_, kept⟩
      dsimp only at read
      rw [shown, Bytes.word32_take (Nat.le_refl 4)] at read
      unfold foundAt
      dsimp only
      split at read
      · cases read
      · rename_i good
        rw [size_mk, Bool.or_eq_true, decide_eq_true_eq, decide_eq_true_eq] at good
        rw [if_neg good]
        cases back : readBytes ⟨source.data.size⟩ middle offset
            ((unrolled source.data offset).word32 0).toNat with
        | mk outcome last =>
          rw [back] at read
          cases outcome with
          | error e => cases read
          | ok bytes =>
            obtain ⟨-, -, rest⟩ := readBytes_ok (by rw [same]) (congrArg Prod.fst back)
            rw [same] at rest
            rw [← rest]
            exact congrArg Prod.fst read

/-- Bytes are found to be an end of file record just if they decode to it. -/
theorem decode_sentinel_iff {bytes : Bytes} {sentinel : Sentinel} :
    Found.decode offset bytes = .ok (.sentinel sentinel) ↔
      Sentinel.decode bytes = .ok sentinel := by
  unfold Found.decode
  by_cases candidate : Sentinel.isCandidate bytes = true
  · rw [if_pos candidate]
    cases decoded : Sentinel.decode bytes with
    | error e => simp only [Except.map, reduceCtorEq]
    | ok other => simp only [Except.map, Except.ok.injEq, Found.sentinel.injEq]
  · rw [if_neg candidate]
    constructor
    · intro found
      cases decoded : Record.decode bytes with
      | error e => simp only [decoded, Except.map, reduceCtorEq] at found
      | ok record => simp only [decoded, Except.map, Except.ok.injEq, reduceCtorEq] at found
    · intro decoded
      exact absurd (Sentinel.isCandidate_of_decode decoded) candidate

/-- Bytes are found to be an event record just if they decode to it, but for the offset that it is
given. -/
theorem decode_event_iff {bytes : Bytes} {record : Record} :
    Found.decode offset bytes = .ok (.event record) ↔
      record.offset = offset ∧ Record.decode bytes = .ok { record with offset := 0 } := by
  unfold Found.decode
  by_cases candidate : Sentinel.isCandidate bytes = true
  · rw [if_pos candidate]
    constructor
    · intro found
      cases decoded : Sentinel.decode bytes with
      | error e => simp only [decoded, Except.map, reduceCtorEq] at found
      | ok other => simp only [decoded, Except.map, Except.ok.injEq, reduceCtorEq] at found
    · rintro ⟨-, decoded⟩
      have signed := (Record.checkFront_eq_ok_iff.mp (Record.front_of_decode decoded).1).2.2
      have apart : logSignature ≠ Sentinel.signature 1 := by decide
      rw [Sentinel.not_isCandidate_of_signature signed apart] at candidate
      cases candidate
  · rw [if_neg candidate]
    constructor
    · intro found
      cases decoded : Record.decode bytes with
      | error e => simp only [decoded, Except.map, reduceCtorEq] at found
      | ok other =>
        simp only [decoded, Except.map, Except.ok.injEq, Found.event.injEq] at found
        have nowhere := (Record.front_of_decode decoded).2.2
        subst found
        exact ⟨rfl, by rw [← nowhere]⟩
    · rintro ⟨rfl, decoded⟩
      rw [decoded, Except.map]

/-- An event record that was found knows where it stands, and the region has room for it. -/
theorem event_of_readFound {source after : Source} {record : Record}
    (read : ring.readFound source offset = (.ok (.event record), after)) :
    ring.contains offset = true ∧ record.offset = offset ∧ record.size.toNat ≤ ring.size := by
  obtain ⟨inside, bytes, length, decoded⟩ := decoded_of_readFound read
  obtain ⟨starts, whole⟩ := decode_event_iff.mp decoded
  have size := Record.size_of_decode whole
  dsimp only at size
  exact ⟨inside, starts, by omega⟩

/-- The region has room for an end of file record that was found. -/
theorem sentinel_of_readFound {source after : Source} {sentinel : Sentinel}
    (read : ring.readFound source offset = (.ok (.sentinel sentinel), after)) :
    ring.contains offset = true ∧ Sentinel.size ≤ ring.size := by
  obtain ⟨inside, bytes, length, decoded⟩ := decoded_of_readFound read
  have long := (Sentinel.decode_eq_ok_iff.mp (decode_sentinel_iff.mp decoded)).1
  exact ⟨inside, Nat.le_trans long length⟩

/-- What is found at an offset is what as many bytes decode to as the first word says, if that many
fit into the region. -/
theorem foundAt_ok_iff {found : Found} :
    foundAt data offset = .ok found ↔
      (minimumDeclared ≤ ((unrolled data offset).word32 0).toNat ∧
          ((unrolled data offset).word32 0).toNat ≤ data.size - start) ∧
        Found.decode offset ((unrolled data offset).take
          ((unrolled data offset).word32 0).toNat) = .ok found := by
  unfold foundAt
  dsimp only
  split
  · rename_i bad
    exact ⟨nofun, fun good => absurd good.1 (by omega)⟩
  · rename_i good
    exact ⟨fun decoded => ⟨by omega, decoded⟩, fun good => good.2⟩

/-- A read that cannot fail finds just what the bytes at the offset hold. -/
theorem readAt_ok_iff {found : Found} :
    readAt data offset = .ok found ↔ foundAt data offset = .ok found := by
  unfold readAt
  by_cases small : data.size - start < 4
  · rw [if_pos small]
    refine ⟨nofun, ?_⟩
    intro stands
    rw [foundAt_ok_iff, minimumDeclared] at stands
    omega
  · rw [if_neg small]

/-- If no read can fail, looking for a record finds what the bytes at the offset hold, and nothing
else. -/
theorem readFound_harmless {source : Source} (same : source.data = data)
    (h : source.plan.Harmless) (inside : contains ⟨data.size⟩ offset = true) :
    (∀ found, (readFound ⟨data.size⟩ source offset).1 = .ok found ↔
        foundAt data offset = .ok found) ∧
      (readFound ⟨data.size⟩ source offset).2.Agrees source := by
  obtain ⟨result, agrees⟩ := readFound_eq_readAt same h inside
  rw [result]
  exact ⟨fun _ => readAt_ok_iff, agrees⟩

/-- An end of file record is found at an offset just if it stands there. -/
theorem foundAt_sentinel_iff (inside : contains ⟨data.size⟩ offset = true) {sentinel : Sentinel} :
    foundAt data offset = .ok (.sentinel sentinel) ↔ SentinelAt data offset sentinel := by
  have bounds : start ≤ offset ∧ offset < data.size := contains_iff.mp inside
  have total := length_unrolled bounds.1 (Nat.le_of_lt bounds.2)
  rw [foundAt_ok_iff, decode_sentinel_iff, minimumDeclared, SentinelAt]
  constructor
  · rintro ⟨good, decoded⟩
    have shown := (Sentinel.decode_eq_ok_iff.mp decoded).2.1
    rw [Bytes.word32_take (by omega)] at shown
    rw [shown] at decoded
    exact decoded
  · intro decoded
    obtain ⟨long, shown, -⟩ := Sentinel.decode_eq_ok_iff.mp decoded
    rw [List.length_take, total, Sentinel.size] at long
    rw [Bytes.word32_take (by decide)] at shown
    rw [shown]
    exact ⟨by rw [Sentinel.size]; omega, decoded⟩

/-- An event record is found at an offset just if it stands there. -/
theorem foundAt_event_iff (inside : contains ⟨data.size⟩ offset = true) {record : Record} :
    foundAt data offset = .ok (.event record) ↔ StandsAt data offset record := by
  have bounds : start ≤ offset ∧ offset < data.size := contains_iff.mp inside
  have total := length_unrolled bounds.1 (Nat.le_of_lt bounds.2)
  rw [foundAt_ok_iff, decode_event_iff]
  constructor
  · rintro ⟨good, starts, decoded⟩
    have shown := Record.size_of_decode decoded
    rw [List.length_take, total, Nat.min_eq_left good.2] at shown
    dsimp only at shown
    rw [← shown] at good decoded
    exact ⟨starts, good.2, decoded⟩
  · rintro ⟨starts, fits, decoded⟩
    obtain ⟨long, shown, -⟩ :=
      Record.checkFront_eq_ok_iff.mp (Record.front_of_decode decoded).1
    rw [Record.minimumSize, List.length_take, total] at long
    rw [List.length_take, total, Nat.min_eq_left fits, Bytes.word32_take (by omega)] at shown
    rw [shown]
    exact ⟨⟨by rw [minimumDeclared]; omega, fits⟩, starts, decoded⟩

/-- At most one end of file record stands at an offset. -/
theorem SentinelAt.unique {first second : Sentinel} (hf : SentinelAt data offset first)
    (hs : SentinelAt data offset second) : first = second := by
  rw [SentinelAt] at hf hs
  rw [hf] at hs
  exact Except.ok.inj hs

/-- Where an end of file record stands, no event record does. -/
theorem SentinelAt.not_standsAt (inside : contains ⟨data.size⟩ offset = true)
    {sentinel : Sentinel} (ends : SentinelAt data offset sentinel) (record : Record) :
    ¬StandsAt data offset record := by
  rw [← foundAt_event_iff inside, (foundAt_sentinel_iff inside).mpr ends]
  exact nofun

/-- An event record that stands in the ring has at least the size of the smallest record. -/
theorem StandsAt.minimumSize_le {record : Record} (stands : StandsAt data offset record) :
    Record.minimumSize ≤ record.size.toNat := by
  have least := Record.minimumSize_le_of_decode stands.decodes
  exact least

/-- Where bytes lie that decode to an event record, that record stands. -/
theorem standsAt_of_lies (inside : contains ⟨data.size⟩ offset = true) {bytes : Bytes}
    {record : Record} (lies : Lies data offset bytes) (decoded : Record.decode bytes = .ok record) :
    StandsAt data offset { record with offset } := by
  have size := Record.size_of_decode decoded
  have nowhere := (Record.front_of_decode decoded).2.2
  refine ⟨rfl, ?_, ?_⟩
  · dsimp only
    rw [size]
    exact lies.1
  · dsimp only
    rw [size, take_unrolled_of_lies inside lies, decoded, ← nowhere]

/-- Where bytes lie that decode to an end of file record, that end of file record stands. -/
theorem sentinelAt_of_lies (inside : contains ⟨data.size⟩ offset = true) {bytes : Bytes}
    {sentinel : Sentinel} (lies : Lies data offset bytes)
    (decoded : Sentinel.decode bytes = .ok sentinel) (exact : bytes.length = Sentinel.size) :
    SentinelAt data offset sentinel := by
  rw [SentinelAt, ← exact, take_unrolled_of_lies inside lies, decoded]

end EventLog.Ring
