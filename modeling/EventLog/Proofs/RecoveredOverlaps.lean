import EventLog.Proofs.RecoveredRecords

/-!
# Where recovered records overlap

Recovery passes over whatever starts before the end of the record that it took last, so that every
recovered record starts after the end of those before. The end is counted along the file, though,
and not around the ring: a record that wraps around may reach records that were recovered before it.
Two recovered records share no byte just if the later one does not reach around to the earlier
(`recovered_disjoint_iff`); a log whose later record does is `nestedLog`.
-/

namespace EventLog.Session

open EventLog.Ring Recovery Scan

variable {settings : Settings} {source : Source} {session : Session}

/-- Two recovered records, of which the second starts after the end of the first, share no byte just
if the second does not reach around the ring to the first. -/
theorem recovered_disjoint_iff (honest : source.plan.reportedLength = none)
    (opens : ofSource settings source = .ok session) (actions : List Action) {contents : Contents}
    (holding : (session.after actions).contents = some contents) :
    contents.recovered.Pairwise fun first second =>
      first.offset + first.size.toNat ≤ second.offset ∧
        ((∀ byte, covers ⟨source.data.size⟩ first.offset first.size.toNat byte = true →
            covers ⟨source.data.size⟩ second.offset second.size.toNat byte = false) ↔
          second.offset + second.size.toNat ≤ first.offset + size ⟨source.data.size⟩) := by
  have sound := (after_sound rfl honest opens actions).2 contents holding
  obtain ⟨high, ascending⟩ := sound.ascending
  refine ascending.ends_before.imp_of_mem ?_
  intro first second hf hs before
  have spare := sound.spare first hf
  have spare' := sound.spare second hs
  have least := spare.stands.minimumSize_le
  rw [Record.minimumSize] at least
  exact ⟨before,
    covers_disjoint_iff spare.inside spare'.inside (by omega) before spare'.stands.fits⟩

/-- A log whose header leads past both of its records to the end of file record; the end of the file
cuts the second record. -/
def skippedLog : Array UInt8 :=
  filled (plainHeader 72 72) 112 (plainParts.flatMap Prod.fst ++ (plainSentinel 72 72).encode)

/-- What the walk of that log finds. -/
def skippedScan : Scan := ⟨[], some (72, plainSentinel 72 72), .complete⟩

/-- The two records of that log. -/
def skippedRecords : List Record :=
  [{ plainRecord 1 with offset := 112 }, { plainRecord 2 with offset := 176 }]

/-- The length of the log. -/
theorem size_skippedLog : skippedLog.size = 216 := by
  simp only [skippedLog, plainParts, size_filled, List.flatMap_cons, List.flatMap_nil,
    List.length_append, List.length_nil, length_plainBytes, Sentinel.length_encode]
  rfl

/-- The log has a valid header. -/
theorem skippedLog_valid :
    Header.decode (skippedLog.extract 0 Header.size).toList = .ok (plainHeader 72 72) := by
  rw [skippedLog, extract_filled]
  rfl

/-- The two records lie one after the other in the log, and then the end of file record. -/
theorem lies_skippedLog : Lies skippedLog 112 (plainBytes 1) ∧
    Lies skippedLog 176 (plainBytes 2) ∧ Lies skippedLog 72 (plainSentinel 72 72).encode := by
  have whole : Lies skippedLog 112
      (plainBytes 1 ++ (plainBytes 2 ++ (plainSentinel 72 72).encode)) :=
    lies_filled_of_size size_skippedLog rfl
  obtain ⟨first, later⟩ := whole.of_append
  obtain ⟨second, last⟩ := later.of_append
  rw [size_skippedLog] at second last
  exact ⟨first, second, last⟩

/-- If no read can fail, the walk of the log finds that. -/
theorem run_skippedLog (ready : Source) (same : ready.data = skippedLog)
    (harmless : ready.plan.Harmless) (down : ready.aborted = false) :
    (Scan.run ⟨skippedLog.size⟩ (plainHeader 72 72) ready).1 = skippedScan := by
  have inside : contains ⟨skippedLog.size⟩ (plainHeader 72 72).firstRecordOffset.toNat = true := by
    rw [size_skippedLog]
    rfl
  have last : contains ⟨skippedLog.size⟩ (plainHeader 72 72).sentinelOffset.toNat = true := inside
  have ends := sentinelAt_of_lies inside lies_skippedLog.2.2 rfl rfl
  rw [run_inside inside last]
  exact walk_sentinel same harmless down 0 inside ends

/-- One pass over the log takes both of its records. -/
theorem onePass_skippedLog : onePass skippedLog skippedScan = skippedRecords := by
  have signed : signedOffsets skippedLog = [112, 176] := by
    rw [← offered_eq_signedOffsets, offered, size_skippedLog]
    simp only [Array.toList_extract, List.extract_eq_take_drop]
    decide +kernel
  have decoded : Record.decode (plainBytes 1) = .ok (plainRecord 1) := rfl
  have decoded' : Record.decode (plainBytes 2) = .ok (plainRecord 2) := rfl
  have first : spare? skippedLog skippedScan 112 = some { plainRecord 1 with offset := 112 } :=
    spare?_of_lies size_skippedLog rfl lies_skippedLog.1 decoded rfl rfl
  have second : spare? skippedLog skippedScan 176 = some { plainRecord 2 with offset := 176 } :=
    spare?_of_lies size_skippedLog rfl lies_skippedLog.2.1 decoded' rfl rfl
  rw [onePass, signed, takeSpare, if_neg (by decide), first]
  dsimp only
  rw [takeSpare, if_neg (by decide), second]
  rfl

/-- The log recovers both of its records, and although the second goes on right after the header,
the two share no byte. -/
theorem skipped_records_disjoint : ∃ session contents,
    ofSource { recovery := .always } (.ofBytes skippedLog) = .ok session ∧
      session.contents = some contents ∧ contents.recovered = skippedRecords ∧
      skippedRecords.Pairwise fun first second => ∀ byte,
        covers ⟨skippedLog.size⟩ first.offset first.size.toNat byte = true →
          covers ⟨skippedLog.size⟩ second.offset second.size.toNat byte = false := by
  obtain ⟨session, opens, -, holding⟩ :=
    opens_recovering skippedLog_valid { recovery := .always } run_skippedLog rfl
  rw [onePass_skippedLog] at holding
  have honest : (Source.ofBytes skippedLog).plan.reportedLength = none := rfl
  have pairs := recovered_disjoint_iff honest opens [] holding
  have short : skippedRecords.Pairwise fun first second =>
      second.offset + second.size.toNat ≤ first.offset + size ⟨skippedLog.size⟩ := by
    rw [size_skippedLog]
    decide
  exact ⟨session, _, opens, holding, rfl, (pairs.and short).imp fun pair => pair.1.2.mpr pair.2⟩

/-- A record whose binary data is a record without contents. -/
def nestingRecord : Record :=
  { plainRecord 2 with size := 128, dataSize := 64, data := plainBytes 1 }

/-- The bytes of that record: up to its data, the data and the size. -/
def nestingBytes : Bytes :=
  (nestingRecord.toBytes ++ List.replicate 4 0) ++ (plainBytes 1 ++ Bytes.ofNat 4 128)

/-- A log whose only record takes the whole ring. Its data stands right after the header, and the
header leads to its last four bytes. -/
def nestedLog : Array UInt8 := filled (plainHeader 112 112) 116 nestingBytes

/-- What the walk of that log finds: a size without a record. -/
def nestedScan : Scan :=
  ended (.corrupted 112 (.signatureMismatch .recordSignature logSignature [128, 0, 0, 0]))

/-- The record in the data of the other, and the other. -/
def nestedRecords : List Record :=
  [{ plainRecord 1 with offset := 48 }, { nestingRecord with offset := 116 }]

/-- The length of the log. -/
theorem size_nestedLog : nestedLog.size = 176 := by
  simp only [nestedLog, nestingBytes, size_filled, List.length_append, RecordFields.length_toBytes,
    List.length_replicate, length_plainBytes, Bytes.length_ofNat]
  rfl

/-- The log has a valid header. -/
theorem nestedLog_valid :
    Header.decode (nestedLog.extract 0 Header.size).toList = .ok (plainHeader 112 112) := by
  rw [nestedLog, extract_filled]
  rfl

/-- The larger record lies in the log, and the smaller one in its data. -/
theorem lies_nestedLog : Lies nestedLog 116 nestingBytes ∧ Lies nestedLog 48 (plainBytes 1) := by
  have whole : Lies nestedLog 116 nestingBytes := lies_filled_of_size size_nestedLog rfl
  obtain ⟨inner, -⟩ := (whole.of_append).2.of_append
  rw [size_nestedLog] at inner
  exact ⟨whole, inner⟩

set_option maxRecDepth 4000 in
/-- If no read can fail, the walk of the log finds that. -/
theorem run_nestedLog (ready : Source) (same : ready.data = nestedLog)
    (harmless : ready.plan.Harmless) (down : ready.aborted = false) :
    (Scan.run ⟨nestedLog.size⟩ (plainHeader 112 112) ready).1 = nestedScan := by
  have inside : contains ⟨nestedLog.size⟩ 112 = true := by
    rw [size_nestedLog]
    rfl
  rw [run_inside inside inside]
  exact walk_barren same harmless down 0 inside rfl

set_option maxRecDepth 4000 in
/-- One pass over the log takes the record in the data and then the record around it. -/
theorem onePass_nestedLog : onePass nestedLog nestedScan = nestedRecords := by
  have signed : signedOffsets nestedLog = [48, 116] := by
    rw [← offered_eq_signedOffsets, offered, size_nestedLog]
    simp only [Array.toList_extract, List.extract_eq_take_drop]
    decide +kernel
  have decoded : Record.decode (plainBytes 1) = .ok (plainRecord 1) := rfl
  have decoded' : Record.decode nestingBytes = .ok nestingRecord := rfl
  have first : spare? nestedLog nestedScan 48 = some { plainRecord 1 with offset := 48 } :=
    spare?_of_lies size_nestedLog rfl lies_nestedLog.2 decoded rfl rfl
  have second : spare? nestedLog nestedScan 116 = some { nestingRecord with offset := 116 } :=
    spare?_of_lies size_nestedLog rfl lies_nestedLog.1 decoded' rfl rfl
  rw [onePass, signed, takeSpare, if_neg (by decide), first]
  dsimp only
  rw [takeSpare, if_neg (by decide), second]
  rfl

/-- The log recovers both records, and all bytes of the first are bytes of the second. -/
theorem nested_records_overlap : ∃ session contents,
    ofSource {} (.ofBytes nestedLog) = .ok session ∧
      session.contents = some contents ∧ contents.recovered = nestedRecords ∧
      ∀ byte, covers ⟨nestedLog.size⟩ 48 64 byte = true →
        covers ⟨nestedLog.size⟩ 116 128 byte = true := by
  obtain ⟨session, opens, -, holding⟩ := opens_recovering nestedLog_valid {} run_nestedLog rfl
  rw [onePass_nestedLog] at holding
  refine ⟨session, _, opens, holding, rfl, ?_⟩
  rw [size_nestedLog]
  intro byte near
  have low : 48 ≤ byte ∧ byte < 48 + 64 := (covers_iff_of_le rfl (by decide)).mp near
  refine (covers_iff_of_gt rfl (by decide) (by decide)).mpr (.inr ?_)
  exact ⟨low.1, Nat.lt_of_lt_of_le low.2 (by decide)⟩

end EventLog.Session
