import EventLog.Proofs.Recovery
import EventLog.Source.Silenced

/-!
# Recovery passes that were not cancelled

What is found on the ring does not depend on the abort flag. Whatever raises the flag while a pass
runs, a pass that was not cancelled is therefore the pass of the silenced source (`run_silenced`).
So if no read can fail, every pass that was not cancelled searches the whole ring and takes what one
pass over all signatures takes (`run_of_faultless`).
-/

namespace EventLog

/-- What is delivered of a run of the ring does not depend on the flag. -/
theorem Ring.readBytes_silenced (ring : Ring) (source : Source) (offset size : Nat) :
    ring.readBytes source.silenced offset size =
      (ring.readBytes source offset size).map id Source.silenced := by
  unfold readBytes
  by_cases bad : (!ring.contains offset || decide (ring.size < size)) = true
  · rw [if_pos bad, if_pos bad]
    rfl
  · rw [if_neg bad, if_neg bad]
    dsimp only
    rw [Source.readPiece_silenced]
    cases source.readPiece ring.fileEnd .ringRecord offset (min (ring.fileEnd - offset) size) with
    | mk outcome after =>
      cases outcome with
      | error e => rfl
      | ok front =>
        dsimp only [Prod.map, id]
        by_cases wraps : min (ring.fileEnd - offset) size < size
        · rw [if_pos wraps, if_pos wraps, Source.readPiece_silenced]
          cases after.readPiece ring.fileEnd .wrappedRecord start
              (size - min (ring.fileEnd - offset) size) with
          | mk outcome last =>
            cases outcome with
            | error e => rfl
            | ok back => rfl
        · rw [if_neg wraps, if_neg wraps]

/-- What is found at an offset does not depend on the flag. -/
theorem Ring.readFound_silenced (ring : Ring) (source : Source) (offset : Nat) :
    ring.readFound source.silenced offset =
      (ring.readFound source offset).map id Source.silenced := by
  unfold readFound
  rw [readBytes_silenced]
  cases ring.readBytes source offset 4 with
  | mk outcome after =>
    cases outcome with
    | error e => rfl
    | ok word =>
      dsimp only [Prod.map, id]
      by_cases bad : (decide ((word.word32 0).toNat < minimumDeclared) ||
          decide (ring.size < (word.word32 0).toNat)) = true
      · rw [if_pos bad, if_pos bad]
      · rw [if_neg bad, if_neg bad, readBytes_silenced]
        cases ring.readBytes after offset (word.word32 0).toNat with
        | mk outcome last =>
          cases outcome with
          | error e => rfl
          | ok bytes => rfl

namespace Recovery

/-- Unless it was cancelled, what is taken of candidates does not depend on the flag. -/
theorem harvest_silenced {ring : Ring} {taken : List Span} {source : Source} {resume : Nat}
    {offsets : List Nat}
    (going : (harvest ring taken source resume offsets).1.cancelled = false) :
    harvest ring taken source.silenced resume offsets =
      (harvest ring taken source resume offsets).map id Source.silenced := by
  induction offsets generalizing source resume with
  | nil => rfl
  | cons offset rest ih =>
    rw [harvest] at going
    rw [harvest, harvest, Source.aborted_silenced, if_neg Bool.false_ne_true]
    by_cases up : source.aborted = true
    · rw [if_pos up] at going
      cases going
    · rw [if_neg up] at going ⊢
      by_cases skipped : (decide (offset < resume) ||
          !isFree taken ⟨offset, offset + Ring.minimumDeclared⟩) = true
      · rw [if_pos skipped] at going
        rw [if_pos skipped, if_pos skipped]
        exact ih going
      · rw [if_neg skipped] at going
        rw [if_neg skipped, if_neg skipped, Ring.readFound_silenced]
        cases read : ring.readFound source offset with
        | mk found after =>
          rw [read] at going
          dsimp only [Prod.map, id] at going ⊢
          cases record : record? ring taken found with
          | none =>
            rw [record] at going
            exact ih going
          | some record' =>
            rw [record] at going
            dsimp only
            rw [ih going]
            rfl

/-- Unless it was cancelled, what is taken of blocks does not depend on the flag. -/
theorem search_silenced {ring : Ring} {taken : List Span} {blocks : Nat} {source : Source}
    {blockStart resume : Nat}
    (going : (search ring taken blocks source blockStart resume).1.ending ≠ .cancelled) :
    search ring taken blocks source.silenced blockStart resume =
      (search ring taken blocks source blockStart resume).map id Source.silenced := by
  induction blocks generalizing source blockStart resume with
  | zero => rfl
  | succ blocks ih =>
    rw [search] at going
    rw [search, search, Source.aborted_silenced, if_neg Bool.false_ne_true]
    by_cases up : source.aborted = true
    · rw [if_pos up] at going
      exact absurd rfl going
    · rw [if_neg up] at going ⊢
      rw [Source.readPiece_silenced]
      cases read : source.readPiece ring.fileEnd .recoveryBlock blockStart
          (blockSize ring blockStart) with
      | mk outcome after =>
        rw [read] at going
        cases outcome with
        | error e => rfl
        | ok block =>
          dsimp only [Prod.map, id] at going ⊢
          by_cases cancelled :
              (harvest ring taken after resume (candidates block blockStart)).1.cancelled = true
          · rw [if_pos cancelled] at going
            exact absurd rfl going
          · rw [if_neg cancelled] at going
            rw [harvest_silenced (Bool.eq_false_iff.mpr cancelled)]
            dsimp only [Prod.map, id]
            rw [if_neg cancelled, if_neg cancelled, ih going]
            rfl

/-- Unless it was cancelled, what a recovery pass takes does not depend on the flag. -/
theorem run_silenced {ring : Ring} {scan : Scan} {source : Source}
    (going : (run ring scan source).1.ending ≠ .cancelled) :
    run ring scan source.silenced = (run ring scan source).map id Source.silenced :=
  search_silenced going

/-- If no read can fail, a recovery pass that was not cancelled searches the whole ring and takes
what one pass takes. -/
theorem run_of_faultless {data : Array UInt8} {scan : Scan} {source : Source}
    (same : source.data = data) (faultless : source.plan.Faultless)
    (within : scan.Within ⟨data.size⟩)
    (going : (run ⟨data.size⟩ scan source).1.ending ≠ .cancelled) :
    (run ⟨data.size⟩ scan source).1 = ⟨onePass data scan, .finished⟩ := by
  have same' : source.silenced.data = data := same
  have kept : (run ⟨data.size⟩ scan source.silenced).1 = (run ⟨data.size⟩ scan source).1 := by
    rw [run_silenced going, Prod.map_fst, id]
  rw [← kept]
  exact (run_harmless same' faultless.silenced rfl within).1

end Recovery

end EventLog
