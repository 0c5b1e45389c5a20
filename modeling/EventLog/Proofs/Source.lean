import EventLog.Source.Harmless

/-!
# What a read leaves alone and what it may deliver

Under any plan a read changes nothing of a source but its counts of calls and the abort flag, which
it may only raise (`readPiece_continues`). A piece that is delivered is the one that stands in the
file (`readPiece_ok`): faults can keep bytes back, but they cannot make bytes up.
-/

namespace EventLog.Source

/-- A source as it can stand after some reads: the bytes and the plan are the same, and a flag that
was up is still up. -/
structure Continues (after before : Source) : Prop where
  /-- The bytes are the same. -/
  data : after.data = before.data
  /-- The plan is the same. -/
  plan : after.plan = before.plan
  /-- The abort flag is not lowered. -/
  aborted : before.aborted = true → after.aborted = true

/-- A source continues itself. -/
theorem Continues.refl (source : Source) : source.Continues source := ⟨rfl, rfl, id⟩

/-- Reads after reads are reads. -/
theorem Continues.trans {a b c : Source} (ab : a.Continues b) (bc : b.Continues c) :
    a.Continues c :=
  ⟨ab.data.trans bc.data, ab.plan.trans bc.plan, fun up => ab.aborted (bc.aborted up)⟩

/-- The source that a call leaves continues the one before, named as a part of its result. -/
theorem Continues.of_eq {α : Type} {call : α × Source} {outcome : α} {after before : Source}
    (continues : call.2.Continues before) (result : call = (outcome, after)) :
    after.Continues before := by
  rw [result] at continues
  exact continues

/-- The source that a call leaves agrees with the one before, named as a part of its result. -/
theorem Agrees.of_eq {α : Type} {call : α × Source} {outcome : α} {after before : Source}
    (agrees : call.2.Agrees before) (result : call = (outcome, after)) : after.Agrees before := by
  rw [result] at agrees
  exact agrees

/-- Counting a read call may raise the flag and changes nothing else. -/
theorem countRead_continues (source : Source) : source.countRead.Continues source := by
  refine ⟨rfl, rfl, ?_⟩
  intro up
  simp only [countRead, up, Bool.true_or]

/-- Filling a piece makes read calls and nothing else. -/
theorem fill_continues (source : Source) (position need : Nat) :
    (source.fill position need).2.Continues source := by
  fun_induction fill source position need with
  | case1 source => exact .refl source
  | case2 source position need _ _ ih => exact ih.trans (countRead_continues source)
  | case3 source => exact countRead_continues source
  | case4 source => exact countRead_continues source
  | case5 source => exact countRead_continues source
  | case6 source position need _ most _ _ ih => exact ih.trans (countRead_continues source)

/-- A seek call makes no read. -/
theorem seek_continues (source : Source) : source.seek.2.Continues source := by
  unfold seek
  dsimp only
  split <;> exact ⟨rfl, rfl, id⟩

/-- Measuring a source reads nothing. -/
theorem measure_continues (source : Source) : source.measure.2.Continues source := by
  unfold measure
  cases sought : source.seek with
  | mk outcome after =>
    have moved := (seek_continues _).of_eq sought
    cases outcome with
    | error e => exact moved
    | ok _ => exact moved

/-- A source measures the length that its plan reports, or as many bytes as it has. -/
theorem length_of_measure {source : Source} {length : Nat}
    (measured : source.measure.1 = .ok length) :
    length = source.plan.reportedLength.getD source.data.size := by
  unfold measure at measured
  cases sought : source.seek with
  | mk outcome after =>
    have moved := (seek_continues _).of_eq sought
    rw [sought] at measured
    cases outcome with
    | error e => cases measured
    | ok _ =>
      have reported : after.plan.reportedLength.getD after.data.size = length :=
        Except.ok.inj measured
      rw [← reported, moved.plan, moved.data]

/-- A source that does not lie about its length measures as many bytes as it has. -/
theorem measure_ok {source : Source} (honest : source.plan.reportedLength = none) {length : Nat}
    (measured : source.measure.1 = .ok length) : length = source.data.size := by
  rw [length_of_measure measured, honest, Option.getD_none]

/-- Reading a piece changes nothing of a source but its counts of calls and the flag. -/
theorem readPiece_continues (source : Source) (length : Nat) (part : Part) (offset size : Nat) :
    (source.readPiece length part offset size).2.Continues source := by
  rw [readPiece_eq]
  by_cases past : length < offset + size
  · rw [if_pos past]
    exact .refl source
  · rw [if_neg past]
    cases sought : source.seek with
    | mk outcome after =>
      have moved := (seek_continues _).of_eq sought
      cases outcome with
      | error e => exact moved
      | ok _ =>
        dsimp only
        cases filled : after.fill offset size with
        | mk result last =>
          have read := (fill_continues _ _ _).of_eq filled
          cases result with
          | error e => exact read.trans moved
          | ok _ => exact read.trans moved

/-- A piece that was delivered is the one that stands in the file, within the length. -/
theorem readPiece_ok {source : Source} {length : Nat} {part : Part} {offset size : Nat}
    {bytes : Bytes} (delivered : (source.readPiece length part offset size).1 = .ok bytes) :
    offset + size ≤ length ∧ bytes = (source.data.extract offset (offset + size)).toList := by
  rw [readPiece_eq] at delivered
  by_cases past : length < offset + size
  · rw [if_pos past] at delivered
    cases delivered
  · rw [if_neg past] at delivered
    cases sought : source.seek with
    | mk outcome after =>
      have moved := (seek_continues _).of_eq sought
      rw [sought] at delivered
      cases outcome with
      | error e => cases delivered
      | ok _ =>
        dsimp only at delivered
        cases filled : after.fill offset size with
        | mk result last =>
          rw [filled] at delivered
          cases result with
          | error e => cases delivered
          | ok _ =>
            rw [← moved.data]
            exact ⟨Nat.le_of_not_lt past, (Except.ok.inj delivered).symm⟩

/-- A piece that was delivered has no more bytes than asked for. -/
theorem length_of_readPiece {source after : Source} {length : Nat} {part : Part} {offset size : Nat}
    {bytes : Bytes} (read : source.readPiece length part offset size = (.ok bytes, after)) :
    bytes.length ≤ size := by
  rw [(readPiece_ok (congrArg Prod.fst read)).2, Array.length_toList, Array.size_extract]
  omega

end EventLog.Source
