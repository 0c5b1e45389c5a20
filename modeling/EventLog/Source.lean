import EventLog.Error

/-!
# Byte sources that can fail

A log is read from a source that may deliver fewer bytes than asked for, fail, end early or be
interrupted. When it does so is fixed in advance by a plan that numbers the calls, so that reading
is a function of the source. A piece is read by one move to its offset and then as many read calls
as it takes to fill it, of which each adds what it delivers to what is there (`gather`); a call that
is interrupted is made again. What becomes of the calls does not depend on the bytes (`fill`), and
the bytes do not depend on the portions in which they are delivered (`gather_eq`). The source
carries the abort flag, because a plan may raise the flag in the middle of a read.
-/

namespace EventLog

/-- What a read call does. -/
inductive Reaction where
  /-- It delivers bytes, and at most so many if there is a bound. -/
  | serve (most : Option Nat)
  /-- It is interrupted before it delivers anything. -/
  | interrupt
  /-- It fails. -/
  | fail
  /-- It reports the end of the bytes. -/
  | finish
  deriving DecidableEq, Repr

/-- How a source behaves; read and seek calls are numbered from one. -/
structure FaultPlan where
  /-- What the read call of a number does. -/
  reaction : Nat → Reaction
  /-- Whether the read call of a number first raises the abort flag. -/
  signals : Nat → Bool
  /-- Whether the seek call of a number fails. -/
  seekFails : Nat → Bool
  /-- The length to report in place of the real one. -/
  reportedLength : Option Nat
  /-- The number of the last read call that is interrupted. -/
  lastInterrupt : Nat
  /-- No later read call is interrupted. -/
  le_lastInterrupt : ∀ n, reaction n = .interrupt → n ≤ lastInterrupt

/-- A plan in numbers; zero stands for never and for no bound. -/
structure FaultSchedule where
  /-- The read call that raises the abort flag. -/
  abortAt : Nat := 0
  /-- The read call that fails. -/
  failAt : Nat := 0
  /-- The read call that reports the end of the bytes. -/
  finishAt : Nat := 0
  /-- The read call that is interrupted. -/
  interruptAt : Nat := 0
  /-- The seek call that fails. -/
  seekFailAt : Nat := 0
  /-- The most bytes that a read call delivers. -/
  chunk : Nat := 0
  /-- The length to report. -/
  length : Nat := 0
  deriving DecidableEq, Repr

namespace FaultSchedule

/-- What the read call of a number does under a schedule. -/
def reaction (schedule : FaultSchedule) (call : Nat) : Reaction :=
  if call = 0 then .serve none
  else if call = schedule.failAt then .fail
  else if call = schedule.finishAt then .finish
  else if call = schedule.interruptAt then .interrupt
  else .serve (if schedule.chunk = 0 then none else some schedule.chunk)

/-- The only call that a schedule can interrupt is the one it names. -/
theorem eq_interruptAt {schedule : FaultSchedule} {call : Nat}
    (h : schedule.reaction call = .interrupt) : call = schedule.interruptAt := by
  unfold reaction at h
  repeat' split at h
  all_goals first | assumption | cases h

/-- The plan that a schedule describes. -/
def plan (schedule : FaultSchedule) : FaultPlan where
  reaction := schedule.reaction
  signals call := call ≠ 0 && call == schedule.abortAt
  seekFails call := call ≠ 0 && call == schedule.seekFailAt
  reportedLength := if schedule.length = 0 then none else some schedule.length
  lastInterrupt := schedule.interruptAt
  le_lastInterrupt _ h := Nat.le_of_eq (eq_interruptAt h)

end FaultSchedule

/-- The plan of a source that never fails and fills every read at once. -/
def FaultPlan.none : FaultPlan := FaultSchedule.plan {}

/-- A source of bytes, and how far its plan has been run through. -/
structure Source where
  /-- The bytes. -/
  data : Array UInt8
  /-- How the source behaves. -/
  plan : FaultPlan
  /-- How many read calls have been made under the plan. -/
  reads : Nat := 0
  /-- How many seek calls have been made under the plan. -/
  seeks : Nat := 0
  /-- The abort flag. -/
  aborted : Bool := false

namespace Source

/-- A source that never fails. -/
def ofBytes (data : Array UInt8) : Source where
  data := data
  plan := .none

/-- Sets a new plan, whose calls count from now. -/
def arm (source : Source) (plan : FaultPlan) : Source :=
  { source with plan, reads := 0, seeks := 0 }

/-- Counts a read call, which may raise the abort flag. -/
def countRead (source : Source) : Source :=
  { source with
    reads := source.reads + 1
    aborted := source.aborted || source.plan.signals (source.reads + 1) }

/-- Makes a seek call. -/
def seek (source : Source) : Except SourceFailure Unit × Source :=
  let source := { source with seeks := source.seeks + 1 }
  if source.plan.seekFails source.seeks then (.error .seekFailed, source) else (.ok (), source)

/-- How many bytes a read call delivers at a position, of those that are still needed. -/
def delivered (source : Source) (most : Option Nat) (position need : Nat) : Nat :=
  min (most.elim need (min need)) (source.data.size - position)

/-- Makes read calls until all that is needed from a position on has been delivered. -/
def fill (source : Source) (position need : Nat) : Except SourceFailure Unit × Source :=
  if need = 0 then (.ok (), source)
  else
    match _reacts : source.plan.reaction (source.reads + 1) with
    | .interrupt => source.countRead.fill position need
    | .fail => (.error .readFailed, source.countRead)
    | .finish => (.error .endedEarly, source.countRead)
    | .serve most =>
      if source.delivered most position need = 0 then (.error .endedEarly, source.countRead)
      else
        source.countRead.fill (position + source.delivered most position need)
          (need - source.delivered most position need)
termination_by need + (source.plan.lastInterrupt - source.reads)
decreasing_by
  · have := source.plan.le_lastInterrupt _ _reacts
    simp only [countRead]
    omega
  · simp only [countRead]
    omega

/-- While something is needed, the reaction to the next call decides. -/
theorem fill_of_needed {source : Source} {position need : Nat} (needed : need ≠ 0) :
    source.fill position need =
      match source.plan.reaction (source.reads + 1) with
      | .interrupt => source.countRead.fill position need
      | .fail => (.error .readFailed, source.countRead)
      | .finish => (.error .endedEarly, source.countRead)
      | .serve most =>
        if source.delivered most position need = 0 then (.error .endedEarly, source.countRead)
        else
          source.countRead.fill (position + source.delivered most position need)
            (need - source.delivered most position need) := by
  rw [fill, if_neg needed]
  split <;> rename_i reacts <;> rw [reacts]

/-- Seeks to the end, to learn the length that the source reports. -/
def measure (source : Source) : Except SourceFailure Nat × Source :=
  match source.seek with
  | (.ok (), source) => (.ok (source.plan.reportedLength.getD source.data.size), source)
  | (.error e, source) => (.error e, source)

/-- Reads until all that is needed from a position on has been delivered, and puts what each call
delivers behind what was read before. -/
def gather (source : Source) (position need : Nat) (read : Array UInt8) :
    Except SourceFailure (Array UInt8) × Source :=
  if need = 0 then (.ok read, source)
  else
    match _reacts : source.plan.reaction (source.reads + 1) with
    | .interrupt => source.countRead.gather position need read
    | .fail => (.error .readFailed, source.countRead)
    | .finish => (.error .endedEarly, source.countRead)
    | .serve most =>
      if source.delivered most position need = 0 then (.error .endedEarly, source.countRead)
      else
        source.countRead.gather (position + source.delivered most position need)
          (need - source.delivered most position need)
          (read ++ source.data.extract position (position + source.delivered most position need))
termination_by need + (source.plan.lastInterrupt - source.reads)
decreasing_by
  · have := source.plan.le_lastInterrupt _ _reacts
    simp only [countRead]
    omega
  · simp only [countRead]
    omega

/-- Bytes that are read in two parts are read at once. -/
theorem extract_append_extract_of_le (data : Array UInt8) {position part whole : Nat}
    (within : part ≤ whole) :
    data.extract position (position + part) ++
        data.extract (position + part) (position + part + (whole - part)) =
      data.extract position (position + whole) := by
  rw [Array.extract_append_extract, Nat.min_eq_left (by omega), Nat.max_eq_right (by omega),
    Nat.add_assoc, Nat.add_sub_of_le within]

/-- While something is needed, the reaction to the next call decides what is put together. -/
theorem gather_of_needed {source : Source} {position need : Nat} (needed : need ≠ 0)
    (read : Array UInt8) :
    source.gather position need read =
      match source.plan.reaction (source.reads + 1) with
      | .interrupt => source.countRead.gather position need read
      | .fail => (.error .readFailed, source.countRead)
      | .finish => (.error .endedEarly, source.countRead)
      | .serve most =>
        if source.delivered most position need = 0 then (.error .endedEarly, source.countRead)
        else
          source.countRead.gather (position + source.delivered most position need)
            (need - source.delivered most position need)
            (read ++
              source.data.extract position (position + source.delivered most position need)) := by
  rw [gather, if_neg needed]
  split <;> rename_i reacts <;> rw [reacts]

/-- A call delivers no more than is needed and no more than is there. -/
theorem delivered_le (source : Source) (most : Option Nat) (position need : Nat) :
    source.delivered most position need ≤ need ∧
      source.delivered most position need ≤ source.data.size - position := by
  unfold delivered
  cases most with
  | none =>
    simp only [Option.elim_none]
    omega
  | some n =>
    simp only [Option.elim_some]
    omega

/-- In whatever portions the bytes are delivered, those that are put together are the ones that
stand from the position on. -/
theorem gather_eq (source : Source) (position need : Nat) (read : Array UInt8) :
    source.gather position need read =
      ((source.fill position need).1.map fun _ =>
          read ++ source.data.extract position (position + need),
        (source.fill position need).2) := by
  induction source, position, need using fill.induct generalizing read with
  | case1 source position =>
    rw [gather, fill, if_pos rfl, if_pos rfl, Nat.add_zero,
      Array.extract_empty_of_stop_le_start (Nat.le_refl _), Array.append_empty]
    rfl
  | case2 source position need needed reacts ih =>
    rw [gather_of_needed needed, fill_of_needed needed, reacts]
    exact ih read
  | case3 source position need needed reacts =>
    rw [gather_of_needed needed, fill_of_needed needed, reacts]
    rfl
  | case4 source position need needed reacts =>
    rw [gather_of_needed needed, fill_of_needed needed, reacts]
    rfl
  | case5 source position need needed most reacts nothing =>
    rw [gather_of_needed needed, fill_of_needed needed, reacts]
    dsimp only
    rw [if_pos nothing, if_pos nothing]
    rfl
  | case6 source position need needed most reacts some ih =>
    rw [gather_of_needed needed, fill_of_needed needed, reacts]
    dsimp only
    rw [if_neg some, if_neg some, ih, Array.append_assoc]
    have kept : source.countRead.data = source.data := rfl
    rw [kept, extract_append_extract_of_le _ (source.delivered_le most position need).1]

/-- Reads a piece of a source that reported a length; a piece that ends past that length is refused
without a call. -/
def readPiece (source : Source) (length : Nat) (part : Part) (offset size : Nat) :
    Except DecodeError Bytes × Source :=
  if length < offset + size then (.error (.truncated part offset size (length - offset)), source)
  else
    match source.seek with
    | (.error e, source) => (.error (.source e), source)
    | (.ok (), source) =>
      match source.gather offset size #[] with
      | (.error e, source) => (.error (.source e), source)
      | (.ok read, source) => (.ok read.toList, source)

/-- A piece that is read is the one that stands at its offset, and to read it is to fill it. -/
theorem readPiece_eq (source : Source) (length : Nat) (part : Part) (offset size : Nat) :
    source.readPiece length part offset size =
      if length < offset + size then
        (.error (.truncated part offset size (length - offset)), source)
      else
        match source.seek with
        | (.error e, moved) => (.error (.source e), moved)
        | (.ok (), moved) =>
          match moved.fill offset size with
          | (.error e, after) => (.error (.source e), after)
          | (.ok (), after) =>
            (.ok (moved.data.extract offset (offset + size)).toList, after) := by
  unfold readPiece
  split
  · rfl
  · cases source.seek with
    | mk sought moved =>
      cases sought with
      | error e => rfl
      | ok _ =>
        dsimp only
        rw [gather_eq, Array.empty_append]
        cases moved.fill offset size with
        | mk filled after =>
          cases filled with
          | error e => rfl
          | ok _ => rfl

end Source

end EventLog
