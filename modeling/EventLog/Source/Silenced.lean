import EventLog.Source.Harmless

/-!
# Reading does not look at the abort flag

Only walks and recovery passes look at the abort flag, between their reads. What a read delivers
does not depend on the flag, nor on which calls raise it: a source and the same source `silenced`,
whose flag is down and stays down, deliver the same and go on being the same (`readPiece_silenced`).
A plan without faults is harmless once it is silenced (`FaultPlan.Faultless.silenced`).
-/

namespace EventLog

/-- Nothing that the plan does keeps bytes back; a call may still raise the abort flag. -/
structure FaultPlan.Faultless (plan : FaultPlan) : Prop where
  /-- Every call is interrupted or may deliver something. -/
  serves : ∀ n, plan.reaction n = .interrupt ∨
    ∃ most, plan.reaction n = .serve most ∧ most ≠ some 0
  /-- No seek call fails. -/
  seeks : ∀ n, plan.seekFails n = false
  /-- The length is the real one. -/
  honest : plan.reportedLength = Option.none

/-- The plan, but no call raises the abort flag. -/
def FaultPlan.silenced (plan : FaultPlan) : FaultPlan := { plan with signals := fun _ => false }

/-- A plan without faults does no harm if no call raises the abort flag. -/
theorem FaultPlan.Faultless.silenced {plan : FaultPlan} (faultless : plan.Faultless) :
    plan.silenced.Harmless :=
  ⟨faultless.serves, fun _ => rfl, faultless.seeks, faultless.honest⟩

/-- A harmless plan has no faults. -/
theorem FaultPlan.Harmless.faultless {plan : FaultPlan} (h : plan.Harmless) : plan.Faultless :=
  ⟨h.serves, h.seeks, h.honest⟩

namespace Source

/-- The source with its abort flag down, which no call raises. -/
def silenced (source : Source) : Source :=
  { source with plan := source.plan.silenced, aborted := false }

/-- The flag of a silenced source is down. -/
@[simp] theorem aborted_silenced (source : Source) : source.silenced.aborted = false := rfl

/-- What is filled does not depend on the flag. -/
theorem fill_silenced (source : Source) (position need : Nat) :
    source.silenced.fill position need = (source.fill position need).map id silenced := by
  fun_induction fill source position need with
  | case1 source position =>
    rw [fill, if_pos rfl]
    rfl
  | case2 source position need needed reacts ih =>
    have reacts' : source.silenced.plan.reaction (source.silenced.reads + 1) = .interrupt := reacts
    rw [fill_of_needed needed, reacts']
    exact ih
  | case3 source position need needed reacts =>
    have reacts' : source.silenced.plan.reaction (source.silenced.reads + 1) = .fail := reacts
    rw [fill_of_needed needed, reacts']
    rfl
  | case4 source position need needed reacts =>
    have reacts' : source.silenced.plan.reaction (source.silenced.reads + 1) = .finish := reacts
    rw [fill_of_needed needed, reacts']
    rfl
  | case5 source position need needed most reacts nothing =>
    have reacts' : source.silenced.plan.reaction (source.silenced.reads + 1) = .serve most := reacts
    rw [fill_of_needed needed, reacts']
    exact if_pos nothing
  | case6 source position need needed most reacts something ih =>
    have reacts' : source.silenced.plan.reaction (source.silenced.reads + 1) = .serve most := reacts
    rw [fill_of_needed needed, reacts']
    exact (if_neg something).trans ih

/-- A seek call does not depend on the flag. -/
theorem seek_silenced (source : Source) : source.silenced.seek = source.seek.map id silenced := by
  unfold seek
  dsimp only
  by_cases fails : source.plan.seekFails (source.seeks + 1) = true
  · have fails' : source.silenced.plan.seekFails (source.silenced.seeks + 1) = true := fails
    rw [if_pos fails, if_pos fails']
    rfl
  · have serves : ¬source.silenced.plan.seekFails (source.silenced.seeks + 1) = true := fails
    rw [if_neg fails, if_neg serves]
    rfl

/-- Measuring a source does not depend on the flag. -/
theorem measure_silenced (source : Source) :
    source.silenced.measure = source.measure.map id silenced := by
  rw [measure, measure, seek_silenced]
  cases source.seek with
  | mk outcome after =>
    cases outcome with
    | error failure => rfl
    | ok _ => rfl

/-- What is delivered of a piece does not depend on the flag. -/
theorem readPiece_silenced (source : Source) (length : Nat) (part : Part) (offset size : Nat) :
    source.silenced.readPiece length part offset size =
      (source.readPiece length part offset size).map id silenced := by
  rw [readPiece_eq, readPiece_eq]
  by_cases past : length < offset + size
  · rw [if_pos past, if_pos past]
    rfl
  · rw [if_neg past, if_neg past, seek_silenced]
    cases source.seek with
    | mk outcome after =>
      cases outcome with
      | error e => rfl
      | ok _ =>
        dsimp only [Prod.map, id]
        rw [fill_silenced]
        cases after.fill offset size with
        | mk result last =>
          cases result with
          | error e => rfl
          | ok _ => rfl

end Source

end EventLog
