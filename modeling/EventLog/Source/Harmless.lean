import EventLog.Source

/-!
# Sources that cannot be told from their bytes

A plan is harmless if it never fails a call, never ends early, never raises the abort flag and
reports the real length; it may still deliver bytes in portions and interrupt calls. Reading from a
source under such a plan depends on its bytes alone: `fill_of_harmless` and `readPiece_of_harmless`
give the result, and say that nothing but the count of calls has changed afterwards.
-/

namespace EventLog

/-- Nothing that the plan does can be told from what is read. -/
structure FaultPlan.Harmless (plan : FaultPlan) : Prop where
  /-- Every call is interrupted or may deliver something. -/
  serves : ∀ n, plan.reaction n = .interrupt ∨
    ∃ most, plan.reaction n = .serve most ∧ most ≠ some 0
  /-- No call raises the abort flag. -/
  quiet : ∀ n, plan.signals n = false
  /-- No seek call fails. -/
  seeks : ∀ n, plan.seekFails n = false
  /-- The length is the real one. -/
  honest : plan.reportedLength = Option.none

/-- The plan of a source that never fails is harmless. -/
theorem FaultPlan.harmless_none : FaultPlan.none.Harmless where
  serves n := by
    refine Or.inr ⟨Option.none, ?_, by simp⟩
    by_cases h : n = 0 <;> simp [FaultPlan.none, FaultSchedule.plan, FaultSchedule.reaction, h]
  quiet n := by simp [FaultPlan.none, FaultSchedule.plan]
  seeks n := by simp [FaultPlan.none, FaultSchedule.plan]
  honest := rfl

namespace Source

/-- Two sources differ at most in how many calls have been counted. -/
def Agrees (a b : Source) : Prop := a.data = b.data ∧ a.plan = b.plan ∧ a.aborted = b.aborted

/-- Sources that agree with a third agree. -/
theorem Agrees.trans {a b c : Source} (ab : a.Agrees b) (bc : b.Agrees c) : a.Agrees c :=
  ⟨ab.1.trans bc.1, ab.2.1.trans bc.2.1, ab.2.2.trans bc.2.2⟩

/-- What agrees with a source under a harmless plan is under a harmless plan. -/
theorem Agrees.harmless {a b : Source} (ab : a.Agrees b) (h : b.plan.Harmless) :
    a.plan.Harmless := by
  rw [ab.2.1]
  exact h

/-- Counting a harmless call changes nothing else. -/
theorem countRead_agrees {source : Source} (h : source.plan.Harmless) :
    source.countRead.Agrees source := by
  refine ⟨rfl, rfl, ?_⟩
  simp only [countRead, h.quiet, Bool.or_false]

/-- A harmless call that serves may serve something. -/
theorem most_ne_zero {source : Source} (h : source.plan.Harmless) {n : Nat} {most : Option Nat}
    (reacts : source.plan.reaction n = .serve most) : most ≠ some 0 := by
  obtain interrupted | ⟨other, serves, positive⟩ := h.serves n
  · rw [reacts] at interrupted
    cases interrupted
  · rw [reacts] at serves
    cases serves
    exact positive

/-- A call that may serve something delivers nothing only past the last byte. -/
theorem size_le_of_delivered_eq_zero {source : Source} {most : Option Nat} {position need : Nat}
    (needed : need ≠ 0) (positive : most ≠ some 0)
    (nothing : source.delivered most position need = 0) : source.data.size ≤ position := by
  unfold delivered at nothing
  cases most with
  | none =>
    simp only [Option.elim_none] at nothing
    omega
  | some n =>
    have : n ≠ 0 := fun zero => positive (congrArg some zero)
    simp only [Option.elim_some] at nothing
    omega

/-- Under a harmless plan all that is needed is delivered, if it is there. -/
theorem fill_of_harmless (source : Source) (h : source.plan.Harmless) (position need : Nat) :
    (source.fill position need).1 =
        (if need = 0 ∨ position + need ≤ source.data.size then .ok () else .error .endedEarly) ∧
      (source.fill position need).2.Agrees source := by
  fun_induction fill source position need with
  | case1 source position =>
    exact ⟨by simp, rfl, rfl, rfl⟩
  | case2 source position need needed _ ih =>
    have same := countRead_agrees h
    obtain ⟨result, kept⟩ := ih (same.harmless h)
    exact ⟨by rw [result, same.1], kept.trans same⟩
  | case3 source position need needed reacts =>
    obtain interrupted | ⟨most, serves, -⟩ := h.serves (source.reads + 1)
    · simp [reacts] at interrupted
    · simp [reacts] at serves
  | case4 source position need needed reacts =>
    obtain interrupted | ⟨most, serves, -⟩ := h.serves (source.reads + 1)
    · simp [reacts] at interrupted
    · simp [reacts] at serves
  | case5 source position need needed most reacts nothing =>
    have ended := size_le_of_delivered_eq_zero needed (most_ne_zero h reacts) nothing
    refine ⟨?_, countRead_agrees h⟩
    rw [if_neg (by omega)]
  | case6 source position need needed most reacts something ih =>
    have same := countRead_agrees h
    obtain ⟨result, kept⟩ := ih (same.harmless h)
    have bounds := source.delivered_le most position need
    refine ⟨?_, kept.trans same⟩
    rw [result, same.1]
    by_cases fits : position + need ≤ source.data.size
    · rw [if_pos (by omega), if_pos (by omega)]
    · rw [if_neg (by omega), if_neg (by omega)]

/-- Under a harmless plan a seek call does nothing but count. -/
theorem seek_of_harmless (source : Source) (h : source.plan.Harmless) :
    source.seek = (.ok (), { source with seeks := source.seeks + 1 }) := by
  simp [seek, h.seeks]

/-- Under a harmless plan the length is that of the bytes. -/
theorem measure_of_harmless (source : Source) (h : source.plan.Harmless) :
    source.measure.1 = .ok source.data.size ∧ source.measure.2.Agrees source := by
  unfold measure
  rw [seek_of_harmless source h]
  refine ⟨?_, rfl, rfl, rfl⟩
  simp only [h.honest, Option.getD_none]

/-- Under a harmless plan a piece is refused just if it ends past the last byte, and else it is what
stands there. -/
theorem readPiece_of_harmless (source : Source) (h : source.plan.Harmless) (part : Part)
    (offset size : Nat) :
    (source.readPiece source.data.size part offset size).1 =
        (if source.data.size < offset + size then
          .error (.truncated part offset size (source.data.size - offset))
        else .ok (source.data.extract offset (offset + size)).toList) ∧
      (source.readPiece source.data.size part offset size).2.Agrees source := by
  rw [readPiece_eq]
  by_cases past : source.data.size < offset + size
  · rw [if_pos past, if_pos past]
    exact ⟨rfl, rfl, rfl, rfl⟩
  · rw [if_neg past, if_neg past, seek_of_harmless source h]
    have moved : ({ source with seeks := source.seeks + 1 } : Source).Agrees source :=
      ⟨rfl, rfl, rfl⟩
    obtain ⟨result, kept⟩ := fill_of_harmless _ (moved.harmless h) offset size
    rw [if_pos (Or.inr (Nat.le_of_not_lt past))] at result
    cases filled : Source.fill { source with seeks := source.seeks + 1 } offset size with
    | mk outcome after =>
      rw [filled] at result kept
      subst result
      dsimp only
      rw [filled]
      exact ⟨rfl, kept.trans moved⟩

end Source

end EventLog
