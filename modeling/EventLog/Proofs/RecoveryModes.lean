import EventLog.Proofs.RecoveredRecords

/-!
# When recovery runs

A recovery pass is a function of the bytes and of the walk alone, and leaves the walk and its
outcome as they are. If no read can fail and the flag stays down, it therefore does not matter
whether a log recovers when it opens or later, nor how often: the walk is the same in every mode,
and all passes take the same records (`modes_agree`).
-/

namespace EventLog.Session

open EventLog.Ring Recovery Scan

variable {data : Array UInt8} {scan : Scan} {session : Session}

/-- An undisturbed log stays so however often recovery runs. -/
theorem after_recoveries_undisturbed (calm : session.Undisturbed data scan) (times : Nat) :
    (session.after (List.replicate times .recover)).Undisturbed data scan := by
  refine after_induction_of_mem session calm _ ?_
  intro s action member calm
  rw [List.eq_of_mem_replicate member]
  exact (recover_undisturbed calm).2.2

/-- If no read can fail and the flag stays down, a log with a valid header opens with the same walk
in every mode. If recovery is disabled it has then recovered nothing, if recovery always runs, what
one pass takes, and else that just if the walk was corrupted. Whenever and however often recovery
runs later, it takes what one pass takes, answers with the number of those records and leaves the
walk as it is. -/
theorem modes_agree {source : Source} {header : Header} (h : source.plan.Harmless)
    (down : source.aborted = false)
    (valid : Header.decode (source.data.extract 0 Header.size).toList = .ok header) :
    ∃ scan, ∀ settings, ∃ session, ofSource settings source = .ok session ∧
      session.Answers scan ∧
      (settings.recovery = .disabled → session.recovered = []) ∧
      (settings.recovery = .onCorruption → session.recovered =
        if scan.outcome.isCorrupted then onePass source.data scan else []) ∧
      (settings.recovery = .always → session.recovered = onePass source.data scan) ∧
      ∀ times,
        let again := (session.after (List.replicate times .recover)).recover
        again.1 = .ok (onePass source.data scan).length ∧
          again.2.recovered = onePass source.data scan ∧ again.2.Answers scan := by
  obtain ⟨ready, agrees, opens⟩ := ofSource_harmless rfl h valid
  have harmless := agrees.harmless h
  have quiet := agrees.2.2.trans down
  have running := run_ne_cancelled header agrees.1 harmless quiet
  refine ⟨(Scan.run ⟨source.data.size⟩ header ready).1, ?_⟩
  intro settings
  obtain ⟨calm, recovered⟩ := opened_undisturbed agrees.1 harmless quiet settings header
  refine ⟨_, opens settings, calm.answers, ?_, ?_, ?_, ?_⟩
  · intro disabled
    rw [recovered, disabled]
    rfl
  · intro onCorruption
    rw [recovered, onCorruption]
    rfl
  · intro always
    have runs : recovers .always (Scan.run ⟨source.data.size⟩ header ready).1.outcome = true :=
      bne_iff_ne.mpr running
    rw [recovered, always, if_pos runs]
  · intro times
    obtain ⟨count, taken, calm'⟩ := recover_undisturbed (after_recoveries_undisturbed calm times)
    exact ⟨count, taken, calm'.answers⟩

/-- The log that recovers nothing when it opens recovers later the record that its header leaves
out, which is the one that it recovers when it opens and recovery always runs. -/
theorem modes_agree_on_left_out_record : ∃ scan disabled always,
    ofSource { recovery := .disabled } (.ofBytes shortLog) = .ok disabled ∧
      ofSource { recovery := .always } (.ofBytes shortLog) = .ok always ∧
      disabled.Answers scan ∧ always.Answers scan ∧
      disabled.recovered = [] ∧ disabled.recover.2.recovered = [leftOut] ∧
      always.recovered = [leftOut] := by
  have harmless : (Source.ofBytes shortLog).plan.Harmless := FaultPlan.harmless_none
  have down : (Source.ofBytes shortLog).aborted = false := rfl
  obtain ⟨scan, modes⟩ := modes_agree harmless down shortLog_valid
  obtain ⟨disabled, opens, answers, nothing, -, -, later⟩ := modes { recovery := .disabled }
  obtain ⟨always, opens', answers', -, -, all, -⟩ := modes { recovery := .always }
  obtain ⟨session, contents, opens'', holding, -, taken⟩ := opens_shortLog
  have same : session = always := Except.ok.inj (opens''.symm.trans opens')
  have recovered : always.recovered = [leftOut] := by
    rw [← same, Session.recovered, holding, ← taken]
    rfl
  have again : disabled.recover.2.recovered = always.recovered :=
    (later 0).2.1.trans (all rfl).symm
  exact ⟨scan, disabled, always, opens, opens', answers, answers', nothing rfl,
    again.trans recovered, recovered⟩

end EventLog.Session
