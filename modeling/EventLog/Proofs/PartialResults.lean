import EventLog.Proofs.Cancelled
import EventLog.Proofs.Opening
import EventLog.Proofs.PrimaryRecords
import EventLog.Proofs.TornWalks

/-!
# What a log holds that was opened only in part

A log with a valid header opens whenever its abort flag is raised and whichever of its later calls
fails. What it then holds is the front part of what it holds otherwise: `Curtailed` compares it with
the log whose flag stays down, `FallsShort` with the log whose source does not fail, and
`RecoversInPart` a later recovery pass with the pass that is not cancelled. `opens_in_part` says all
of this at once.
-/

namespace EventLog

open EventLog.Source

/-- One call that serves without a bound fills a piece that is there. -/
theorem Source.fill_of_served {source : Source} {position need : Nat} (needed : need ≠ 0)
    (reacts : source.plan.reaction (source.reads + 1) = .serve none)
    (there : position + need ≤ source.data.size) :
    source.fill position need = (.ok (), source.countRead) := by
  have all : source.delivered none position need = need := by
    rw [delivered, Option.elim_none]
    omega
  rw [fill_of_needed needed, reacts]
  dsimp only
  rw [all, if_neg needed, Nat.sub_self, fill, if_pos rfl]

namespace Session

/-- Reading a header does not depend on the flag. -/
theorem readHeader_silenced (source : Source) (length : Nat) :
    readHeader source.silenced length = (readHeader source length).map id silenced := by
  rw [readHeader, readHeader, readPiece_silenced]
  cases source.readPiece length .header 0 Header.size with
  | mk outcome after =>
    cases outcome with
    | error e => rfl
    | ok bytes => rfl

/-- A header that is read from a source is read from a source that it impairs. -/
theorem readHeader_impaired {source intact after : Source} (impairs : source.Impairs intact)
    {length : Nat} {header : Header} (reads : readHeader source length = (.ok header, after)) :
    Follows source after (.ok header) (readHeader intact length) := by
  unfold readHeader at reads ⊢
  cases piece : source.readPiece length .header 0 Header.size with
  | mk outcome last =>
    rw [piece] at reads
    cases outcome with
    | error e => cases reads
    | ok bytes =>
      have follows := readPiece_impaired impairs piece (unbroken_ok _)
      rw [follows.eq]
      obtain ⟨decoded, rfl⟩ := Prod.mk.inj reads
      exact ⟨decoded, follows.impairs, follows.clear⟩

/-- The log, but that its flag is down and no call raises it. -/
def silenced (session : Session) : Session := { session with source := session.source.silenced }

variable {settings : Settings} {length : Nat} {header : Header} {ready : Source}

/-- However a log was opened, its records are those of its walk. -/
theorem records_opened (settings : Settings) (length : Nat) (header : Header) (ready : Source) :
    (opened settings length header ready).records = (Scan.run ⟨length⟩ header ready).1.records := by
  unfold opened
  dsimp only
  split
  · rfl
  · rfl

/-- A log that is opened without recovery stands where its walk ended. -/
theorem opened_disabled (settings : Settings) (length : Nat) (header : Header) (ready : Source) :
    opened { settings with recovery := .disabled } length header ready =
      afterWalk { settings with recovery := .disabled } ⟨length⟩ header
        (Scan.run ⟨length⟩ header ready) := rfl

/-- What a log holds whose flag may have been raised while it was opened, compared with the log
right after its walk and with the log whose flag stays down. -/
structure Curtailed (ring : Ring) (ready : Source) (session walked calm : Session) : Prop where
  /-- Recovery leaves the records of the walk as they are. -/
  kept : session.records = walked.records
  /-- They are the first of those that are found if the flag stays down. -/
  records : session.records <+: calm.records
  /-- The recovered records are the first of those that a pass over the same walk recovers if the
  flag stays down. -/
  recovered : session.recovered <+: walked.silenced.recover.2.recovered
  /-- After a walk that was cancelled nothing is recovered. -/
  cancelled : walked.outcome = .cancelled → session.recovered = []
  /-- Once the flag is up, no further record and no further block is read. -/
  course : Course ring ready session.source

/-- What a log holds whose source may have failed, compared with the log whose source it impairs;
both logs also as they are right after their walks. -/
structure FallsShort (ring : Ring) (first : Nat) (ready : Source)
    (session walked whole scanned : Session) : Prop where
  /-- The records are the first of those of the other log. -/
  records : session.records <+: whole.records
  /-- They are all of them and the walks end alike, unless a failing call ended the walk. -/
  torn : session.records = whole.records ∧ walked.outcome = scanned.outcome ∨
    Scan.Torn ring first walked.records walked.outcome whole.records
  /-- A call that fails during the walk ends it. -/
  struck : ready.Struck walked.source →
    Scan.Torn ring first walked.records walked.outcome whole.records

/-- What a recovery pass leaves of a log, whose flag may be raised meanwhile. -/
structure RecoversInPart (session : Session) : Prop where
  /-- The records of the walk stay as they are. -/
  records : session.recover.2.records = session.records
  /-- The recovered records are the first of those that are recovered if the flag stays down. -/
  recovered : session.recover.2.recovered <+: session.silenced.recover.2.recovered
  /-- If the flag is up beforehand, nothing is recovered. -/
  cancelled : session.source.aborted = true → session.recover.2.recovered = []
  /-- Once the flag is up, no further record and no further block is read. -/
  course : ∀ contents ∈ session.contents,
    Course contents.ring session.source session.recover.2.source

/-- A recovery pass leaves the log with the records that are recovered from its source. -/
theorem recovered_recover {session : Session} {contents : Contents}
    (holding : session.contents = some contents) :
    session.recover.2.recovered =
      (Recovery.run contents.ring contents.scan session.source).1.records := by
  rw [recover_of_contents holding, recoverWithin, withRecovery_recovered]

/-- If the flag stays down, they are those that are recovered from the silenced source. -/
theorem recovered_recover_silenced {session : Session} {contents : Contents}
    (holding : session.contents = some contents) :
    session.silenced.recover.2.recovered =
      (Recovery.run contents.ring contents.scan session.source.silenced).1.records := by
  have holding' : session.silenced.contents = some contents := holding
  rw [recovered_recover holding', silenced]

/-- Every recovery pass recovers in part. -/
theorem recoversInPart (session : Session) : session.RecoversInPart := by
  cases holding : session.contents with
  | none =>
    have closed : session.recover.2 = session := by rw [recover, holding]
    have nothing : session.recovered = [] := by
      rw [Session.recovered, holding]
      rfl
    refine ⟨?_, ?_, ?_, ?_⟩
    · rw [closed]
    · rw [closed, nothing]
      exact List.nil_prefix
    · rw [closed]
      exact fun _ => nothing
    · intro contents member
      rw [holding] at member
      cases member
  | some contents =>
    have pass := recover_of_contents holding
    refine ⟨?_, ?_, ?_, ?_⟩
    · rw [pass, recoverWithin, withRecovery_records, records, holding]
      rfl
    · rw [recovered_recover holding, recovered_recover_silenced holding]
      exact Recovery.run_front contents.ring contents.scan session.source
    · rw [recovered_recover holding]
      exact Recovery.run_records_of_aborted contents.ring contents.scan
    · intro other member
      rw [holding] at member
      cases Option.mem_some.mp member
      rw [pass, recoverWithin, withRecovery_source]
      exact Recovery.run_course contents.ring contents.scan session.source

/-- A log that was opened is curtailed, whenever its flag was raised. -/
theorem opened_curtailed (settings : Settings) (length : Nat) (header : Header) (ready : Source) :
    Curtailed ⟨length⟩ ready (opened settings length header ready)
      (opened { settings with recovery := .disabled } length header ready)
      (opened settings length header ready.silenced) where
  kept := by rw [records_opened, records_opened]
  records := by
    rw [records_opened, records_opened]
    exact Scan.run_front _ header ready
  recovered := by
    have holding : (afterWalk { settings with recovery := .disabled } ⟨length⟩ header
        (Scan.run ⟨length⟩ header ready)).contents = some (walked length header ready) := rfl
    rw [opened_disabled, recovered_recover_silenced holding]
    unfold opened
    dsimp only
    split
    · rw [recoverWithin, withRecovery_recovered]
      exact Recovery.run_front _ _ _
    · exact List.nil_prefix
  cancelled := by
    intro cancelled
    rw [opened_disabled] at cancelled
    have idle : recovers settings.recovery (Scan.run ⟨length⟩ header ready).1.outcome = false := by
      rw [show (Scan.run ⟨length⟩ header ready).1.outcome = .cancelled from cancelled]
      cases settings.recovery <;> rfl
    unfold opened
    dsimp only
    rw [idle]
    rfl
  course := by
    have walk := Scan.run_course ⟨length⟩ header ready
    unfold opened
    dsimp only
    split
    · rw [recoverWithin, withRecovery_source]
      exact walk.trans (Recovery.run_course _ _ _)
    · exact walk

/-- A log that was opened falls short of the log whose source impairs at most by what comes after a
call that fails during the walk. -/
theorem opened_fallsShort {intact : Source} (impairs : ready.Impairs intact) (settings : Settings)
    (length : Nat) (header : Header) :
    FallsShort ⟨length⟩ header.firstRecordOffset.toNat ready
      (opened settings length header ready)
      (opened { settings with recovery := .disabled } length header ready)
      (opened settings length header intact)
      (opened { settings with recovery := .disabled } length header intact) := by
  have compared := Scan.run_impaired ⟨length⟩ impairs header
  refine ⟨?_, ?_, ?_⟩
  · rw [records_opened, records_opened]
    rcases compared with follows | torn
    · exact ⟨[], (List.append_nil _).trans (congrArg Scan.records follows.result.symm)⟩
    · exact torn.isPrefix
  · rw [records_opened, records_opened, records_opened]
    rcases compared with follows | torn
    · rw [opened_disabled, opened_disabled]
      exact .inl ⟨congrArg Scan.records follows.result.symm,
        congrArg Scan.outcome follows.result.symm⟩
    · exact .inr torn
  · intro struck
    rw [records_opened, records_opened]
    rcases compared with follows | torn
    · exact absurd struck follows.clear
    · exact torn

/-- A log whose length is measured and whose header is read opens, whenever its flag is raised and
whichever of its later calls fails, and what it holds is the front part of what it holds if the flag
stays down, and if no call fails. -/
theorem opens_in_part {source measured : Source}
    (measures : source.measure = (.ok length, measured))
    (reads : readHeader measured length = (.ok header, ready)) (settings : Settings) :
    ∃ session walked calm,
      ofSource settings source = .ok session ∧
      ofSource { settings with recovery := .disabled } source = .ok walked ∧
      ofSource settings source.silenced = .ok calm ∧
      Curtailed ⟨length⟩ ready session walked calm ∧
      (∀ intact, source.Impairs intact → ∃ whole scanned,
        ofSource settings intact = .ok whole ∧
        ofSource { settings with recovery := .disabled } intact = .ok scanned ∧
        FallsShort ⟨length⟩ header.firstRecordOffset.toNat ready session walked whole scanned) ∧
      ∀ actions, (session.after actions).RecoversInPart := by
  have quiet := source.measure_silenced
  have quiet' := readHeader_silenced measured length
  rw [measures] at quiet
  rw [reads] at quiet'
  refine ⟨_, _, _, ofSource_of_header measures reads, ofSource_of_header measures reads,
    ofSource_of_header quiet quiet', opened_curtailed settings length header ready, ?_,
    fun actions => recoversInPart _⟩
  intro intact impairs
  have first := measure_impaired impairs measures
  have second := readHeader_impaired first.impairs reads
  exact ⟨_, _, ofSource_of_header first.eq second.eq, ofSource_of_header first.eq second.eq,
    opened_fallsShort second.impairs settings length header⟩

/-- A source that fails in the second half of a record that wraps around at the start of a log, and
whose flag is raised later. -/
def brittle (bytes : Array UInt8) : Source :=
  (Source.ofBytes bytes).arm (FaultSchedule.plan { failAt := 4, abortAt := 9 })

/-- The length of that source is measured. -/
theorem measure_brittle (bytes : Array UInt8) :
    (brittle bytes).measure = (.ok bytes.size, (brittle bytes).seek.2) := rfl

/-- A valid header is read from that source. -/
theorem readHeader_brittle {bytes : Array UInt8} (room : Header.size ≤ bytes.size)
    (valid : Header.decode (bytes.extract 0 Header.size).toList = .ok header) :
    ∃ ready, readHeader (brittle bytes).seek.2 bytes.size = (.ok header, ready) := by
  have there : 0 + Header.size ≤ (brittle bytes).seek.2.seek.2.data.size := room
  have filled : ((brittle bytes).seek.2.seek.2.fill 0 Header.size).1 = .ok () := by
    rw [Source.fill_of_served (by decide) rfl there]
  have reads := readHeader_filled room (show (brittle bytes).seek.2.seek.1 = .ok () from rfl) filled
  have same : (brittle bytes).seek.2.data = bytes := rfl
  rw [same, valid, mapError_ok] at reads
  exact ⟨_, Prod.ext reads rfl⟩

/-- The cut log is curtailed by that source, and falls short of the log without faults. -/
theorem cut_log_opens_in_part : ∃ session walked calm whole scanned ready,
    ofSource {} (brittle cutLog) = .ok session ∧
      ofSource { recovery := .disabled } (brittle cutLog) = .ok walked ∧
      ofSource {} (brittle cutLog).silenced = .ok calm ∧
      ofSource {} (brittle cutLog).mended = .ok whole ∧
      ofSource { recovery := .disabled } (brittle cutLog).mended = .ok scanned ∧
      Curtailed ⟨cutLog.size⟩ ready session walked calm ∧
      FallsShort ⟨cutLog.size⟩ 210 ready session walked whole scanned := by
  have room : Header.size ≤ cutLog.size := by
    rw [size_cutLog]
    decide
  obtain ⟨ready, reads⟩ := readHeader_brittle room cutLog_valid
  obtain ⟨session, walked, calm, opens, opens', opens'', curtailed, short, -⟩ :=
    opens_in_part (measure_brittle cutLog) reads {}
  have first : (plainHeader 210 170).firstRecordOffset.toNat = 210 := rfl
  obtain ⟨whole, scanned, mended, mended', falls⟩ :=
    short (brittle cutLog).mended (brittle cutLog).impairs_mended
  rw [first] at falls
  exact ⟨session, walked, calm, whole, scanned, ready, opens, opens', opens'', mended, mended',
    curtailed, falls⟩

end Session

end EventLog
