import EventLog.Proofs.Recovery
import EventLog.Session.Action

/-!
# What an opened log holds

A log opens if its length can be measured and its header be read, and then holds what the walk and
the first recovery pass left (`ofSource_eq_ok_iff`). Whatever the plan of its source and whatever is
done to it, what it holds stands in its file (`after_sound`). If no read can fail and the flag stays
down, a log with a valid header opens (`ofSource_harmless`) and keeps its walk (`Undisturbed`), and
its recovered records are those of one pass (`opened_undisturbed`, `recover_undisturbed`).
-/

namespace EventLog

open Recovery

variable {data : Array UInt8}

/-- What a log holds about the bytes of its file. -/
structure Contents.Sound (data : Array UInt8) (contents : Contents) : Prop where
  /-- The region ends with the file. -/
  ring : contents.ring = ⟨data.size⟩
  /-- What the walk found lies in the region. -/
  within : contents.scan.Within ⟨data.size⟩
  /-- The recovered records are spare. -/
  spare : ∀ record ∈ contents.recovered, Spare data contents.scan record
  /-- The recovered records are ascending. -/
  ascending : ∃ high, Ascending Ring.start contents.recovered high

namespace Session

/-- What a log holds right after its walk. -/
def walked (length : Nat) (header : Header) (ready : Source) : Contents :=
  (Contents.validated ⟨length⟩ header).beginWalk.endWalk (Scan.run ⟨length⟩ header ready).1

/-- A log that was opened once its length and its header were known. -/
def opened (settings : Settings) (length : Nat) (header : Header) (ready : Source) : Session :=
  let walk := Scan.run ⟨length⟩ header ready
  if recovers settings.recovery walk.1.outcome then
    (afterWalk settings ⟨length⟩ header walk).recoverWithin (walked length header ready)
  else afterWalk settings ⟨length⟩ header walk

/-- Naming failures anew leaves a success as it is. -/
theorem mapError_ok {α ε ε' : Type} (rename : ε → ε') (value : α) :
    (Except.ok value : Except ε α).mapError rename = .ok value := rfl

/-- A log whose length was measured and whose header was read opens. -/
theorem ofSource_of_header {settings : Settings} {source measured ready : Source} {length : Nat}
    {header : Header} (measures : source.measure = (.ok length, measured))
    (reads : readHeader measured length = (.ok header, ready)) :
    ofSource settings source = .ok (opened settings length header ready) := by
  cases recovering : recovers settings.recovery (Scan.run ⟨length⟩ header ready).1.outcome <;>
    simp only [ofSource, measures, reads, mapError_ok, bind, Except.bind, pure, Except.pure,
      opened, afterWalk, walked, recovering, Bool.false_eq_true, ↓reduceIte]

/-- A log opens just if its length can be measured and its header be read. -/
theorem ofSource_eq_ok_iff {settings : Settings} {source : Source} {session : Session} :
    ofSource settings source = .ok session ↔
      ∃ length header measured ready, source.measure = (.ok length, measured) ∧
        readHeader measured length = (.ok header, ready) ∧
        opened settings length header ready = session := by
  constructor
  · intro opens
    cases measures : source.measure with
    | mk outcome measured =>
      cases outcome with
      | error e =>
        rw [ofSource, measures] at opens
        cases opens
      | ok length =>
        cases reads : readHeader measured length with
        | mk outcome ready =>
          cases outcome with
          | error e =>
            rw [ofSource, measures] at opens
            dsimp only [mapError_ok, bind, Except.bind] at opens
            rw [reads] at opens
            cases opens
          | ok header =>
            rw [ofSource_of_header measures reads] at opens
            exact ⟨length, header, measured, ready, rfl, reads, Except.ok.inj opens⟩
  · rintro ⟨length, header, measured, ready, measures, reads, rfl⟩
    exact ofSource_of_header measures reads

/-- A header that was read stands at the start of the file. -/
theorem readHeader_ok {source ready : Source} {length : Nat} {header : Header}
    (reads : readHeader source length = (.ok header, ready)) :
    Header.decode (source.data.extract 0 Header.size).toList = .ok header ∧
      ready.Continues source := by
  unfold readHeader at reads
  cases piece : source.readPiece length .header 0 Header.size with
  | mk outcome after =>
    have read := (source.readPiece_continues _ _ _ _).of_eq piece
    rw [piece] at reads
    cases outcome with
    | error e => cases reads
    | ok bytes =>
      have stands := (Source.readPiece_ok (congrArg Prod.fst piece)).2
      rw [Nat.zero_add] at stands
      cases decoded : Header.decode bytes with
      | error e =>
        dsimp only at reads
        rw [decoded] at reads
        cases reads
      | ok other =>
        dsimp only at reads
        rw [decoded] at reads
        cases reads
        rw [← stands]
        exact ⟨decoded, read⟩

/-- Only a log with a valid header opens. -/
theorem valid_of_ofSource {settings : Settings} {source : Source} {session : Session}
    (opens : ofSource settings source = .ok session) :
    ∃ header, Header.decode (source.data.extract 0 Header.size).toList = .ok header := by
  obtain ⟨length, header, measured, ready, measures, reads, -⟩ := ofSource_eq_ok_iff.mp opens
  have kept := source.measure_continues.of_eq measures
  have valid := (readHeader_ok reads).1
  rw [kept.data] at valid
  exact ⟨header, valid⟩

/-- If no read can fail, a valid header is read. -/
theorem readHeader_harmless {source : Source} (same : source.data = data)
    (h : source.plan.Harmless) {header : Header}
    (valid : Header.decode (data.extract 0 Header.size).toList = .ok header) :
    ∃ ready : Source, readHeader source data.size = (.ok header, ready) ∧ ready.Agrees source := by
  subst same
  have long : Header.size ≤ source.data.size := by
    rw [← Nat.not_lt]
    intro short
    have length : (source.data.extract 0 Header.size).toList.length < Header.size := by
      rw [Array.length_toList, Array.size_extract]
      omega
    rw [Header.decode, if_pos length] at valid
    cases valid
  obtain ⟨result, agrees⟩ := source.readPiece_of_harmless h .header 0 Header.size
  rw [Nat.zero_add, if_neg (Nat.not_lt.mpr long)] at result
  unfold readHeader
  cases piece : source.readPiece source.data.size .header 0 Header.size with
  | mk outcome after =>
    rw [piece] at result agrees
    subst result
    dsimp only
    rw [valid]
    exact ⟨after, rfl, agrees⟩

/-- If no read can fail, a log with a valid header opens, and what its walk goes by does not depend
on the settings. -/
theorem ofSource_harmless {source : Source} (same : source.data = data) (h : source.plan.Harmless)
    {header : Header} (valid : Header.decode (data.extract 0 Header.size).toList = .ok header) :
    ∃ ready : Source, ready.Agrees source ∧ ∀ settings,
      ofSource settings source = .ok (opened settings data.size header ready) := by
  obtain ⟨length, agrees⟩ := source.measure_of_harmless h
  cases measures : source.measure with
  | mk outcome measured =>
    rw [measures, same] at length
    rw [measures] at agrees
    dsimp only at length
    subst length
    obtain ⟨ready, reads, agrees'⟩ :=
      readHeader_harmless (agrees.1.trans same) (agrees.harmless h) valid
    exact ⟨ready, agrees'.trans agrees, fun settings => ofSource_of_header measures reads⟩

/-- If no read can fail and the flag stays down, a recovery pass over what a log holds takes what
one pass takes and leaves all else as it is. -/
theorem recoverWithin_harmless {session : Session} {contents : Contents}
    (same : session.source.data = data) (h : session.source.plan.Harmless)
    (down : session.source.aborted = false) (sound : contents.Sound data) :
    (session.recoverWithin contents).outcome = session.outcome ∧
      (session.recoverWithin contents).contents = some
        { contents with recovered := onePass data contents.scan, state := .recoveryComplete } := by
  obtain ⟨pass, -⟩ := run_harmless same h down sound.within
  rw [← sound.ring] at pass
  unfold recoverWithin withRecovery
  rw [pass]
  exact ⟨rfl, rfl⟩

/-- What a log holds right after its walk is sound. -/
theorem walked_sound (header : Header) (ready : Source) :
    (walked data.size header ready).Sound data :=
  ⟨rfl, Scan.run_within _ header ready, nofun, Ring.start, Nat.le_refl _⟩

/-- A log of given bytes with a valid header, whose walk makes recovery run, holds that walk and the
records of one pass over it. -/
theorem opens_recovering {header : Header}
    (valid : Header.decode (data.extract 0 Header.size).toList = .ok header) (settings : Settings)
    {scan : Scan}
    (walks : ∀ ready : Source, ready.data = data → ready.plan.Harmless → ready.aborted = false →
      (Scan.run ⟨data.size⟩ header ready).1 = scan)
    (recovering : recovers settings.recovery scan.outcome = true) :
    ∃ session, ofSource settings (.ofBytes data) = .ok session ∧ session.outcome = scan.outcome ∧
      session.contents = some
        ⟨⟨data.size⟩, header, scan, onePass data scan, .recoveryComplete⟩ := by
  have harmless : (Source.ofBytes data).plan.Harmless := FaultPlan.harmless_none
  have whole : (Source.ofBytes data).data = data := rfl
  obtain ⟨ready, agrees, opens⟩ := ofSource_harmless whole harmless valid
  have same := agrees.1.trans whole
  have walk := walks ready same (agrees.harmless harmless) agrees.2.2
  have kept : (afterWalk settings ⟨data.size⟩ header
      (Scan.run ⟨data.size⟩ header ready)).source.Agrees (.ofBytes data) :=
    (Scan.run_agrees header same (agrees.harmless harmless)).trans agrees
  have resumes : opened settings data.size header ready =
      (afterWalk settings ⟨data.size⟩ header (Scan.run ⟨data.size⟩ header ready)).recoverWithin
        (walked data.size header ready) := by
    rw [opened, walk, if_pos recovering]
  obtain ⟨outcome, contents⟩ := recoverWithin_harmless (kept.1.trans whole)
    (kept.harmless harmless) kept.2.2 (walked_sound header ready)
  rw [← resumes] at outcome contents
  refine ⟨_, opens settings, ?_, ?_⟩
  · rw [outcome, ← walk]
    rfl
  · rw [contents, ← walk]
    rfl

/-- After a recovery pass a log holds the same walk, what the pass took and how it ended. -/
theorem withRecovery_holds (session : Session) (contents : Contents) (pass : Recovery × Source) :
    ∃ after, (session.withRecovery contents pass).contents = some after ∧
      after.ring = contents.ring ∧ after.scan = contents.scan ∧
      after.recovered = pass.1.records ∧ after.state = .afterRecovery pass.1.ending :=
  ⟨_, rfl, rfl, rfl, rfl, rfl⟩

/-- An open log that recovers does so over what it holds. -/
theorem recover_of_contents {session : Session} {contents : Contents}
    (holding : session.contents = some contents) :
    session.recover.2 = session.recoverWithin contents := by
  rw [recover, holding]

/-- A recovery pass leaves the log with the source as the pass left it. -/
theorem withRecovery_source (session : Session) (contents : Contents) (pass : Recovery × Source) :
    (session.withRecovery contents pass).source = pass.2 := rfl

/-- A recovery pass leaves the log with the records of its walk. -/
theorem withRecovery_records (session : Session) (contents : Contents) (pass : Recovery × Source) :
    (session.withRecovery contents pass).records = contents.scan.records := rfl

/-- A recovery pass leaves the log with the records that the pass took. -/
theorem withRecovery_recovered (session : Session) (contents : Contents)
    (pass : Recovery × Source) :
    (session.withRecovery contents pass).recovered = pass.1.records := rfl

/-- After a recovery pass a log stands where the way says in which the pass ended. -/
theorem withRecovery_state (session : Session) (contents : Contents) (pass : Recovery × Source) :
    (session.withRecovery contents pass).state = ScanState.afterRecovery pass.1.ending := rfl

/-- After a recovery pass a log has the outcome that the way says in which the pass ended. -/
theorem withRecovery_outcome (session : Session) (contents : Contents)
    (pass : Recovery × Source) :
    (session.withRecovery contents pass).outcome =
      outcomeAfterRecovery session.outcome pass.1.ending := rfl

/-- A recovery pass changes nothing of the source of a log but its counts of calls and the flag. -/
theorem recoverWithin_continues (session : Session) (contents : Contents) :
    (session.recoverWithin contents).source.Continues session.source := by
  have kept := run_continues contents.ring contents.scan session.source
  rw [← withRecovery_source session contents] at kept
  exact kept

/-- A recovery pass over what a log holds leaves the walk as it is, and what it takes is sound. -/
theorem recoverWithin_sound {session : Session} {contents : Contents}
    (same : session.source.data = data) (sound : contents.Sound data) :
    ∃ after, (session.recoverWithin contents).contents = some after ∧
      after.scan = contents.scan ∧ after.Sound data := by
  obtain ⟨spare, ascending⟩ := run_spare same sound.within
  rw [← sound.ring] at spare ascending
  obtain ⟨after, holding, ring, scan, taken, -⟩ := session.withRecovery_holds contents
    (Recovery.run contents.ring contents.scan session.source)
  rw [← taken] at spare ascending
  rw [← scan] at spare
  refine ⟨after, holding, scan, ring.trans sound.ring, ?_, spare, ascending⟩
  rw [scan]
  exact sound.within

/-- An open log with the outcome of a walk over the bytes of its file, whose reads cannot fail and
whose flag is down. -/
structure Undisturbed (data : Array UInt8) (scan : Scan) (session : Session) : Prop where
  /-- The bytes of the file are still there. -/
  same : session.source.data = data
  /-- No read can fail and none raises the flag. -/
  harmless : session.source.plan.Harmless
  /-- The flag is down. -/
  down : session.source.aborted = false
  /-- The outcome is that of the walk. -/
  outcome : session.outcome = scan.outcome
  /-- The log is open and holds the walk. -/
  held : ∃ contents, session.contents = some contents ∧ contents.scan = scan ∧ contents.Sound data

/-- A recovery pass takes what one pass over all signatures takes, and leaves an undisturbed log
undisturbed. -/
theorem recover_undisturbed {scan : Scan} {session : Session}
    (calm : session.Undisturbed data scan) :
    session.recover.1 = .ok (onePass data scan).length ∧
      session.recover.2.recovered = onePass data scan ∧
      session.recover.2.Undisturbed data scan := by
  obtain ⟨contents, holding, walk, sound⟩ := calm.held
  obtain ⟨outcome, held⟩ := recoverWithin_harmless calm.same calm.harmless calm.down sound
  obtain ⟨-, agrees⟩ := run_harmless calm.same calm.harmless calm.down sound.within
  rw [← sound.ring] at agrees
  rw [← withRecovery_source session contents] at agrees
  have recovered : (session.recoverWithin contents).recovered = onePass data scan := by
    rw [Session.recovered, held, ← walk]
    rfl
  have result : session.recover =
      (.ok (session.recoverWithin contents).recovered.length, session.recoverWithin contents) := by
    rw [recover, holding]
  obtain ⟨again, holding', walk', sound'⟩ := recoverWithin_sound calm.same sound
  rw [result]
  refine ⟨?_, recovered, ?_⟩
  · rw [recovered]
  · exact
      { same := agrees.1.trans calm.same
        harmless := agrees.harmless calm.harmless
        down := agrees.2.2.trans calm.down
        outcome := outcome.trans calm.outcome
        held := ⟨again, holding', walk'.trans walk, sound'⟩ }

/-- A log opens undisturbed, and has recovered what one pass takes if recovery ran. -/
theorem opened_undisturbed {ready : Source} (same : ready.data = data) (h : ready.plan.Harmless)
    (down : ready.aborted = false) (settings : Settings) (header : Header) :
    (opened settings data.size header ready).Undisturbed data
        (Scan.run ⟨data.size⟩ header ready).1 ∧
      (opened settings data.size header ready).recovered =
        if recovers settings.recovery (Scan.run ⟨data.size⟩ header ready).1.outcome then
          onePass data (Scan.run ⟨data.size⟩ header ready).1
        else [] := by
  have agrees := Scan.run_agrees header same h
  have walking : (afterWalk settings ⟨data.size⟩ header
      (Scan.run ⟨data.size⟩ header ready)).Undisturbed data
        (Scan.run ⟨data.size⟩ header ready).1 :=
    { same := agrees.1.trans same
      harmless := agrees.harmless h
      down := agrees.2.2.trans down
      outcome := rfl
      held := ⟨walked data.size header ready, rfl, rfl, walked_sound header ready⟩ }
  unfold opened
  dsimp only
  cases recovers settings.recovery (Scan.run ⟨data.size⟩ header ready).1.outcome with
  | false => exact ⟨walking, rfl⟩
  | true =>
    obtain ⟨-, recovered, calm⟩ := recover_undisturbed walking
    exact ⟨calm, recovered⟩

/-- If no read can fail and the flag is down, a log with a valid header, whose walk is known, opens
undisturbed, and has recovered what one pass takes if recovery ran. -/
theorem opens_undisturbed {source : Source} (same : source.data = data)
    (h : source.plan.Harmless) (down : source.aborted = false) {header : Header}
    (valid : Header.decode (data.extract 0 Header.size).toList = .ok header) {scan : Scan}
    (walks : ∀ ready : Source, ready.data = data → ready.plan.Harmless → ready.aborted = false →
      (Scan.run ⟨data.size⟩ header ready).1 = scan) (settings : Settings) :
    ∃ session, ofSource settings source = .ok session ∧ session.Undisturbed data scan ∧
      session.recovered =
        if recovers settings.recovery scan.outcome then onePass data scan else [] := by
  obtain ⟨ready, agrees, opens⟩ := ofSource_harmless same h valid
  have same' := agrees.1.trans same
  have h' := agrees.harmless h
  have down' := agrees.2.2.trans down
  obtain ⟨calm, recovered⟩ := opened_undisturbed same' h' down' settings header
  rw [walks ready same' h' down'] at calm recovered
  exact ⟨_, opens settings, calm, recovered⟩

/-- If no read can fail and the flag stays down, a log that was opened holds its walk with the
outcome of the walk, and if recovery runs, the records of one pass. -/
theorem opened_harmless {ready : Source} (same : ready.data = data) (h : ready.plan.Harmless)
    (down : ready.aborted = false) (settings : Settings) (header : Header) :
    let scan := (Scan.run ⟨data.size⟩ header ready).1
    let session := opened settings data.size header ready
    session.outcome = scan.outcome ∧ ∃ contents, session.contents = some contents ∧
      contents.scan = scan ∧ contents.recovered =
        if recovers settings.recovery scan.outcome then onePass data scan else [] := by
  obtain ⟨calm, taken⟩ := opened_undisturbed same h down settings header
  obtain ⟨contents, holding, walk, -⟩ := calm.held
  have recovered : (opened settings data.size header ready).recovered = contents.recovered := by
    rw [Session.recovered, holding]
    rfl
  exact ⟨calm.outcome, contents, holding, walk, recovered.symm.trans taken⟩

/-- The bytes of the file are still there, and what a log holds about them, if it is not closed, is
sound. -/
def Sound (data : Array UInt8) (session : Session) : Prop :=
  session.source.data = data ∧ ∀ contents ∈ session.contents, contents.Sound data

/-- A log that opens on a source that does not lie about its length is sound. -/
theorem ofSource_sound {settings : Settings} {source : Source} {session : Session}
    (same : source.data = data) (honest : source.plan.reportedLength = none)
    (opens : ofSource settings source = .ok session) : session.Sound data := by
  obtain ⟨length, header, measured, ready, measures, reads, rfl⟩ := ofSource_eq_ok_iff.mp opens
  have size := Source.measure_ok honest (congrArg Prod.fst measures)
  have first := source.measure_continues.of_eq measures
  have kept : ready.data = data := ((readHeader_ok reads).2.trans first).data.trans same
  have after : (Scan.run ⟨length⟩ header ready).2.data = data :=
    (Scan.run_continues ⟨length⟩ header ready).data.trans kept
  rw [same] at size
  subst size
  have sound : (walked data.size header ready).Sound data := walked_sound header ready
  unfold opened
  dsimp only
  split
  · have same' : (afterWalk settings ⟨data.size⟩ header
        (Scan.run ⟨data.size⟩ header ready)).source.data = data := after
    obtain ⟨contents, held, -, sound'⟩ := recoverWithin_sound same' sound
    refine ⟨(recoverWithin_continues _ _).data.trans same', ?_⟩
    intro other member
    rw [held] at member
    cases member
    exact sound'
  · refine ⟨after, ?_⟩
    intro other member
    cases member
    exact sound

/-- Whatever is done to a sound log, it stays sound. -/
theorem act_sound {session : Session} (sound : session.Sound data) (action : Action) :
    (session.act action).Sound data := by
  obtain ⟨same, held⟩ := sound
  rcases session.act_cases action with ⟨contents, holding, pass⟩ | ⟨kept, -, left | dropped⟩
  · obtain ⟨after, holds, -, sound⟩ := recoverWithin_sound same (held contents holding)
    rw [pass]
    refine ⟨(recoverWithin_continues _ _).data.trans same, ?_⟩
    intro other member
    rw [holds] at member
    cases member
    exact sound
  · refine ⟨kept.trans same, ?_⟩
    rw [left]
    exact held
  · refine ⟨kept.trans same, ?_⟩
    intro other member
    rw [dropped] at member
    cases member

/-- Whatever is done to a log that opened on a source that does not lie about its length, it stays
sound. -/
theorem after_sound {settings : Settings} {source : Source} {session : Session}
    (same : source.data = data) (honest : source.plan.reportedLength = none)
    (opens : ofSource settings source = .ok session) (actions : List Action) :
    (session.after actions).Sound data :=
  after_induction session (ofSource_sound same honest opens)
    (fun _ action sound => act_sound sound action) actions

end Session

end EventLog
