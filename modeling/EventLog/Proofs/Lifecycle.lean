import EventLog.Proofs.CompleteRecovery

/-!
# What a log keeps while it is open

Until it is closed, a log keeps the region, the header and the walk that it opened with, and where
it stands fits its outcome (`Orderly`); neither faults of its source nor a raised flag change that.
While a walk or a recovery pass is under way the log stands in a state of its own, and every end
takes it out of that state (`afterWalk_settled`, `afterRecovery_settled`). From this follow what an
open log goes on answering and what a closed one refuses (`lifecycle`). The outcome tells of
corruption just if the walk met it and no pass was cancelled since (`isCorrupted_iff_of_walk`).
-/

namespace EventLog

open Recovery Scan

/-- What a log with an outcome holds, if it held `start` after its walk. -/
structure Contents.Orderly (start : Contents) (outcome : Outcome) (contents : Contents) : Prop where
  /-- The region is the same. -/
  ring : contents.ring = start.ring
  /-- The header is the same. -/
  header : contents.header = start.header
  /-- The walk is the same. -/
  scan : contents.scan = start.scan
  /-- The log stands where its walk or a recovery pass has ended, and not where one is under way or
  where the log is closed. -/
  settled : contents.state ∈ [.complete, .cancelled, .recoveryComplete]
  /-- If the log stands cancelled, its outcome says so. -/
  cancelled : contents.state = .cancelled → outcome = .cancelled
  /-- If the log stands where its walk has ended, it has recovered nothing. -/
  complete : contents.state = .complete → contents.recovered = []

namespace ScanState

/-- Every way in which a walk can end takes a log out of the state in which it is walked, and only a
walk that was cancelled leaves the log standing cancelled. -/
theorem afterWalk_settled (outcome : Outcome) :
    afterWalk outcome ∈ [.complete, .cancelled, .recoveryComplete] ∧
      (afterWalk outcome = .cancelled → outcome = .cancelled) := by
  cases outcome with
  | complete => exact ⟨by decide, nofun⟩
  | cancelled => exact ⟨by decide, fun _ => rfl⟩
  | corrupted offset error => exact ⟨List.mem_cons_self, nofun⟩

/-- Every way in which a recovery pass can end takes a log out of the state in which it recovers,
and only a pass that was cancelled leaves the log standing cancelled. -/
theorem afterRecovery_settled (ending : Ending) :
    afterRecovery ending ∈ [.complete, .cancelled, .recoveryComplete] ∧
      (afterRecovery ending = .cancelled → ending = .cancelled) ∧
      afterRecovery ending ≠ .complete := by
  have last : recoveryComplete ∈ [complete, cancelled, recoveryComplete] := by decide
  cases ending with
  | finished => exact ⟨last, nofun, nofun⟩
  | cancelled => exact ⟨by decide, fun _ => rfl, nofun⟩
  | failed offset error => exact ⟨last, nofun, nofun⟩

end ScanState

namespace Contents

/-- The end of a walk leaves what a log holds in order. -/
theorem Orderly.endWalk {contents : Contents} (fresh : contents.recovered = []) (scan : Scan) :
    (contents.endWalk scan).Orderly scan.outcome (contents.endWalk scan) where
  ring := rfl
  header := rfl
  scan := rfl
  settled := (ScanState.afterWalk_settled scan.outcome).1
  cancelled := (ScanState.afterWalk_settled scan.outcome).2
  complete _ := fresh

/-- A recovery pass leaves what a log holds in order, however it ended. -/
theorem Orderly.endRecovery {start contents : Contents} {outcome : Outcome}
    (kept : start.Orderly outcome contents) (pass : Recovery) :
    start.Orderly (Session.outcomeAfterRecovery outcome pass.ending)
      (contents.beginRecovery.endRecovery pass) where
  ring := kept.ring
  header := kept.header
  scan := kept.scan
  settled := (ScanState.afterRecovery_settled pass.ending).1
  cancelled := by
    intro stands
    rw [(ScanState.afterRecovery_settled pass.ending).2.1 stands]
    rfl
  complete stands := absurd stands (ScanState.afterRecovery_settled pass.ending).2.2

end Contents

namespace Session

/-- A log that held `start` after its walk is in order. -/
structure Orderly (start : Contents) (session : Session) : Prop where
  /-- The outcome is that of the walk, unless something was cancelled. -/
  outcome : session.outcome = start.scan.outcome ∨ session.outcome = .cancelled
  /-- What the log holds, if it is not closed, is in order. -/
  held : ∀ contents ∈ session.contents, start.Orderly session.outcome contents

variable {start : Contents} {session : Session}

/-- Whatever a recovery pass over what a log holds comes to, the log is in order afterwards. -/
theorem recoverWithin_orderly {contents : Contents} (orderly : session.Orderly start)
    (holding : contents ∈ session.contents) :
    (session.recoverWithin contents).Orderly start := by
  have kept := orderly.held contents holding
  rw [recoverWithin, withRecovery]
  generalize Recovery.run contents.ring contents.scan session.source = pass
  constructor
  · dsimp only
    cases pass.1.ending with
    | finished => exact orderly.outcome
    | cancelled => exact .inr rfl
    | failed offset error => exact orderly.outcome
  · rintro _ ⟨⟩
    exact kept.endRecovery pass.1

/-- Right after its walk a log is in order. -/
theorem afterWalk_orderly (settings : Settings) (length : Nat) (header : Header) (ready : Source) :
    (afterWalk settings ⟨length⟩ header (Scan.run ⟨length⟩ header ready)).Orderly
      (walked length header ready) where
  outcome := .inl rfl
  held := by
    rintro _ ⟨⟩
    exact .endWalk rfl _

/-- A log opens in order, whether or not recovery runs. -/
theorem opened_orderly (settings : Settings) (length : Nat) (header : Header) (ready : Source) :
    (opened settings length header ready).Orderly (walked length header ready) := by
  have orderly := afterWalk_orderly settings length header ready
  unfold opened
  dsimp only
  split
  · exact recoverWithin_orderly orderly rfl
  · exact orderly

/-- Whatever is done to a log in order, it stays in order. -/
theorem act_orderly (orderly : session.Orderly start) (action : Action) :
    (session.act action).Orderly start := by
  rcases session.act_cases action with ⟨contents, holding, pass⟩ | ⟨-, same, left | dropped⟩
  · rw [pass]
    exact recoverWithin_orderly orderly holding
  · refine ⟨?_, ?_⟩
    · rw [same]
      exact orderly.outcome
    · rw [left, same]
      exact orderly.held
  · refine ⟨?_, ?_⟩
    · rw [same]
      exact orderly.outcome
    · intro other member
      rw [dropped] at member
      cases member

/-- Whatever is done to a log in order, one action after the other, it stays in order. -/
theorem after_orderly (orderly : session.Orderly start) (actions : List Action) :
    (session.after actions).Orderly start :=
  after_induction session orderly (fun _ action orderly => act_orderly orderly action) actions

/-- A log in order stands where its walk or a recovery pass has ended, or where it is closed. -/
theorem state_settled (orderly : session.Orderly start) :
    session.state ∈ [.complete, .cancelled, .recoveryComplete, .closed] := by
  rw [state]
  cases holding : session.contents with
  | none => decide
  | some contents =>
    exact List.mem_append_left [.closed] (orderly.held contents holding).settled

/-- A log in order stands closed just if it holds nothing. -/
theorem state_eq_closed_iff (orderly : session.Orderly start) :
    session.state = .closed ↔ session.contents = none := by
  rw [state]
  cases holding : session.contents with
  | none => exact ⟨fun _ => rfl, fun _ => rfl⟩
  | some contents =>
    constructor
    · intro closed
      have settled := (orderly.held contents holding).settled
      rw [Option.map_some, Option.getD_some] at closed
      rw [closed] at settled
      exact absurd settled (by decide)
    · exact nofun

/-- If a log in order stands cancelled, its outcome says so. -/
theorem outcome_of_state_eq_cancelled (orderly : session.Orderly start)
    (stands : session.state = .cancelled) : session.outcome = .cancelled := by
  rw [state] at stands
  cases holding : session.contents with
  | none =>
    rw [holding] at stands
    cases stands
  | some contents =>
    rw [holding] at stands
    exact (orderly.held contents holding).cancelled stands

/-- A closed log has no records, and answers whatever needs its contents with an error. -/
structure Refuses (session : Session) : Prop where
  /-- There are no records. -/
  records : session.records = []
  /-- Nothing is recovered. -/
  recovered : session.recovered = []
  /-- The header is not to be had. -/
  header : session.header = .error .closed
  /-- The length of the file is not to be had. -/
  fileSize : session.fileSize = .error .closed
  /-- The end of file record is not to be had. -/
  sentinel : session.sentinel = .error .closed
  /-- No record is to be had, whatever its index. -/
  record : ∀ index, session.record index = .error .closed
  /-- No recovered record is to be had, whatever its index. -/
  recoveredRecord : ∀ index, session.recoveredRecord index = .error .closed
  /-- Recovery does not run. -/
  recover : session.recover = (.error .closed, session)
  /-- The log is not closed twice. -/
  close : session.close = (.error .closed, session)

/-- A log that holds nothing refuses. -/
theorem refuses_of_contents_eq_none (closed : session.contents = none) : session.Refuses := by
  have held : session.held = .error .closed := by rw [Session.held, closed]
  refine ⟨?_, ?_, ?_, ?_, ?_, ?_, ?_, ?_, ?_⟩
  · rw [records, closed]
    rfl
  · rw [recovered, closed]
    rfl
  · rw [header, held]
    rfl
  · rw [fileSize, held]
    rfl
  · rw [sentinel, held]
    rfl
  · intro index
    rw [record, held]
    rfl
  · intro index
    rw [recoveredRecord, held]
    rfl
  · rw [recover, closed]
  · rw [close, closed]

/-- A log answers about its file what another one answers. -/
structure AnswersAs (session other : Session) : Prop where
  /-- The headers are the same. -/
  header : session.header = other.header
  /-- The lengths of the file are the same. -/
  fileSize : session.fileSize = other.fileSize
  /-- The records of the walk are the same. -/
  records : session.records = other.records
  /-- The end of file records are the same. -/
  sentinel : session.sentinel = other.sentinel

/-- Two logs that are open and in order after the same walk answer the same about their file. -/
theorem answersAs_of_orderly {other : Session} (orderly : session.Orderly start)
    (orderly' : other.Orderly start) (held : session.contents ≠ none)
    (held' : other.contents ≠ none) : session.AnswersAs other := by
  obtain ⟨contents, holding⟩ := Option.ne_none_iff_exists'.mp held
  obtain ⟨contents', holding'⟩ := Option.ne_none_iff_exists'.mp held'
  have kept := orderly.held contents holding
  have kept' := orderly'.held contents' holding'
  have header := kept.header.trans kept'.header.symm
  have ring := kept.ring.trans kept'.ring.symm
  have scan := kept.scan.trans kept'.scan.symm
  refine ⟨?_, ?_, ?_, ?_⟩
  · simp only [Session.header, Session.held, holding, holding', Except.map, header]
  · simp only [fileSize, Session.held, holding, holding', Except.map, ring]
  · simp only [records, holding, holding', Option.map_some, Option.getD_some, scan]
  · simp only [sentinel, Session.held, holding, holding', Except.map, scan]

/-- What an open log answers about its outcome, its end of file record, where it stands and what it
has recovered fits together. -/
structure Coherent (session : Session) : Prop where
  /-- If the outcome is complete, there is an end of file record. -/
  complete : session.outcome = .complete → ∃ sentinel, session.sentinel = .ok (some sentinel)
  /-- If the outcome tells of corruption, there is none. -/
  corrupted : session.outcome.isCorrupted = true → session.sentinel = .ok none
  /-- If the log stands cancelled, the outcome says so. -/
  cancelled : session.state = .cancelled → session.outcome = .cancelled
  /-- If the log stands where its walk has ended, nothing is recovered. -/
  walked : session.state = .complete → session.recovered = []

/-- An open log in order is coherent, if its walk was complete just if that met an end of file
record. -/
theorem coherent_of_orderly (orderly : session.Orderly start) (held : session.contents ≠ none)
    (met : start.scan.outcome = .complete ↔ start.scan.sentinel.isSome = true) :
    session.Coherent := by
  obtain ⟨contents, holding⟩ := Option.ne_none_iff_exists'.mp held
  have kept := orderly.held contents holding
  have answer : session.sentinel = .ok (start.scan.sentinel.map Prod.snd) := by
    simp only [sentinel, Session.held, holding, Except.map, kept.scan]
  refine ⟨?_, ?_, outcome_of_state_eq_cancelled orderly, ?_⟩
  · intro complete
    rw [answer]
    rcases orderly.outcome with same | cancelled
    · rw [same, met, Option.isSome_iff_exists] at complete
      obtain ⟨found, some⟩ := complete
      rw [some]
      exact ⟨found.2, rfl⟩
    · rw [cancelled] at complete
      cases complete
  · intro corrupted
    rw [answer]
    rcases orderly.outcome with same | cancelled
    · have incomplete : ¬start.scan.outcome = .complete := by
        intro complete
        rw [same, complete] at corrupted
        cases corrupted
      rw [met, Option.not_isSome_iff_eq_none] at incomplete
      rw [incomplete]
      rfl
    · rw [cancelled] at corrupted
      cases corrupted
  · rw [state, recovered, holding]
    exact kept.complete

/-- A log that opens holds something and is in order after a walk that was complete just if it met
an end of file record. -/
theorem ofSource_orderly {settings : Settings} {source : Source}
    (opens : ofSource settings source = .ok session) :
    ∃ start : Contents, session.Orderly start ∧ session.contents ≠ none ∧
      session.settings = settings ∧
      (start.scan.outcome = .complete ↔ start.scan.sentinel.isSome = true) := by
  obtain ⟨length, header, measured, ready, -, -, rfl⟩ := ofSource_eq_ok_iff.mp opens
  refine ⟨walked length header ready, opened_orderly settings length header ready, ?_, ?_,
    run_complete_iff _ _ _⟩
  · unfold opened
    dsimp only
    split <;> nofun
  · unfold opened
    dsimp only
    split <;> rfl

/-- Whatever is done to a log that opened, its phase says all about where it stands. -/
theorem state_phase {settings : Settings} {source : Source}
    (opens : ofSource settings source = .ok session) (actions : List Action) :
    (session.after actions).phase.state = (session.after actions).state := by
  obtain ⟨start, orderly, -⟩ := ofSource_orderly opens
  have settled := state_settled (after_orderly orderly actions)
  rw [phase]
  generalize (session.after actions).state = stands at settled ⊢
  cases stands with
  | complete | cancelled | recoveryComplete | closed => rfl
  | headerValidated | scanning | recovering => exact absurd settled (by decide)

/-- Whatever the source does and whatever is done to a log that opened: it stands where its walk or
a recovery pass has ended, or closed, and never where one is under way; it stands closed just if it
was closed, and then it refuses; until then it is coherent and answers about its file as it did when
it opened; and of its settings only the codepage changes, to the one that was selected last. -/
theorem lifecycle {settings : Settings} {source : Source}
    (opens : ofSource settings source = .ok session) (actions : List Action) :
    let now := session.after actions
    now.state ∈ [.complete, .cancelled, .recoveryComplete, .closed] ∧
      (now.state = .closed ↔ ∃ before later, actions = before ++ .close :: later ∧
        (session.after before).close.1 = .ok ()) ∧
      (now.state = .closed → now.Refuses) ∧
      (now.state ≠ .closed → now.Coherent ∧ now.AnswersAs session) ∧
      now.settings = { settings with
        codepage := (actions.filterMap Action.codepage?).getLast?.getD settings.codepage } ∧
      ∀ number, (now.setCodepage number).1 = .ok () ↔
        (Action.setCodepage number).codepage?.isSome := by
  obtain ⟨start, orderly, held, same, met⟩ := ofSource_orderly opens
  have orderly' := after_orderly orderly actions
  have closed := state_eq_closed_iff orderly'
  refine ⟨?_, ?_, ?_, ?_, ?_, fun number => setCodepage_eq_ok_iff⟩
  · exact state_settled orderly'
  · rw [closed]
    exact contents_after_eq_none_iff held actions
  · rw [closed]
    exact refuses_of_contents_eq_none
  · rw [ne_eq, closed]
    intro held'
    exact ⟨coherent_of_orderly orderly' held' met, answersAs_of_orderly orderly' orderly held' held⟩
  · rw [settings_after, same]

/-- The log is coherent after a pass was cancelled, and refuses once it is closed, when its codepage
can still be selected. -/
theorem lifecycle_of_split_log : ∃ session, ofSource {} (.ofBytes splitLog) = .ok session ∧
    (session.after [.setAborted true, .recover]).Coherent ∧
    (session.after [.setAborted true, .recover]).AnswersAs session ∧
    (session.after [.recover, .close, .setCodepage 1251]).Refuses ∧
    (session.after [.recover, .close, .setCodepage 1251]).settings.codepage = .cyrillic := by
  obtain ⟨session, opens, -, holding⟩ := opens_recovering splitLog_valid {} run_splitLog rfl
  have held : session.contents ≠ none := by
    rw [holding]
    nofun
  obtain ⟨-, closed, -, answers, -⟩ := lifecycle opens [.setAborted true, .recover]
  have isOpen : (session.after [.setAborted true, .recover]).state ≠ .closed := by
    rw [ne_eq, closed]
    rintro ⟨before, later, same, -⟩
    have member : Action.close ∈ [Action.setAborted true, .recover] := by
      rw [same]
      exact List.mem_append_right before List.mem_cons_self
    rcases List.mem_cons.mp member with other | member
    · cases other
    · cases List.mem_singleton.mp member
  obtain ⟨-, closed', refuses, -, settings, -⟩ :=
    lifecycle opens [.recover, .close, .setCodepage 1251]
  have closes : (session.after [.recover]).close.1 = .ok () := by
    rw [close_eq_ok_iff]
    intro nothing
    have closing : Action.recover = .close := eq_close_of_contents_act held nothing
    cases closing
  have refused := refuses (closed'.mpr ⟨[.recover], [.setCodepage 1251], rfl, closes⟩)
  obtain ⟨coherent, same⟩ := answers isOpen
  refine ⟨session, opens, coherent, same, refused, ?_⟩
  rw [settings]
  rfl

/-- A recovery pass leaves the outcome as it is, or it cancels the outcome and the log stands
cancelled. -/
theorem outcome_withRecovery (session : Session) (contents : Contents) (pass : Recovery × Source) :
    (session.withRecovery contents pass).outcome = session.outcome ∨
      ((session.withRecovery contents pass).outcome = .cancelled ∧
        (session.withRecovery contents pass).state = .cancelled) := by
  rw [withRecovery_outcome, withRecovery_state]
  cases pass.1.ending with
  | finished => exact .inl rfl
  | cancelled => exact .inr ⟨rfl, rfl⟩
  | failed offset error => exact .inl rfl

/-- So does every action. -/
theorem outcome_act (session : Session) (action : Action) :
    (session.act action).outcome = session.outcome ∨
      ((session.act action).outcome = .cancelled ∧ (session.act action).state = .cancelled) := by
  rcases session.act_cases action with ⟨contents, -, pass⟩ | ⟨-, same, -⟩
  · rw [pass]
    exact outcome_withRecovery _ _ _
  · exact .inl same

/-- Once the outcome is cancelled, it stays so. -/
theorem outcome_after_of_cancelled (cancelled : session.outcome = .cancelled)
    (actions : List Action) : (session.after actions).outcome = .cancelled := by
  refine after_induction (motive := fun s => s.outcome = .cancelled) session cancelled ?_ actions
  intro s action cancelled
  rcases s.outcome_act action with same | ⟨cancels, -⟩
  · exact same.trans cancelled
  · exact cancels

/-- As long as a log never stood cancelled, its outcome is the one that it opened with. -/
theorem outcome_after_of_uncancelled (actions : List Action)
    (running : ∀ before later, actions = before ++ later →
      (session.after before).state ≠ .cancelled) :
    (session.after actions).outcome = session.outcome := by
  induction actions generalizing session with
  | nil => rfl
  | cons action rest ih =>
    have later : ((session.act action).after rest).outcome = (session.act action).outcome := by
      refine ih ?_
      intro before later same
      exact running (action :: before) later (congrArg (action :: ·) same)
    rcases session.outcome_act action with same | ⟨-, cancels⟩
    · exact later.trans same
    · exact absurd cancels (running [action] rest rfl)

/-- A log opens with the outcome of its walk, or stands cancelled. -/
theorem opened_outcome (settings : Settings) (length : Nat) (header : Header) (ready : Source) :
    (opened settings length header ready).outcome = (Scan.run ⟨length⟩ header ready).1.outcome ∨
      (opened settings length header ready).state = .cancelled := by
  rw [opened]
  split
  · rcases outcome_withRecovery (afterWalk settings ⟨length⟩ header
        (Scan.run ⟨length⟩ header ready)) (walked length header ready) _ with same | ⟨-, cancels⟩
    · exact .inl same
    · exact .inr cancels
  · exact .inl rfl

/-- The outcome of a log tells of corruption just if the walk met it when the log opened and the log
never stood cancelled since: a pass that is cancelled, when the log opens or later, hides what the
walk met. -/
theorem isCorrupted_iff_of_walk {settings : Settings} {source : Source}
    (opens : ofSource settings source = .ok session) (actions : List Action) :
    ∃ length header measured ready, source.measure = (.ok length, measured) ∧
      readHeader measured length = (.ok header, ready) ∧
      ((session.after actions).outcome.isCorrupted = true ↔
        (Scan.run ⟨length⟩ header ready).1.outcome.isCorrupted = true ∧
          ∀ before later, actions = before ++ later →
            (session.after before).state ≠ .cancelled) := by
  obtain ⟨length, header, measured, ready, measures, reads, rfl⟩ := ofSource_eq_ok_iff.mp opens
  refine ⟨length, header, measured, ready, measures, reads, ?_⟩
  have orderly := opened_orderly settings length header ready
  have first := opened_outcome settings length header ready
  generalize opened settings length header ready = session at orderly first ⊢
  have kept := after_orderly orderly
  constructor
  · intro corrupted
    constructor
    · rcases (kept actions).outcome with same | cancelled
      · rw [same] at corrupted
        exact corrupted
      · rw [cancelled] at corrupted
        cases corrupted
    · intro before later same cancelled
      have gone := outcome_of_state_eq_cancelled (kept before) cancelled
      rw [same, after_append, outcome_after_of_cancelled gone] at corrupted
      cases corrupted
  · rintro ⟨corrupted, running⟩
    rcases first with same | cancelled
    · rw [outcome_after_of_uncancelled actions running, same]
      exact corrupted
    · exact absurd cancelled (running [] actions rfl)

/-- The walk of the log met corruption, and the outcome goes on telling so while the flag is up but
no pass was cancelled. -/
theorem split_log_stays_corrupted : ∃ session length header measured ready,
    ofSource {} (.ofBytes splitLog) = .ok session ∧
      readHeader measured length = (.ok header, ready) ∧
      (Scan.run ⟨length⟩ header ready).1.outcome.isCorrupted = true ∧
      (session.after [.setAborted true]).outcome.isCorrupted = true ∧
      (session.after [.setAborted true]).state ≠ .cancelled := by
  obtain ⟨session, opens, outcome, -⟩ := opens_recovering splitLog_valid {} run_splitLog rfl
  have kept : (session.after [.setAborted true]).outcome = session.outcome := rfl
  have corrupted : (session.after [.setAborted true]).outcome.isCorrupted = true := by
    rw [kept, outcome]
    rfl
  obtain ⟨length, header, measured, ready, -, reads, tells⟩ :=
    isCorrupted_iff_of_walk opens [.setAborted true]
  obtain ⟨walk, running⟩ := tells.mp corrupted
  exact ⟨session, length, header, measured, ready, opens, reads, walk, corrupted,
    running [.setAborted true] [] rfl⟩

/-- The walk of the log met corruption, and its outcome says so when it has opened, but no longer
once a pass was cancelled. -/
theorem cancelled_pass_hides_corruption : ∃ session contents,
    ofSource {} (.ofBytes splitLog) = .ok session ∧ session.contents = some contents ∧
      contents.scan.outcome.isCorrupted = true ∧ session.outcome.isCorrupted = true ∧
      (session.after [.setAborted true, .recover]).outcome.isCorrupted = false := by
  obtain ⟨session, opens, outcome, holding⟩ := opens_recovering splitLog_valid {} run_splitLog rfl
  have room : 0 < (Ring.mk splitLog.size).size := by
    rw [size_splitLog]
    decide
  refine ⟨session, _, opens, holding, rfl, ?_, ?_⟩
  · rw [outcome]
    rfl
  · have raised : (session.setAborted true).contents = session.contents := rfl
    have pass : session.after [.setAborted true, .recover] =
        (session.setAborted true).recover.2 := rfl
    rw [pass, recover_of_contents (raised.trans holding), recoverWithin,
      run_of_aborted room splitScan rfl]
    rfl

end Session

end EventLog
