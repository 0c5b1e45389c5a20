import EventLog.Machine.Recovery
import EventLog.Proofs.Session

/-!
# Opened logs on the machine

Opening a log, and whatever is done to it later, as a machine does it. The only actions that compute
offsets are recovery passes. If the length that the source reports when the log is opened is less
than half of what a word can count, the machine opens the log and goes through any actions
(`ofSource_eq`, `after_eq`).
-/

namespace EventLog.Machine

open Decoding

/-- Reads and decodes the file header. -/
def readHeader (source : Source) (length : Nat) : Option (Except LogError Header × Source) := do
  match readPiece source length .header 0 Header.size with
  | (.error e, source) => return (.error (.badHeader e), source)
  | (.ok bytes, source) =>
    let header ← (decodeHeader bytes).run
    return (header.mapError .badHeader, source)

/-- Runs recovery over what a log holds. -/
def recoverWithin (session : Session) (contents : Contents) : Option Session := do
  let pass ← recover contents.ring contents.scan session.source
  return session.withRecovery contents.beginRecovery pass

/-- Walks the ring, and recovers records if the settings say so. -/
def openWith (settings : Settings) (length : Nat) (header : Header) (source : Source) :
    Option Session := do
  let scanned ← run ⟨length⟩ header source
  let session := Session.afterWalk settings ⟨length⟩ header scanned
  match session.contents with
  | some contents =>
    if Session.recovers settings.recovery session.outcome then recoverWithin session contents
    else return session
  | none => return session

/-- Opens a log. -/
def ofSource (settings : Settings) (source : Source) : Option (Except LogError Session) := do
  match source.measure with
  | (.error e, _) => return .error (.source e)
  | (.ok length, source) =>
    match ← readHeader source length with
    | (.error e, _) => return .error e
    | (.ok header, source) =>
      let session ← openWith settings length header source
      return .ok session

/-- The log after an action. -/
def act (session : Session) : Action → Option Session
  | .recover =>
    match session.contents with
    | none => some session
    | some contents => recoverWithin session contents
  | .setCodepage number => some (session.setCodepage number).2
  | .setAborted aborted => some (session.setAborted aborted)
  | .arm plan => some (session.arm plan)
  | .close => some session.close.2

/-- The log after all of the actions, in order. -/
def after (session : Session) (actions : List Action) : Option Session := actions.foldlM act session

/-- What a log holds, if it is open, keeps to a ring whose offsets the machine can add. -/
structure Contained (contents : Contents) : Prop where
  /-- The length of the file is less than half of what a word can count. -/
  small : contents.ring.fileEnd < UInt64.size / 2
  /-- What the walk found lies in the ring. -/
  within : contents.scan.Within contents.ring

/-- The machine reads every header as it is read. -/
theorem readHeader_eq {length : Nat} (small : length < UInt64.size / 2) (source : Source) :
    readHeader source length = some (Session.readHeader source length) := by
  unfold readHeader Session.readHeader
  rw [readPiece_eq small]
  cases source.readPiece length .header 0 Header.size with
  | mk outcome source =>
    cases outcome with
    | error e => rfl
    | ok bytes =>
      dsimp only
      rw [decodeHeader_eq]
      rfl

/-- The machine runs recovery as it is run. -/
theorem recoverWithin_eq (session : Session) {contents : Contents}
    (contained : Contained contents) :
    recoverWithin session contents = some (session.recoverWithin contents) := by
  rw [recoverWithin, recover_eq contained.small contained.within]
  rfl

/-- The machine walks and recovers as a log does that is opened. -/
theorem openWith_eq (settings : Settings) {length : Nat} (small : length < UInt64.size / 2)
    (header : Header) (source : Source) :
    openWith settings length header source =
      some (Session.opened settings length header source) := by
  have contained : Contained (Session.walked length header source) :=
    ⟨small, Scan.run_within ⟨length⟩ header source⟩
  unfold openWith Session.opened
  rw [run_eq small]
  dsimp only [Option.bind_eq_bind, Option.bind_some, Session.afterWalk]
  split
  · exact recoverWithin_eq _ contained
  · rfl

/-- The machine opens every log whose reported length is less than half of what a word can count. -/
theorem ofSource_eq (settings : Settings) {source : Source}
    (small : source.plan.reportedLength.getD source.data.size < UInt64.size / 2) :
    ofSource settings source = some (Session.ofSource settings source) := by
  unfold ofSource
  cases measures : source.measure with
  | mk outcome measured =>
    cases outcome with
    | error e =>
      rw [Session.ofSource, measures]
      rfl
    | ok length =>
      have short : length < UInt64.size / 2 := by
        rw [Source.length_of_measure (congrArg Prod.fst measures)]
        exact small
      dsimp only
      rw [readHeader_eq short]
      cases reads : Session.readHeader measured length with
      | mk outcome ready =>
        cases outcome with
        | error e =>
          rw [Session.ofSource, measures]
          dsimp only [Session.mapError_ok, bind, Except.bind]
          rw [reads]
          rfl
        | ok header =>
          rw [Session.ofSource_of_header measures reads]
          dsimp only [Option.bind_eq_bind, Option.bind_some]
          rw [openWith_eq settings short]
          rfl

/-- A recovery pass changes of what a log holds just the recovered records and where it stands. -/
theorem contents_recoverWithin (session : Session) (contents : Contents) :
    ∃ recovered state,
      (session.recoverWithin contents).contents = some { contents with recovered, state } :=
  ⟨_, _, rfl⟩

/-- What a log holds that was opened is contained. -/
theorem contained_of_ofSource {settings : Settings} {source : Source} {session : Session}
    (small : source.plan.reportedLength.getD source.data.size < UInt64.size / 2)
    (opens : Session.ofSource settings source = .ok session) :
    ∀ contents ∈ session.contents, Contained contents := by
  obtain ⟨length, header, measured, ready, measures, -, rfl⟩ :=
    Session.ofSource_eq_ok_iff.mp opens
  rw [← Source.length_of_measure (congrArg Prod.fst measures)] at small
  have within := Scan.run_within ⟨length⟩ header ready
  intro contents member
  unfold Session.opened at member
  dsimp only at member
  split at member
  · cases member
    exact ⟨small, within⟩
  · cases member
    exact ⟨small, within⟩

/-- An action leaves what a log holds contained. -/
theorem contained_act {session : Session} (contained : ∀ contents ∈ session.contents,
    Contained contents) (action : Action) :
    ∀ contents ∈ (session.act action).contents, Contained contents := by
  rcases session.act_cases action with ⟨contents, holding, pass⟩ | ⟨-, -, left | dropped⟩
  · obtain ⟨small, within⟩ := contained contents holding
    obtain ⟨recovered, state, held⟩ := contents_recoverWithin session contents
    rw [pass, held]
    rintro _ ⟨⟩
    exact ⟨small, within⟩
  · rw [left]
    exact contained
  · rw [dropped]
    rintro _ ⟨⟩

/-- The machine does to a contained log what an action does. -/
theorem act_eq {session : Session} (contained : ∀ contents ∈ session.contents, Contained contents)
    (action : Action) : act session action = some (session.act action) := by
  cases action with
  | recover =>
    rw [act, Session.act, Session.recover]
    cases holding : session.contents with
    | none => rfl
    | some contents => exact recoverWithin_eq session (contained contents holding)
  | setCodepage number => rfl
  | setAborted aborted => rfl
  | arm plan => rfl
  | close => rfl

/-- The machine goes through any actions on a contained log. -/
theorem after_eq {session : Session}
    (contained : ∀ contents ∈ session.contents, Contained contents) (actions : List Action) :
    after session actions = some (session.after actions) := by
  induction actions generalizing session with
  | nil => rfl
  | cons action rest ih =>
    have later := ih (contained_act contained action)
    rw [after] at later ⊢
    rw [List.foldlM_cons, act_eq contained]
    exact later

end EventLog.Machine
