import EventLog.Codepage
import EventLog.Recovery

/-!
# Opened logs

Opening a log reads its header, walks the ring and recovers records as the settings say; only a
header that cannot be read or is not valid makes it fail. An opened log answers about what it found,
can run recovery again, and can be closed, after which it answers nothing but its outcome.
-/

namespace EventLog

/-- When recovery runs while a log is opened. -/
inductive RecoveryMode where
  /-- Never. -/
  | disabled
  /-- When the walk met bytes that it could not go on from. -/
  | onCorruption
  /-- Always, unless the walk was cancelled. -/
  | always
  deriving DecidableEq, Repr

/-- How a log is opened and rendered. -/
structure Settings where
  /-- The codepage of narrow strings. -/
  codepage : Codepage := .western
  /-- When recovery runs. -/
  recovery : RecoveryMode := .onCorruption
  /-- Whether rendered records are indented. -/
  indent : Bool := true
  deriving DecidableEq, Repr

/-- Where a log stands, on the way and in between. -/
inductive ScanState where
  /-- The header has been read and is valid. -/
  | headerValidated
  /-- The walk is under way. -/
  | scanning
  /-- The walk has ended. -/
  | complete
  /-- The walk or a recovery pass was cancelled. -/
  | cancelled
  /-- A recovery pass is under way. -/
  | recovering
  /-- A recovery pass has ended. -/
  | recoveryComplete
  /-- The log is closed. -/
  | closed
  deriving DecidableEq, Repr

/-- Where a log stands when nothing is under way. -/
inductive Phase where
  /-- The walk has ended. -/
  | complete
  /-- The walk or a recovery pass was cancelled. -/
  | cancelled
  /-- A recovery pass has ended. -/
  | recoveryComplete
  /-- The log is closed. -/
  | closed
  deriving DecidableEq, Repr

/-- The phase that a state is, unless something is under way. -/
def ScanState.phase? : ScanState → Option Phase
  | complete => some .complete
  | cancelled => some .cancelled
  | recoveryComplete => some .recoveryComplete
  | closed => some .closed
  | headerValidated | scanning | recovering => none

/-- The state that a phase is. -/
def Phase.state : Phase → ScanState
  | complete => .complete
  | cancelled => .cancelled
  | recoveryComplete => .recoveryComplete
  | closed => .closed

/-- Where a log stands after its walk. -/
def ScanState.afterWalk : Outcome → ScanState
  | .cancelled => .cancelled
  | _ => .complete

/-- Where a log stands after a recovery pass. -/
def ScanState.afterRecovery : Ending → ScanState
  | .cancelled => .cancelled
  | _ => .recoveryComplete

/-- What an opened log holds until it is closed. -/
structure Contents where
  /-- The region of the records. -/
  ring : Ring
  /-- The file header. -/
  header : Header
  /-- What the walk found. -/
  scan : Scan
  /-- The records of the last recovery pass. -/
  recovered : List Record
  /-- Where the log stands. -/
  state : ScanState

namespace Contents

/-- What a log holds once its header has been read: nothing has been found yet. -/
def validated (ring : Ring) (header : Header) : Contents :=
  { ring, header, scan := .ended .cancelled, recovered := [], state := .headerValidated }

/-- What a log holds while its walk is under way. -/
def beginWalk (contents : Contents) : Contents := { contents with state := .scanning }

/-- What a log holds after its walk. -/
def endWalk (contents : Contents) (scan : Scan) : Contents :=
  { contents with scan, state := ScanState.afterWalk scan.outcome }

/-- What a log holds while a recovery pass is under way: the records of an earlier pass are
dropped. -/
def beginRecovery (contents : Contents) : Contents :=
  { contents with recovered := [], state := .recovering }

/-- What a log holds after a recovery pass. -/
def endRecovery (contents : Contents) (pass : Recovery) : Contents :=
  { contents with recovered := pass.records, state := ScanState.afterRecovery pass.ending }

end Contents

/-- A log that was opened, and possibly closed again. -/
structure Session where
  /-- How the log was opened. -/
  settings : Settings
  /-- The source, whose abort flag outlives the log. -/
  source : Source
  /-- How the walk ended, or that a later recovery pass was cancelled. -/
  outcome : Outcome
  /-- What the log holds; nothing once it is closed. -/
  contents : Option Contents

namespace Session

/-- Reads and decodes the file header of a source of a length. -/
def readHeader (source : Source) (length : Nat) : Except LogError Header × Source :=
  match source.readPiece length .header 0 Header.size with
  | (.error e, source) => (.error (.badHeader e), source)
  | (.ok bytes, source) => ((Header.decode bytes).mapError .badHeader, source)

/-- Whether recovery runs after a walk that ended like this. -/
def recovers (mode : RecoveryMode) (outcome : Outcome) : Bool :=
  match mode with
  | .disabled => false
  | .onCorruption => outcome.isCorrupted
  | .always => outcome != .cancelled

/-- The outcome after a recovery pass: a pass that was cancelled cancels the whole. -/
def outcomeAfterRecovery (outcome : Outcome) : Ending → Outcome
  | .cancelled => .cancelled
  | _ => outcome

/-- A log after a recovery pass. -/
def withRecovery (session : Session) (contents : Contents) (pass : Recovery × Source) : Session :=
  { session with
    source := pass.2
    outcome := outcomeAfterRecovery session.outcome pass.1.ending
    contents := some (contents.endRecovery pass.1) }

/-- A log after its walk, before any recovery. -/
def afterWalk (settings : Settings) (ring : Ring) (header : Header) (walk : Scan × Source) :
    Session :=
  { settings
    source := walk.2
    outcome := walk.1.outcome
    contents := some ((Contents.validated ring header).beginWalk.endWalk walk.1) }

/-- Runs recovery over what a log holds, in place of any earlier pass. -/
def recoverWithin (session : Session) (contents : Contents) : Session :=
  session.withRecovery contents.beginRecovery
    (Recovery.run contents.ring contents.scan session.source)

/-- Opens a log. -/
def ofSource (settings : Settings) (source : Source) : Except LogError Session := do
  let (length, source) := source.measure
  let length ← length.mapError .source
  let (header, source) := readHeader source length
  let header ← header
  let session := afterWalk settings ⟨length⟩ header (Scan.run ⟨length⟩ header source)
  match session.contents with
  | some contents =>
    if recovers settings.recovery session.outcome then return session.recoverWithin contents
    else return session
  | none => return session

/-- What a log holds; a closed log answers with an error. -/
def held (session : Session) : Except LogError Contents :=
  match session.contents with
  | some contents => .ok contents
  | none => .error .closed

/-- The file header. -/
def header (session : Session) : Except LogError Header := session.held.map (·.header)

/-- The length of the file. -/
def fileSize (session : Session) : Except LogError Nat := session.held.map (·.ring.fileEnd)

/-- The end of file record, if the walk met it. -/
def sentinel (session : Session) : Except LogError (Option Sentinel) :=
  session.held.map fun contents => contents.scan.sentinel.map Prod.snd

/-- Where the log stands. -/
def state (session : Session) : ScanState := (session.contents.map (·.state)).getD .closed

/-- Where the log stands, as long as nothing is under way. -/
def phase (session : Session) : Phase := session.state.phase?.getD .closed

/-- The records of the walk; none once the log is closed. -/
def records (session : Session) : List Record :=
  (session.contents.map (·.scan.records)).getD []

/-- The recovered records; none once the log is closed. -/
def recovered (session : Session) : List Record := (session.contents.map (·.recovered)).getD []

/-- The record at an index of a list. -/
def select (records : List Record) (index : Nat) : Except LogError Record :=
  match records[index]? with
  | some record => .ok record
  | none => .error (.noSuchRecord index records.length)

/-- The record of the walk at an index. -/
def record (session : Session) (index : Nat) : Except LogError Record :=
  session.held >>= fun contents => select contents.scan.records index

/-- The recovered record at an index. -/
def recoveredRecord (session : Session) (index : Nat) : Except LogError Record :=
  session.held >>= fun contents => select contents.recovered index

/-- A record of the list has the number. -/
def hasNumber (records : List Record) (number : UInt32) : Bool :=
  records.any fun record => record.number == number

/-- Runs recovery again; the answer is how many records it recovered. -/
def recover (session : Session) : Except LogError Nat × Session :=
  match session.contents with
  | none => (.error .closed, session)
  | some contents =>
    let session := session.recoverWithin contents
    (.ok session.recovered.length, session)

/-- Selects the codepage with a number; an unknown one leaves the selection as it is. -/
def setCodepage (session : Session) (number : UInt32) : Except LogError Unit × Session :=
  match Codepage.ofNumber number with
  | .ok codepage => (.ok (), { session with settings := { session.settings with codepage } })
  | .error e => (.error e, session)

/-- Raises or lowers the abort flag. -/
def setAborted (session : Session) (aborted : Bool) : Session :=
  { session with source := { session.source with aborted } }

/-- Closes the log and drops what it holds. -/
def close (session : Session) : Except LogError Unit × Session :=
  match session.contents with
  | none => (.error .closed, session)
  | some _ => (.ok (), { session with contents := none })

/-- Lets the source of the log behave by a new plan. -/
def arm (session : Session) (plan : FaultPlan) : Session :=
  { session with source := session.source.arm plan }

end Session

end EventLog
