import EventLog.Proofs.PrimaryRecords
import EventLog.Session.Ways

/-!
# Bytes that arrive in portions

How a source splits its bytes over read calls, and which calls it interrupts, cannot be told from
the log that is opened on it. Two sources with the same bytes that do no harm lead to the same walk
(`walk_same`, `run_same`), to the same header or the same error, and to logs that stand alike
(`Alike`). As long as nobody raises the flag or brings in a harmful plan, whatever is done to both
keeps them alike (`Alike.act`), so that they give the same answers (`Way.opensAlike`).
-/

namespace EventLog

/-- The plan of a source that delivers so many bytes in one call at most, and that interrupts the
calls of a list. -/
def FaultPlan.inPortions (most : Nat) (interrupted : List Nat) : FaultPlan where
  reaction call := if call ∈ interrupted then .interrupt else .serve (some most)
  signals _ := false
  seekFails _ := false
  reportedLength := Option.none
  lastInterrupt := interrupted.max?.getD 0
  le_lastInterrupt call interrupts := by
    by_cases listed : call ∈ interrupted
    · exact List.le_max?_getD_of_mem listed
    · rw [if_neg listed] at interrupts
      cases interrupts

/-- Portions of at least one byte do no harm, whichever calls are interrupted. -/
theorem FaultPlan.harmless_inPortions {most : Nat} (positive : 0 < most)
    (interrupted : List Nat) : (FaultPlan.inPortions most interrupted).Harmless where
  serves call := by
    by_cases listed : call ∈ interrupted
    · exact .inl (if_pos listed)
    · refine .inr ⟨some most, if_neg listed, ?_⟩
      simp only [ne_eq, Option.some.injEq]
      omega
  quiet _ := rfl
  seeks _ := rfl
  honest := rfl

/-- A source delivers some bytes if they are its own, no call of it fails, and the flag is down. -/
structure Source.Delivers (data : Array UInt8) (source : Source) : Prop where
  /-- The bytes are those of the source. -/
  data : source.data = data
  /-- No call fails. -/
  plan : source.plan.Harmless
  /-- The flag is down. -/
  down : source.aborted = false

variable {data : Array UInt8} {first second : Source}

/-- Some bytes at hand are delivered. -/
theorem Source.Delivers.ofBytes (data : Array UInt8) : (Source.ofBytes data).Delivers data :=
  ⟨rfl, FaultPlan.harmless_none, rfl⟩

/-- What delivers some bytes still does after more calls have been counted. -/
theorem Source.Delivers.of_agrees {before after : Source} (delivers : before.Delivers data)
    (agrees : after.Agrees before) : after.Delivers data :=
  ⟨agrees.1.trans delivers.data, agrees.harmless delivers.plan, agrees.2.2.trans delivers.down⟩

namespace Scan

/-- Sources that deliver the same bytes are walked alike. -/
theorem walk_same (delivers : first.Delivers data) (delivers' : second.Delivers data)
    {offset : Nat} (consumed : Nat) (inside : Ring.contains ⟨data.size⟩ offset = true) :
    (walk ⟨data.size⟩ first offset consumed).1 = (walk ⟨data.size⟩ second offset consumed).1 := by
  -- What the first walk meets is a fact about the bytes, and the second walk goes on by the law for
  -- what stands there; its calls, which are others, are never looked at.
  fun_induction walk ⟨data.size⟩ first offset consumed generalizing second with
  | case1 first offset consumed up =>
    rw [delivers.down] at up
    cases up
  | case2 first offset consumed _ e after read =>
    have barren := (Ring.readFound_eq_readAt delivers.data delivers.plan inside).1
    rw [read] at barren
    exact (walk_barren delivers'.data delivers'.plan delivers'.down consumed inside
      barren.symm).symm
  | case3 first offset consumed _ sentinel after read =>
    obtain ⟨-, stands, -⟩ := Ring.readFound_ok delivers.data read
    rw [Ring.foundAt_sentinel_iff inside] at stands
    exact (walk_sentinel delivers'.data delivers'.plan delivers'.down consumed inside stands).symm
  | case4 first offset consumed _ record after read full =>
    obtain ⟨-, stands, -⟩ := Ring.readFound_ok delivers.data read
    rw [Ring.foundAt_event_iff inside] at stands
    exact (walk_overfull delivers'.data delivers'.plan delivers'.down consumed inside stands
      full).symm
  | case5 first offset consumed _ record after read room rest last walked ih =>
    obtain ⟨-, stands, -⟩ := Ring.readFound_ok delivers.data read
    rw [Ring.foundAt_event_iff inside] at stands
    have agrees := (Ring.readFound_harmless delivers.data delivers.plan inside).2.of_eq read
    obtain ⟨after', agrees', walked'⟩ := walk_event delivers'.data delivers'.plan delivers'.down
      consumed inside stands (Nat.le_of_not_lt room)
    rw [Ring.next_eq_position inside stands.fits] at ih walked
    have later := ih (delivers.of_agrees agrees) (delivers'.of_agrees agrees')
      (Ring.contains_position inside _)
    rw [walked] at later
    rw [walked', ← later]

/-- Sources that deliver the same bytes are walked alike, whatever the header says. -/
theorem run_same (delivers : first.Delivers data) (delivers' : second.Delivers data)
    (header : Header) :
    (run ⟨data.size⟩ header first).1 = (run ⟨data.size⟩ header second).1 := by
  by_cases both : Ring.contains ⟨data.size⟩ header.firstRecordOffset.toNat = true ∧
      Ring.contains ⟨data.size⟩ header.sentinelOffset.toNat = true
  · rw [run_inside both.1 both.2, run_inside both.1 both.2]
    exact walk_same delivers delivers' 0 both.1
  · rw [run_outside both, run_outside both]

end Scan

namespace Session

/-- Two logs stand alike: both sources deliver the same bytes, and all else is the same. -/
structure Alike (data : Array UInt8) (first second : Session) : Prop where
  /-- The source of the first delivers the bytes. -/
  delivers : first.source.Delivers data
  /-- The source of the second delivers the bytes. -/
  delivers' : second.source.Delivers data
  /-- They were opened alike. -/
  settings : first.settings = second.settings
  /-- Their walks ended alike. -/
  outcome : first.outcome = second.outcome
  /-- They hold the same. -/
  contents : first.contents = second.contents
  /-- What they hold is sound. -/
  sound : ∀ contents ∈ first.contents, contents.Sound data

/-- A recovery pass leaves the log with its settings. -/
theorem withRecovery_settings (session : Session) (contents : Contents)
    (pass : Recovery × Source) :
    (session.withRecovery contents pass).settings = session.settings := rfl

/-- Another recovery pass keeps logs alike. -/
theorem Alike.recoverWithin {first second : Session} (alike : Alike data first second)
    {contents : Contents} (holding : first.contents = some contents) :
    Alike data (first.recoverWithin contents) (second.recoverWithin contents) := by
  have sound := alike.sound contents holding
  have d := alike.delivers
  have d' := alike.delivers'
  obtain ⟨ends, holds⟩ := recoverWithin_harmless d.data d.plan d.down sound
  obtain ⟨ends', holds'⟩ := recoverWithin_harmless d'.data d'.plan d'.down sound
  have agrees := (Recovery.run_harmless d.data d.plan d.down sound.within).2
  have agrees' := (Recovery.run_harmless d'.data d'.plan d'.down sound.within).2
  rw [← sound.ring] at agrees agrees'
  rw [← withRecovery_source first contents] at agrees
  rw [← withRecovery_source second contents] at agrees'
  refine ⟨d.of_agrees agrees, d'.of_agrees agrees', ?_, ?_, ?_, ?_⟩
  · rw [Session.recoverWithin, Session.recoverWithin, withRecovery_settings,
      withRecovery_settings, alike.settings]
  · rw [ends, ends', alike.outcome]
  · rw [holds, holds']
  · obtain ⟨after, held, -, sound'⟩ := recoverWithin_sound d.data sound
    intro other member
    rw [held] at member
    cases member
    exact sound'

/-- Logs that were opened alike on sources that deliver the same bytes stand alike. -/
theorem opened_alike {first second : Source} (delivers : first.Delivers data)
    (delivers' : second.Delivers data) (settings : Settings) (header : Header) :
    Alike data (opened settings data.size header first)
      (opened settings data.size header second) := by
  have walks := Scan.run_same delivers delivers' header
  have same : walked data.size header first = walked data.size header second := by
    rw [walked, walked, walks]
  have alike : Alike data
      (afterWalk settings ⟨data.size⟩ header (Scan.run ⟨data.size⟩ header first))
      (afterWalk settings ⟨data.size⟩ header (Scan.run ⟨data.size⟩ header second)) := by
    refine ⟨delivers.of_agrees (Scan.run_agrees header delivers.data delivers.plan),
      delivers'.of_agrees (Scan.run_agrees header delivers'.data delivers'.plan), rfl,
      congrArg Scan.outcome walks, congrArg some same, ?_⟩
    intro contents member
    cases member
    exact walked_sound header _
  unfold opened
  dsimp only
  rw [← walks, ← same]
  split
  · exact alike.recoverWithin rfl
  · exact alike

/-- What a source that delivers some bytes reads as their header. -/
def headerOf (data : Array UInt8) : Except LogError Header :=
  if data.size < Header.size then
    .error (.badHeader (.truncated .header 0 Header.size data.size))
  else (Header.decode (data.extract 0 Header.size).toList).mapError .badHeader

/-- The header that is read, or the error, depends on the bytes alone. -/
theorem readHeader_delivers {source : Source} (delivers : source.Delivers data) :
    (readHeader source data.size).1 = headerOf data ∧
      (readHeader source data.size).2.Delivers data := by
  obtain ⟨result, agrees⟩ := source.readPiece_of_harmless delivers.plan .header 0 Header.size
  rw [delivers.data, Nat.zero_add, Nat.sub_zero] at result
  rw [delivers.data] at agrees
  unfold readHeader headerOf
  cases piece : source.readPiece data.size .header 0 Header.size with
  | mk outcome after =>
    rw [piece] at result agrees
    dsimp only at result
    subst result
    by_cases short : data.size < Header.size
    · rw [if_pos short, if_pos short]
      exact ⟨rfl, delivers.of_agrees agrees⟩
    · rw [if_neg short, if_neg short]
      exact ⟨rfl, delivers.of_agrees agrees⟩

/-- A log on a source that delivers some bytes opens if their header can be read, and the walk goes
over a source that still delivers them. -/
theorem ofSource_delivers {source : Source} (delivers : source.Delivers data)
    (settings : Settings) :
    ∃ ready : Source, ready.Delivers data ∧
      ofSource settings source =
        (headerOf data).map fun header => opened settings data.size header ready := by
  obtain ⟨length, agrees⟩ := source.measure_of_harmless delivers.plan
  cases measures : source.measure with
  | mk outcome measured =>
    rw [measures] at length agrees
    rw [delivers.data] at length
    dsimp only at length
    subst length
    obtain ⟨result, kept⟩ := readHeader_delivers (delivers.of_agrees agrees)
    cases reads : readHeader measured data.size with
    | mk outcome ready =>
      rw [reads] at result kept
      dsimp only at result
      refine ⟨ready, kept, ?_⟩
      rw [← result]
      cases outcome with
      | ok header => exact ofSource_of_header measures reads
      | error e =>
        rw [ofSource, measures]
        dsimp only [mapError_ok, bind, Except.bind]
        rw [reads]
        rfl

/-- Two logs give the same answers. -/
structure SameAnswers (first second : Session) : Prop where
  /-- The state. -/
  state : first.state = second.state
  /-- How the walk ended. -/
  outcome : first.outcome = second.outcome
  /-- The file header. -/
  header : first.header = second.header
  /-- The length of the file. -/
  fileSize : first.fileSize = second.fileSize
  /-- The end of file record. -/
  sentinel : first.sentinel = second.sentinel
  /-- The records of the walk. -/
  records : first.records = second.records
  /-- The recovered records. -/
  recovered : first.recovered = second.recovered
  /-- The record of the walk at an index, or the error. -/
  record : ∀ index, first.record index = second.record index
  /-- The recovered record at an index, or the error. -/
  recoveredRecord : ∀ index, first.recoveredRecord index = second.recoveredRecord index
  /-- The settings. -/
  settings : first.settings = second.settings
  /-- The answer to another recovery pass. -/
  recover : first.recover.1 = second.recover.1
  /-- The answer to selecting a codepage. -/
  setCodepage : ∀ number, (first.setCodepage number).1 = (second.setCodepage number).1
  /-- The answer to closing the log. -/
  close : first.close.1 = second.close.1

/-- Logs that stand alike are both closed, or both hold the same. -/
theorem Alike.held {first second : Session} (alike : Alike data first second) :
    first.held = second.held := by
  rw [Session.held, Session.held, alike.contents]

/-- Logs that stand alike give the same answers. -/
theorem Alike.answers {first second : Session} (alike : Alike data first second) :
    SameAnswers first second where
  state := by rw [state, state, alike.contents]
  outcome := alike.outcome
  header := by rw [header, header, alike.held]
  fileSize := by rw [fileSize, fileSize, alike.held]
  sentinel := by rw [sentinel, sentinel, alike.held]
  records := by rw [records, records, alike.contents]
  recovered := by rw [recovered, recovered, alike.contents]
  record index := by rw [record, record, alike.held]
  recoveredRecord index := by rw [recoveredRecord, recoveredRecord, alike.held]
  settings := alike.settings
  recover := by
    cases holding : second.contents with
    | none =>
      have holding' := alike.contents.trans holding
      rw [recover, recover, holding, holding']
    | some contents =>
      have holding' := alike.contents.trans holding
      have pass := (alike.recoverWithin holding').contents
      rw [recover, recover, holding, holding']
      dsimp only
      rw [recovered, recovered, pass]
  setCodepage number := by
    rw [setCodepage, setCodepage]
    split <;> rfl
  close := by
    rw [close, close, alike.contents]
    split <;> rfl

end Session

/-- An action does not raise the flag and brings in no plan that does harm. -/
def Action.Quiet : Action → Prop
  | .setAborted aborted => aborted = false
  | .arm plan => plan.Harmless
  | _ => True

namespace Session

/-- Logs that stand alike still do after an action that is quiet. -/
theorem Alike.act {first second : Session} (alike : Alike data first second) {action : Action}
    (quiet : action.Quiet) : Alike data (first.act action) (second.act action) := by
  have d := alike.delivers
  have d' := alike.delivers'
  cases action with
  | recover =>
    cases holding : second.contents with
    | none =>
      rw [Session.act, Session.act, recover, recover, holding, alike.contents.trans holding]
      exact alike
    | some held =>
      have holding' := alike.contents.trans holding
      rw [Session.act, Session.act, recover_of_contents holding, recover_of_contents holding']
      exact alike.recoverWithin holding'
  | setCodepage number =>
    rw [Session.act, Session.act, setCodepage, setCodepage]
    cases Codepage.ofNumber number with
    | error e => exact alike
    | ok codepage =>
      refine ⟨d, d', ?_, alike.outcome, alike.contents, alike.sound⟩
      rw [alike.settings]
  | setAborted aborted =>
    cases quiet
    exact ⟨⟨d.data, d.plan, rfl⟩, ⟨d'.data, d'.plan, rfl⟩, alike.settings, alike.outcome,
      alike.contents, alike.sound⟩
  | arm plan =>
    exact ⟨⟨d.data, quiet, d.down⟩, ⟨d'.data, quiet, d'.down⟩, alike.settings, alike.outcome,
      alike.contents, alike.sound⟩
  | close =>
    rw [Session.act, Session.act, close, close]
    cases holding : second.contents with
    | none =>
      rw [alike.contents.trans holding]
      exact alike
    | some held =>
      rw [alike.contents.trans holding]
      refine ⟨d, d', alike.settings, alike.outcome, rfl, ?_⟩
      intro other member
      cases member

/-- Logs that stand alike still do after any actions that are quiet. -/
theorem Alike.after {first second : Session} (alike : Alike data first second)
    (actions : List Action) (quiet : ∀ action ∈ actions, action.Quiet) :
    Alike data (first.after actions) (second.after actions) := by
  induction actions generalizing first second with
  | nil => exact alike
  | cons action rest ih =>
    refine ih (alike.act (quiet action List.mem_cons_self)) ?_
    intro later member
    exact quiet later (List.mem_cons_of_mem _ member)

/-- Two attempts to open a log are told apart by nothing: either both fail with the same error, or
both logs open and give the same answers after any quiet actions. -/
def OpensAlike (first second : Except LogError Session) : Prop :=
  (∃ error, first = .error error ∧ second = .error error) ∨
    ∃ one other, first = .ok one ∧ second = .ok other ∧ ∀ actions : List Action,
      (∀ action ∈ actions, action.Quiet) → SameAnswers (one.after actions) (other.after actions)

/-- The ways to open some bytes under some settings without faults and without cancelling. -/
inductive Way (data : Array UInt8) : Settings → Except LogError Session → Prop
  /-- On a source that delivers the bytes. -/
  | source (settings : Settings) {source : Source} (delivers : source.Delivers data) :
    Way data settings (ofSource settings source)
  /-- At a path at which a file with the bytes stands. -/
  | path (settings : Settings) {files : FileTree} {path : String}
    (found : files.find (FilePath.ofString path) = .ok (.file data)) {plan : FaultPlan}
    (harmless : plan.Harmless) : Way data settings (openPath settings files path plan)
  /-- At such a path, under the plain settings. -/
  | plainPath {files : FileTree} {path : String}
    (found : files.find (FilePath.ofString path) = .ok (.file data)) {plan : FaultPlan}
    (harmless : plan.Harmless) : Way data {} (ofPath files path plan)
  /-- From the bytes themselves. -/
  | buffer : Way data {} (ofBuffer data)
  /-- On a source that delivers the bytes, under the plain settings. -/
  | reader {source : Source} (delivers : source.Delivers data) : Way data {} (ofReader source)

/-- Every way comes down to a source that delivers the bytes. -/
theorem Way.exists_source {settings : Settings} {attempt : Except LogError Session}
    (way : Way data settings attempt) :
    ∃ source : Source, source.Delivers data ∧ attempt = ofSource settings source := by
  cases way with
  | source settings delivers => exact ⟨_, delivers, rfl⟩
  | path settings found harmless =>
    exact ⟨_, ⟨rfl, harmless, rfl⟩, openPath_of_file found settings _⟩
  | plainPath found harmless => exact ⟨_, ⟨rfl, harmless, rfl⟩, openPath_of_file found {} _⟩
  | buffer => exact ⟨_, .ofBytes data, rfl⟩
  | reader delivers => exact ⟨_, delivers, rfl⟩

/-- However a source splits its bytes and whichever calls it interrupts, and in whatever way a log
is opened: the same bytes under the same settings fail with the same error, or they open with the
same answers, which stay the same through everything that is done to both. -/
theorem Way.opensAlike {settings : Settings} {first second : Except LogError Session}
    (way : Way data settings first) (way' : Way data settings second) :
    OpensAlike first second := by
  obtain ⟨source, delivers, rfl⟩ := way.exists_source
  obtain ⟨source', delivers', rfl⟩ := way'.exists_source
  obtain ⟨ready, ready_delivers, opens⟩ := ofSource_delivers delivers settings
  obtain ⟨ready', ready_delivers', opens'⟩ := ofSource_delivers delivers' settings
  rw [opens, opens']
  cases headerOf data with
  | error e => exact .inl ⟨e, rfl, rfl⟩
  | ok header =>
    refine .inr ⟨_, _, rfl, rfl, ?_⟩
    intro actions quiet
    exact ((opened_alike ready_delivers ready_delivers' settings header).after actions
      quiet).answers

/-- A log that wraps around opens with both of its records from a file in single bytes, with two
calls interrupted, and with the same answers from a source in portions of three bytes, with
three. -/
theorem cut_log_opens_alike : ∃ one other,
    ofPath ⟨[(["a.evt"], .file cutLog)], []⟩ "a.evt" (.inPortions 1 [1, 50]) = .ok one ∧
      ofReader { data := cutLog, plan := .inPortions 3 [1, 2, 18] } = .ok other ∧
      one.records =
        [{ plainRecord 1 with offset := 210 }, { plainRecord 2 with offset := 106 }] ∧
      other.records = one.records ∧
      one.outcome = .complete ∧ other.outcome = .complete ∧
      SameAnswers (one.after [.recover, .close]) (other.after [.recover, .close]) := by
  have found : FileTree.find ⟨[(["a.evt"], .file cutLog)], []⟩ (.ofString "a.evt") =
      .ok (.file cutLog) := rfl
  have harmless : (FaultPlan.inPortions 1 [1, 50]).Harmless :=
    FaultPlan.harmless_inPortions (by decide) _
  have delivers : Source.Delivers cutLog { data := cutLog, plan := .inPortions 3 [1, 2, 18] } :=
    ⟨rfl, FaultPlan.harmless_inPortions (by decide) _, rfl⟩
  have attempt := openPath_of_file found {} (.inPortions 1 [1, 50])
  have same : ({ data := cutLog, plan := .inPortions 1 [1, 50] } : Source).data = cutLog := rfl
  obtain ⟨one, opens, calm, -⟩ :=
    opens_undisturbed same harmless rfl cutLog_valid run_cutLog {}
  rw [← attempt] at opens
  rcases Way.opensAlike (.plainPath found harmless) (.reader delivers) with
    ⟨error, fails, -⟩ | ⟨one', other, opens', opened, answers⟩
  · rw [ofPath, opens] at fails
    cases fails
  · have alike : one = one' := Except.ok.inj (opens.symm.trans opens')
    subst alike
    have quiet : ∀ action ∈ [Action.recover, .close], action.Quiet := by
      intro action member
      simp only [List.mem_cons, List.not_mem_nil, or_false] at member
      rcases member with rfl | rfl
      · trivial
      · trivial
    have now := answers [] nofun
    exact ⟨one, other, opens, opened, calm.answers.records, now.records.symm, calm.outcome,
      now.outcome.symm.trans calm.outcome, answers _ quiet⟩

end Session

end EventLog
