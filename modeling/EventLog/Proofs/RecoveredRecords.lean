import EventLog.Proofs.PrimaryRecords

/-!
# The records that a log recovers

If no read can fail, the records that recovery finds block by block are those that one pass over all
signatures finds, whenever recovery runs (`recovered_eq_onePass`). Whatever is done to a log and
whatever its reads do, the records that it has recovered stand in its ring, in order, and share no
byte with what its walk accounted for (`recovered_apart`).
-/

namespace EventLog.Session

open EventLog.Ring Recovery Scan

variable {settings : Settings} {source : Source} {session : Session}

/-- A log with two records, the second of which wraps around, and whose header leads only to the
second. -/
def shortLog : Array UInt8 :=
  filled (plainHeader 164 60) 100
    (plainBytes 1 ++ (plainBytes 2 ++ (plainSentinel 100 60).encode))

/-- What the walk of that log finds. -/
def shortScan : Scan :=
  ⟨[{ plainRecord 2 with offset := 164 }], some (60, plainSentinel 100 60), .complete⟩

/-- The record that the header of that log leaves out. -/
def leftOut : Record := { plainRecord 1 with offset := 100 }

/-- The length of the log. -/
theorem size_shortLog : shortLog.size = 216 := by
  simp only [shortLog, size_filled, List.length_append, length_plainBytes, Sentinel.length_encode]
  rfl

/-- The log has a valid header. -/
theorem shortLog_valid :
    Header.decode (shortLog.extract 0 Header.size).toList = .ok (plainHeader 164 60) := by
  rw [shortLog, extract_filled]
  rfl

/-- The two records lie one after the other in the log, and then the end of file record. -/
theorem lies_shortLog : Lies shortLog 100 (plainBytes 1) ∧
    Lies shortLog 164 (plainBytes 2 ++ (plainSentinel 100 60).encode) := by
  have whole : Lies shortLog 100 _ := lies_filled_of_size size_shortLog rfl
  obtain ⟨here, later⟩ := whole.of_append
  rw [size_shortLog] at later
  exact ⟨here, later⟩

/-- If no read can fail, the walk of the log finds that. -/
theorem run_shortLog (ready : Source) (same : ready.data = shortLog)
    (harmless : ready.plan.Harmless) (down : ready.aborted = false) :
    (Scan.run ⟨shortLog.size⟩ (plainHeader 164 60) ready).1 = shortScan := by
  have first : contains ⟨shortLog.size⟩ (plainHeader 164 60).firstRecordOffset.toNat = true := by
    rw [size_shortLog]
    rfl
  have last : contains ⟨shortLog.size⟩ (plainHeader 164 60).sentinelOffset.toNat = true := by
    rw [size_shortLog]
    rfl
  have lies : Lies shortLog (plainHeader 164 60).firstRecordOffset.toNat
      ([(plainBytes 2, plainRecord 2)].flatMap Prod.fst ++ (plainSentinel 100 60).encode) := by
    rw [List.flatMap_singleton]
    exact lies_shortLog.2
  have decoded : ∀ part ∈ [(plainBytes 2, plainRecord 2)], Record.decode part.1 = .ok part.2 := by
    intro part member
    rw [List.mem_singleton] at member
    rw [member]
    rfl
  have closes : Sentinel.decode (plainSentinel 100 60).encode = .ok (plainSentinel 100 60) := rfl
  have taken : ([(plainBytes 2, plainRecord 2)].flatMap Prod.fst).length = 64 := by
    rw [List.flatMap_singleton, length_plainBytes]
  rw [run_of_laid_out same harmless down first last decoded closes rfl lies, taken, size_shortLog]
  rfl

/-- One pass over the log takes the record that its header leaves out. -/
theorem onePass_shortLog : onePass shortLog shortScan = [leftOut] := by
  have signed : signedOffsets shortLog = [100, 164] := by
    rw [← offered_eq_signedOffsets, offered, size_shortLog]
    simp only [Array.toList_extract, List.extract_eq_take_drop]
    decide +kernel
  have decoded : Record.decode (plainBytes 1) = .ok (plainRecord 1) := rfl
  have first : spare? shortLog shortScan 100 = some leftOut :=
    spare?_of_lies size_shortLog rfl lies_shortLog.1 decoded rfl rfl
  have second : spare? shortLog shortScan 164 = none := by
    have inside : contains ⟨shortLog.size⟩ 164 = true := by
      rw [size_shortLog]
      rfl
    have taken : unaccounted ⟨shortLog.size⟩ shortScan 164 minimumDeclared = false := by
      rw [size_shortLog]
      rfl
    exact spare?_eq_none inside taken
  rw [onePass, signed, takeSpare, if_neg (by decide), first]
  dsimp only
  rw [takeSpare, if_neg (by decide), second]
  rfl

/-- If recovery always runs, the log opens, holds its walk and has recovered the record that its
header leaves out. -/
theorem opens_shortLog : ∃ session contents,
    ofSource { recovery := .always } (.ofBytes shortLog) = .ok session ∧
      session.contents = some contents ∧ contents.scan = shortScan ∧
      contents.recovered = [leftOut] := by
  obtain ⟨session, opens, -, holding⟩ :=
    opens_recovering shortLog_valid { recovery := .always } run_shortLog rfl
  rw [onePass_shortLog] at holding
  exact ⟨session, _, opens, holding, rfl, rfl⟩

/-- The records that a log recovers are those of one pass over all signatures, both when it opens
and whenever recovery runs later, as long as no read can fail and the flag is down; and the blocks
of a pass offer every offset at which a signature stands exactly once. -/
theorem recovered_eq_onePass (honest : source.plan.reportedLength = none)
    (opens : ofSource settings source = .ok session) :
    (source.plan.Harmless → source.aborted = false →
        ∃ contents, session.contents = some contents ∧ contents.recovered =
          if recovers settings.recovery session.outcome then onePass source.data contents.scan
          else []) ∧
      (∀ actions contents, (session.after actions).contents = some contents →
        (session.after actions).source.plan.Harmless →
        (session.after actions).source.aborted = false →
        ∃ again, (session.after (actions ++ [.recover])).contents = some again ∧
          again.scan = contents.scan ∧ again.recovered = onePass source.data contents.scan) ∧
      offered source.data = signedOffsets source.data ∧ (signedOffsets source.data).Nodup := by
  refine ⟨?_, ?_, offered_eq_signedOffsets _, (signedOffsets_sorted _).imp Nat.ne_of_lt⟩
  · intro h down
    obtain ⟨header, valid⟩ := valid_of_ofSource opens
    obtain ⟨ready, agrees, opens'⟩ := ofSource_harmless rfl h valid
    rw [opens' settings] at opens
    have same := Except.ok.inj opens
    obtain ⟨outcome, contents, holding, walk, recovered⟩ :=
      opened_harmless agrees.1 (agrees.harmless h) (agrees.2.2.trans down) settings header
    rw [← outcome, ← walk] at recovered
    rw [same] at holding recovered
    exact ⟨contents, holding, recovered⟩
  · intro actions contents holding h down
    obtain ⟨same, sound⟩ := after_sound rfl honest opens actions
    obtain ⟨-, taken⟩ := recoverWithin_harmless same h down (sound contents holding)
    rw [← recover_of_contents holding] at taken
    rw [after_append]
    exact ⟨_, taken, rfl, rfl⟩

/-- The log recovers the record that its header leaves out when it opens, and once more after its
source was given a new plan. -/
theorem recovers_left_out_record : ∃ session contents again,
    ofSource { recovery := .always } (.ofBytes shortLog) = .ok session ∧
      session.contents = some contents ∧
      contents.recovered = [leftOut] ∧
      (session.after [.arm .none, .setAborted false, .recover]).contents = some again ∧
      again.recovered = [leftOut] := by
  obtain ⟨session, contents, opens, holding, walk, recovered⟩ := opens_shortLog
  have honest : (Source.ofBytes shortLog).plan.reportedLength = none := rfl
  obtain ⟨-, later, -⟩ := recovered_eq_onePass honest opens
  obtain ⟨again, holding', -, recovered'⟩ :=
    later [.arm .none, .setAborted false] contents holding FaultPlan.harmless_none rfl
  have same : (Source.ofBytes shortLog).data = shortLog := rfl
  rw [same, walk, onePass_shortLog] at recovered'
  exact ⟨session, contents, again, opens, holding, recovered, holding', recovered'⟩

/-- Whatever is done to a log and whatever its reads do, its recovered records are in strictly
ascending order, each stands in the ring where it says, and no byte of it belongs to the header, to
a record of the walk or to the end of file record that the walk met. -/
theorem recovered_apart (honest : source.plan.reportedLength = none)
    (opens : ofSource settings source = .ok session) (actions : List Action) {contents : Contents}
    (holding : (session.after actions).contents = some contents) :
    contents.recovered.Pairwise (fun first second => first.offset < second.offset) ∧
      ∀ record ∈ contents.recovered,
        contains ⟨source.data.size⟩ record.offset = true ∧
          StandsAt source.data record.offset record ∧
          ∀ byte, covers ⟨source.data.size⟩ record.offset record.size.toNat byte = true →
            start ≤ byte ∧
              (∀ primary ∈ contents.scan.records,
                covers ⟨source.data.size⟩ primary.offset primary.size.toNat byte = false) ∧
              ∀ found ∈ contents.scan.sentinel,
                covers ⟨source.data.size⟩ found.1 Sentinel.size byte = false := by
  have sound := (after_sound rfl honest opens actions).2 contents holding
  obtain ⟨high, ascending⟩ := sound.ascending
  constructor
  · refine ascending.sorted ?_
    intro record member
    have least := (sound.spare record member).stands.minimumSize_le
    rw [Record.minimumSize] at least
    omega
  · intro record member
    have spare := sound.spare record member
    refine ⟨spare.inside, spare.stands, ?_⟩
    intro byte covered
    have free := unaccounted_iff.mp spare.free byte covered
    exact accounted_eq_false_iff.mp free

/-- The log recovers one record, and no byte of that belongs to the record of the walk or to the end
of file record, although both stand next to it. -/
theorem left_out_record_apart : ∃ session contents,
    ofSource { recovery := .always } (.ofBytes shortLog) = .ok session ∧
      session.contents = some contents ∧ contents.recovered = [leftOut] ∧
      ∀ byte, covers ⟨shortLog.size⟩ leftOut.offset leftOut.size.toNat byte = true →
        start ≤ byte ∧
          (∀ primary ∈ shortScan.records,
            covers ⟨shortLog.size⟩ primary.offset primary.size.toNat byte = false) ∧
          ∀ found ∈ shortScan.sentinel,
            covers ⟨shortLog.size⟩ found.1 Sentinel.size byte = false := by
  obtain ⟨session, contents, opens, holding, walk, recovered⟩ := opens_shortLog
  have honest : (Source.ofBytes shortLog).plan.reportedLength = none := rfl
  obtain ⟨-, each⟩ := recovered_apart honest opens [] holding
  have same : (Source.ofBytes shortLog).data = shortLog := rfl
  rw [recovered, walk, same] at each
  obtain ⟨-, -, apart⟩ := each leftOut List.mem_cons_self
  exact ⟨session, contents, opens, holding, recovered, apart⟩

end EventLog.Session
