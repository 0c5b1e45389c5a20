import EventLog.Proofs.RecoveredRecords
import EventLog.Proofs.Silenced

/-!
# Which records recovery misses

Recovery searches the file for signatures from its start to its end, and not around the ring. Of the
records that stand in the ring and share no byte with anything else, a pass that ran to its end
misses none whose size and signature lie before the end of the file, and has no other
(`recovered_complete`). A log with a record whose signature the end of the file cuts is `splitLog`.
-/

namespace EventLog

/-- An action gives the source no plan with faults. -/
def Action.Faultless : Action → Prop
  | .arm plan => plan.Faultless
  | _ => True

namespace Recovery

open EventLog.Ring

variable {data : Array UInt8} {scan : Scan} {offset : Nat}

/-- Where an event record stands whose first eight bytes the end of the file does not cut, a
signature stands. -/
theorem mem_signedOffsets_of_standsAt (inside : contains ⟨data.size⟩ offset = true)
    (room : offset + minimumDeclared ≤ data.size) {record : Record}
    (stands : StandsAt data offset record) : offset ∈ signedOffsets data := by
  have least := stands.minimumSize_le
  rw [Record.minimumSize] at least
  have signed := (Record.checkFront_eq_ok_iff.mp (Record.front_of_decode stands.decodes).1).2.2
  rw [Bytes.slice_take (by omega), ← Bytes.slice_take (Nat.le_refl (4 + 4)),
    take_unrolled_of_le (by rw [minimumDeclared] at room; exact room)] at signed
  refine mem_signedOffsets.mpr ⟨room, (contains_iff.mp inside).1, ?_⟩
  rw [← signed, Bytes.slice]
  simp only [Array.toList_extract, List.extract_eq_take_drop]
  rw [List.drop_take, List.take_take, List.drop_drop]
  congr 1
  omega

/-- Every record that is taken starts at one of the offsets. -/
theorem offset_mem_of_mem_takeSpare {offsets : List Nat}
    (inside : ∀ o ∈ offsets, contains ⟨data.size⟩ o = true) {resume : Nat} {record : Record}
    (taken : record ∈ takeSpare data scan offsets resume) : record.offset ∈ offsets := by
  induction offsets generalizing resume with
  | nil => cases taken
  | cons first rest ih =>
    have inside' := fun o member => inside o (List.mem_cons_of_mem _ member)
    rw [takeSpare] at taken
    split at taken
    · exact List.mem_cons_of_mem _ (ih inside' taken)
    · split at taken
      · exact List.mem_cons_of_mem _ (ih inside' taken)
      · rename_i other spare
        rcases List.mem_cons.mp taken with rfl | taken
        · have stands := ((spare?_eq_some_iff (inside first List.mem_cons_self)).mp spare).1
          rw [stands.starts]
          exact List.mem_cons_self
        · exact List.mem_cons_of_mem _ (ih inside' taken)

/-- A signature stands at the offset of every record that one pass takes. -/
theorem offset_mem_of_mem_onePass {record : Record} (taken : record ∈ onePass data scan) :
    record.offset ∈ signedOffsets data :=
  offset_mem_of_mem_takeSpare (fun _ => contains_of_mem_signedOffsets) taken

/-- A spare record at one of the offsets is taken, unless it starts before `resume` or within a
record that is taken. -/
theorem takeSpare_complete {offsets : List Nat} (sorted : offsets.Pairwise (· < ·))
    (inside : ∀ o ∈ offsets, contains ⟨data.size⟩ o = true) (resume : Nat)
    (member : offset ∈ offsets) {record : Record} (spare : spare? data scan offset = some record) :
    record ∈ takeSpare data scan offsets resume ∨ offset < resume ∨
      ∃ taken ∈ takeSpare data scan offsets resume,
        taken.offset < offset ∧ offset < taken.offset + taken.size.toNat := by
  induction offsets generalizing resume with
  | nil => cases member
  | cons first rest ih =>
    have inside' := fun o member => inside o (List.mem_cons_of_mem _ member)
    obtain ⟨ahead, sorted'⟩ := List.pairwise_cons.mp sorted
    rw [takeSpare]
    rcases List.mem_cons.mp member with rfl | later
    · by_cases early : offset < resume
      · exact .inr (.inl early)
      · rw [if_neg early, spare]
        exact .inl List.mem_cons_self
    · have before := ahead offset later
      by_cases early : first < resume
      · rw [if_pos early]
        exact ih sorted' inside' resume later
      · rw [if_neg early]
        cases here : spare? data scan first with
        | none => exact ih sorted' inside' resume later
        | some other =>
          have stands := ((spare?_eq_some_iff (inside first List.mem_cons_self)).mp here).1
          have starts := stands.starts
          -- The record at `first` ends where the search goes on, and holds whatever starts before.
          rcases ih sorted' inside' (first + other.size.toNat) later with taken | within | covered
          · exact .inl (List.mem_cons_of_mem _ taken)
          · exact .inr (.inr ⟨other, List.mem_cons_self, by omega, by omega⟩)
          · obtain ⟨taken, member, bounds⟩ := covered
            exact .inr (.inr ⟨taken, List.mem_cons_of_mem _ member, bounds⟩)

/-- A record that stands in the ring, whose first eight bytes the end of the file does not cut and
of which no byte is accounted for or belongs to another record that one pass takes, is taken
itself. -/
theorem mem_onePass_of_standsAt {record : Record}
    (inside : contains ⟨data.size⟩ record.offset = true)
    (room : record.offset + minimumDeclared ≤ data.size)
    (stands : StandsAt data record.offset record)
    (free : unaccounted ⟨data.size⟩ scan record.offset record.size.toNat = true)
    (apart : ∀ other ∈ onePass data scan, other ≠ record →
      covers ⟨data.size⟩ other.offset other.size.toNat record.offset = false) :
    record ∈ onePass data scan := by
  have least := stands.minimumSize_le
  rw [Record.minimumSize] at least
  have bounds : start ≤ record.offset ∧ record.offset < data.size := contains_iff.mp inside
  have front : unaccounted ⟨data.size⟩ scan record.offset minimumDeclared = true := by
    simp only [unaccounted, List.all_eq_true, List.mem_range] at free ⊢
    intro distance near
    rw [minimumDeclared] at near
    exact free distance (by omega)
  have spare := (spare?_eq_some_iff inside).mpr ⟨stands, front, free⟩
  rcases takeSpare_complete (signedOffsets_sorted data)
      (fun _ => contains_of_mem_signedOffsets) start
      (mem_signedOffsets_of_standsAt inside room stands) spare with taken | early | covered
  · exact taken
  · omega
  · obtain ⟨other, member, before, reaches⟩ := covered
    have distinct : other ≠ record := fun same => by
      rw [same] at before
      omega
    have inside' := contains_of_mem_signedOffsets (offset_mem_of_mem_onePass member)
    have within : other.offset + (record.offset - other.offset) < data.size := by omega
    have covered : covers ⟨data.size⟩ other.offset other.size.toNat record.offset = true := by
      refine covers_iff.mpr ⟨record.offset - other.offset, by omega, ?_⟩
      rw [position_of_lt inside' within]
      omega
    rw [apart other member distinct] at covered
    cases covered

end Recovery

open EventLog.Ring Recovery Scan

variable {data : Array UInt8}

/-- A record stands in the ring and shares no byte with another record that the log knows. -/
structure Contents.Lone (data : Array UInt8) (contents : Contents) (record : Record) : Prop where
  /-- The record starts in the region. -/
  inside : contains ⟨data.size⟩ record.offset = true
  /-- The record stands where it says. -/
  stands : StandsAt data record.offset record
  /-- No byte of the record belongs to a record of the walk, to the end of file record or to another
  recovered record. -/
  apart : ∀ byte, covers ⟨data.size⟩ record.offset record.size.toNat byte = true →
    (∀ primary ∈ contents.scan.records,
        covers ⟨data.size⟩ primary.offset primary.size.toNat byte = false) ∧
      (∀ found ∈ contents.scan.sentinel,
        covers ⟨data.size⟩ found.1 Sentinel.size byte = false) ∧
      ∀ other ∈ contents.recovered, other ≠ record →
        covers ⟨data.size⟩ other.offset other.size.toNat byte = false

/-- No byte of a lone record is accounted for. -/
theorem Contents.Lone.free {contents : Contents} {record : Record}
    (lone : contents.Lone data record) :
    unaccounted ⟨data.size⟩ contents.scan record.offset record.size.toNat = true := by
  refine unaccounted_iff.mpr ?_
  intro byte covered
  obtain ⟨distance, -, rfl⟩ := covers_iff.mp covered
  have low := (contains_iff.mp (contains_position lone.inside distance)).1
  obtain ⟨records, sentinel, -⟩ := lone.apart _ covered
  exact accounted_eq_false_iff.mpr ⟨low, records, sentinel⟩

namespace Session

/-- No read of the source of a log can fail, and if its last recovery pass ran to its end, the log
holds what one pass takes. -/
structure Thorough (data : Array UInt8) (session : Session) : Prop where
  /-- No read can fail. -/
  faultless : session.source.plan.Faultless
  /-- What the log holds is sound. -/
  sound : session.Sound data
  /-- A pass that ran to its end took what one pass takes. -/
  recovered : ∀ contents ∈ session.contents, contents.state = .recoveryComplete →
    contents.recovered = onePass data contents.scan

/-- A recovery pass leaves a log with what one pass takes, unless it was cancelled. -/
theorem recoverWithin_thorough {session : Session} {contents : Contents}
    (faultless : session.source.plan.Faultless) (same : session.source.data = data)
    (sound : contents.Sound data) : (session.recoverWithin contents).Thorough data := by
  have kept := recoverWithin_continues session contents
  obtain ⟨after, holding, -, sound'⟩ := recoverWithin_sound same sound
  obtain ⟨after', holding', -, scan, taken, state⟩ :=
    session.withRecovery_holds contents.beginRecovery
      (Recovery.run contents.ring contents.scan session.source)
  have pass := run_of_faultless same faultless sound.within
  rw [← sound.ring] at pass
  refine ⟨by rw [kept.plan]; exact faultless, ⟨kept.data.trans same, ?_⟩, ?_⟩
  · intro other member
    rw [holding] at member
    cases member
    exact sound'
  · intro other member completed
    rw [recoverWithin, holding'] at member
    cases member
    rw [state] at completed
    have going :
        (Recovery.run contents.ring contents.scan session.source).1.ending ≠ .cancelled := by
      intro cancelled
      rw [cancelled] at completed
      cases completed
    rw [taken, pass going, scan]
    rfl

/-- A log that opens on a source without faults holds what one pass takes, if recovery ran to its
end while it was opened. -/
theorem ofSource_thorough {settings : Settings} {source : Source} {session : Session}
    (faultless : source.plan.Faultless) (opens : ofSource settings source = .ok session) :
    session.Thorough source.data := by
  have sound := ofSource_sound rfl faultless.honest opens
  obtain ⟨length, header, measured, ready, measures, reads, rfl⟩ := ofSource_eq_ok_iff.mp opens
  have size := Source.measure_ok faultless.honest (congrArg Prod.fst measures)
  have before := (readHeader_ok reads).2.trans (source.measure_continues.of_eq measures)
  have after := (Scan.run_continues ⟨length⟩ header ready).trans before
  subst size
  unfold opened at sound ⊢
  dsimp only at sound ⊢
  split
  · have plan : (afterWalk settings ⟨source.data.size⟩ header
        (Scan.run ⟨source.data.size⟩ header ready)).source.plan.Faultless := by
      rw [afterWalk, after.plan]
      exact faultless
    exact recoverWithin_thorough plan after.data (walked_sound header _)
  · rename_i walked
    rw [if_neg walked] at sound
    refine ⟨?_, sound, ?_⟩
    · rw [afterWalk, after.plan]
      exact faultless
    · intro contents member completed
      cases member
      rw [Contents.endWalk] at completed
      dsimp only at completed
      unfold ScanState.afterWalk at completed
      split at completed <;> cases completed

/-- An action that gives the source no plan with faults leaves a thorough log thorough. -/
theorem act_thorough {session : Session} (thorough : session.Thorough data) {action : Action}
    (calm : action.Faultless) : (session.act action).Thorough data := by
  have sound := act_sound thorough.sound action
  cases action with
  | recover =>
    unfold act recover at sound ⊢
    cases holding : session.contents with
    | none => exact thorough
    | some contents =>
      exact recoverWithin_thorough thorough.faultless thorough.sound.1
        (thorough.sound.2 contents holding)
  | setCodepage number =>
    unfold act setCodepage
    dsimp only
    split <;> exact ⟨thorough.faultless, thorough.sound, thorough.recovered⟩
  | setAborted aborted => exact ⟨thorough.faultless, sound, thorough.recovered⟩
  | arm plan => exact ⟨calm, sound, thorough.recovered⟩
  | close =>
    unfold act close at sound ⊢
    cases holding : session.contents with
    | none => exact thorough
    | some contents =>
      rw [holding] at sound
      refine ⟨thorough.faultless, sound, ?_⟩
      intro other member
      cases member

variable {settings : Settings} {source : Source} {session : Session}

/-- If no read can fail and the last recovery pass ran to its end, a log has recovered every record
that stands in its ring and shares no byte with another record that the log knows, if the end of the
file does not cut the size or the signature of the record; records whose size or signature it cuts
are not recovered. -/
theorem recovered_complete (faultless : source.plan.Faultless)
    (opens : ofSource settings source = .ok session) (actions : List Action)
    (calm : ∀ action ∈ actions, action.Faultless) {contents : Contents}
    (holding : (session.after actions).contents = some contents)
    (completed : contents.state = .recoveryComplete) :
    (∀ record, contents.Lone source.data record →
        record.offset + minimumDeclared ≤ source.data.size → record ∈ contents.recovered) ∧
      ∀ record ∈ contents.recovered, record.offset + minimumDeclared ≤ source.data.size := by
  have thorough : (session.after actions).Thorough source.data :=
    after_induction_of_mem session (ofSource_thorough faultless opens) actions
      fun _ action member thorough => act_thorough thorough (calm action member)
  have taken := thorough.recovered contents holding completed
  constructor
  · intro record lone room
    have apart := fun byte covered => (lone.apart byte covered).2.2
    rw [taken] at apart ⊢
    have least := lone.stands.minimumSize_le
    rw [Record.minimumSize] at least
    have first : covers ⟨source.data.size⟩ record.offset record.size.toNat record.offset = true :=
      covers_iff.mpr ⟨0, by omega, position_zero lone.inside⟩
    exact mem_onePass_of_standsAt lone.inside room lone.stands lone.free (apart _ first)
  · intro record member
    rw [taken] at member
    exact (mem_signedOffsets.mp (offset_mem_of_mem_onePass member)).1

/-- The log recovers the record that its header leaves out, which shares no byte with the two that
its walk finds. -/
theorem lone_record_recovered : ∃ session contents,
    ofSource { recovery := .always } (.ofBytes shortLog) = .ok session ∧
      session.contents = some contents ∧ contents.state = .recoveryComplete ∧
      contents.Lone shortLog leftOut ∧ leftOut ∈ contents.recovered := by
  obtain ⟨session, opens, -, holding⟩ :=
    opens_recovering shortLog_valid { recovery := .always } run_shortLog rfl
  have faultless : (Source.ofBytes shortLog).plan.Faultless := FaultPlan.harmless_none.faultless
  obtain ⟨complete, -⟩ := recovered_complete faultless opens [] nofun holding rfl
  have inside : contains ⟨shortLog.size⟩ leftOut.offset = true := by
    rw [size_shortLog]
    rfl
  have free : unaccounted ⟨shortLog.size⟩ shortScan leftOut.offset leftOut.size.toNat = true := by
    rw [size_shortLog]
    rfl
  have room : leftOut.offset + minimumDeclared ≤ shortLog.size := by
    rw [size_shortLog]
    decide
  have lone : Contents.Lone shortLog ⟨⟨shortLog.size⟩, plainHeader 164 60, shortScan,
      onePass shortLog shortScan, .recoveryComplete⟩ leftOut := by
    refine ⟨inside, standsAt_of_lies inside lies_shortLog.1 rfl, ?_⟩
    intro byte covered
    have apart := accounted_eq_false_iff.mp (unaccounted_iff.mp free byte covered)
    refine ⟨apart.2.1, apart.2.2, ?_⟩
    intro other member distinct
    rw [onePass_shortLog] at member
    exact absurd (List.mem_singleton.mp member) distinct
  exact ⟨session, _, opens, holding, rfl, lone, complete leftOut lone room⟩

/-- A log whose ring is just large enough for its only record, which the end of the file cuts within
its signature. The header leads to the rest of the record. -/
def splitLog : Array UInt8 := filled (plainHeader 48 48) 106 (plainBytes 1)

/-- The record of that log. -/
def splitRecord : Record := { plainRecord 1 with offset := 106 }

/-- What the walk of that log finds: the rest of the signature where a size should stand. -/
def splitScan : Scan := ended (.corrupted 48 (.outOfBounds .declaredSize 48 91468 64))

/-- The length of the log. -/
theorem size_splitLog : splitLog.size = 112 := by
  rw [splitLog, size_filled, length_plainBytes]
  rfl

/-- The log has a valid header. -/
theorem splitLog_valid :
    Header.decode (splitLog.extract 0 Header.size).toList = .ok (plainHeader 48 48) := by
  rw [splitLog, extract_filled]
  rfl

/-- If no read can fail, the walk of the log finds that. -/
theorem run_splitLog (ready : Source) (same : ready.data = splitLog)
    (harmless : ready.plan.Harmless) (down : ready.aborted = false) :
    (Scan.run ⟨splitLog.size⟩ (plainHeader 48 48) ready).1 = splitScan := by
  have inside : contains ⟨splitLog.size⟩ 48 = true := by
    rw [size_splitLog]
    rfl
  rw [run_inside inside inside]
  exact walk_barren same harmless down 0 inside rfl

/-- No signature stands in the file behind its header, so that one pass takes nothing. -/
theorem onePass_splitLog : onePass splitLog splitScan = [] := by
  have signed : signedOffsets splitLog = [] := by
    rw [← offered_eq_signedOffsets, offered, size_splitLog]
    simp only [Array.toList_extract, List.extract_eq_take_drop]
    decide +kernel
  rw [onePass, signed]
  rfl

/-- The log does not recover its record, although that stands in the ring, shares no byte with
another record, and the pass ran to its end. -/
theorem split_record_missed : ∃ session contents,
    ofSource {} (.ofBytes splitLog) = .ok session ∧
      session.contents = some contents ∧ contents.state = .recoveryComplete ∧
      contents.Lone splitLog splitRecord ∧ splitRecord ∉ contents.recovered := by
  obtain ⟨session, opens, -, holding⟩ := opens_recovering splitLog_valid {} run_splitLog rfl
  rw [onePass_splitLog] at holding
  have inside : contains ⟨splitLog.size⟩ splitRecord.offset = true := by
    rw [size_splitLog]
    rfl
  have lies : Lies splitLog 106 (plainBytes 1) := lies_filled_of_size size_splitLog rfl
  exact ⟨session, _, opens, holding, rfl,
    ⟨inside, standsAt_of_lies inside lies rfl, fun _ _ => ⟨nofun, nofun, nofun⟩⟩, nofun⟩

end Session

end EventLog
