import EventLog.Proofs.PrimaryRecords
import EventLog.Ring.Rotation

/-!
# Walks of turned rings

Decoding a record or an end of file record looks at its bytes alone: where these stand goes neither
into the fields nor into the errors (`Record.decode_local`, `Sentinel.decode_local`). What is found
on a ring is therefore carried along when the ring is turned (`readAt_turned`), and step by step all
that a walk reports (`walk_turned`). So a log that wraps around opens like the same log unwound
(`opens_turned`).
-/

namespace EventLog

/-- The errors of a result stay what they are, however offsets of the file are carried along. -/
def LocalErrors {α : Type} (result : Except DecodeError α) : Prop :=
  ∀ error, result = .error error → ∀ move, error.moved move = error

namespace LocalErrors

variable {α β : Type}

/-- A success has no errors. -/
theorem ok (value : α) : LocalErrors (.ok value) := nofun

/-- A failure has one error. -/
theorem error {failure : DecodeError} (stays : ∀ move, failure.moved move = failure) :
    LocalErrors (.error failure : Except DecodeError α) := by
  intro error failed
  cases failed
  exact stays

/-- An error about a part of a record stays what it is. -/
theorem outOfBounds {part : Part} (inner : part.inFile = false) (offset size limit : Nat) :
    LocalErrors (.error (.outOfBounds part offset size limit) : Except DecodeError α) := by
  refine error fun move => ?_
  rw [DecodeError.moved, inner, if_neg Bool.false_ne_true]

/-- Steps whose errors stay what they are make up a result whose errors do. -/
theorem bind {first : Except DecodeError α} {second : α → Except DecodeError β}
    (hf : LocalErrors first) (hs : ∀ value, LocalErrors (second value)) :
    LocalErrors (first >>= second) := by
  cases first with
  | error e =>
    intro error failed
    cases failed
    exact hf _ rfl
  | ok value => exact hs value

/-- What is made of a success does not change the errors. -/
theorem map {result : Except DecodeError α} (h : LocalErrors result) (f : α → β) :
    LocalErrors (result.map f) := by
  cases result with
  | error e =>
    intro error failed
    cases failed
    exact h _ rfl
  | ok value => exact ok _

end LocalErrors

/-- A region that escapes its record is an error of the record. -/
theorem Region.between_local {part : Part} (inner : part.inFile = false)
    (start size lower limit : Nat) : LocalErrors (between part start size lower limit) := by
  unfold between
  split
  · exact .outOfBounds inner start size limit
  · exact .ok _

/-- A layout that does not fit its record is an error of the record. -/
theorem Layout.ofFields_local (fields : RecordFields) : LocalErrors (ofFields fields) := by
  have members : LocalErrors (membersOf fields) := by
    unfold membersOf
    split
    · exact .outOfBounds rfl _ _ _
    · exact Region.between_local rfl _ _ _ _
  have sid (lower : Nat) : LocalErrors (sidOf fields lower) := by
    unfold sidOf
    split
    · exact .ok _
    · exact (Region.between_local rfl _ _ _ _).map some
  have strings (lower : Nat) : LocalErrors (stringsOf fields lower) := by
    unfold stringsOf
    split
    · exact .ok _
    · split
      · exact .outOfBounds rfl _ _ _
      · exact (Region.between_local rfl _ _ _ _).map some
  have data (lower : Nat) : LocalErrors (dataOf fields lower) := by
    unfold dataOf
    split
    · exact .ok _
    · exact (Region.between_local rfl _ _ _ _).map some
  exact members.bind fun _ => (sid _).bind fun _ => (strings _).bind fun _ => (data _).bind
    fun _ => .ok _

/-- A name that does not end in its region is an error of the record. -/
theorem Record.cutName_local {part : Part} (inner : part.inFile = false) (units : CodeUnits)
    (start stop : Nat) : LocalErrors (cutName part units start stop) := by
  unfold cutName
  split
  · exact .ok _
  · exact .outOfBounds inner _ _ _

/-- The errors of decoding an event record do not say where in a file it stands. -/
theorem Record.decode_local (bytes : Bytes) : LocalErrors (decode bytes) := by
  have front : LocalErrors (checkFront bytes) := by
    unfold checkFront
    repeat' split
    · exact .error fun _ => rfl
    · exact .error fun _ => rfl
    · exact .error fun _ => rfl
    · exact .ok _
  have names (region : Region) : LocalErrors (names bytes region) :=
    (cutName_local rfl _ _ _).bind fun _ => (cutName_local rfl _ _ _).bind fun _ => .ok _
  have strings (region : Option Region) : LocalErrors (stringsIn bytes region) := by
    cases region with
    | none => exact .ok _
    | some region =>
      refine LocalErrors.map ?_ some
      unfold StringTable.decode
      split
      · exact .outOfBounds rfl _ _ _
      · exact .ok _
  have back : LocalErrors (checkBack bytes) := by
    unfold checkBack
    dsimp only
    split
    · exact .error fun _ => rfl
    · exact .ok _
  exact front.bind fun _ => (Layout.ofFields_local _).bind fun _ => (names _).bind fun _ =>
    (strings _).bind fun _ => back.bind fun _ => .ok _

/-- The errors of decoding an end of file record do not say where in a file it stands. -/
theorem Sentinel.decode_local (bytes : Bytes) : LocalErrors (decode bytes) := by
  unfold decode
  repeat' split
  · exact .error fun _ => rfl
  · exact .error fun _ => rfl
  · exact .error fun _ => rfl
  · exact .error fun _ => rfl
  · exact .error fun _ => rfl
  · exact .ok _

namespace Ring

variable {turn offset : Nat} {first second : Array UInt8}

/-- Bytes that hold nothing hold nothing wherever they stand, for a reason that does not say
where. -/
theorem Found.decode_error {bytes : Bytes} {error : DecodeError}
    (failed : Found.decode offset bytes = .error error) (other : Nat) :
    Found.decode other bytes = .error error ∧ ∀ move, error.moved move = error := by
  unfold Found.decode at failed ⊢
  by_cases candidate : Sentinel.isCandidate bytes = true
  · rw [if_pos candidate] at failed ⊢
    exact ⟨failed, (Sentinel.decode_local bytes).map Found.sentinel error failed⟩
  · rw [if_neg candidate] at failed ⊢
    have stays := (Record.decode_local bytes).map (fun _ => ()) error
    cases decoded : Record.decode bytes with
    | ok record =>
      rw [decoded] at failed
      cases failed
    | error e =>
      rw [decoded] at failed stays
      cases failed
      exact ⟨rfl, stays rfl⟩

/-- Where nothing can be found, nothing can be found after a turn, for the same reason. -/
theorem readAt_turned (turned : Turned turn first second)
    (inside : contains ⟨first.size⟩ offset = true) {error : DecodeError}
    (barren : readAt first offset = .error error) :
    readAt second (Ring.turned ⟨first.size⟩ turn offset) =
      .error (error.moved (Ring.turned ⟨first.size⟩ turn)) := by
  unfold readAt foundAt at barren ⊢
  dsimp only at barren ⊢
  rw [unrolled_turned turned inside, turned.size]
  by_cases small : first.size - start < 4
  · rw [if_pos small] at barren ⊢
    cases barren
    rfl
  · rw [if_neg small] at barren ⊢
    by_cases bad : ((unrolled first offset).word32 0).toNat < minimumDeclared ∨
        first.size - start < ((unrolled first offset).word32 0).toNat
    · rw [if_pos bad] at barren ⊢
      cases barren
      rfl
    · rw [if_neg bad] at barren ⊢
      obtain ⟨failed, stays⟩ :=
        Found.decode_error barren (Ring.turned ⟨first.size⟩ turn offset)
      rw [failed, stays]

/-- An event record that stands in a ring is carried along when the ring is turned. -/
theorem StandsAt.turned (turned : Turned turn first second)
    (inside : contains ⟨first.size⟩ offset = true) {record : Record}
    (stands : StandsAt first offset record) :
    StandsAt second (Ring.turned ⟨first.size⟩ turn offset)
      (record.moved (Ring.turned ⟨first.size⟩ turn)) where
  starts := congrArg (Ring.turned ⟨first.size⟩ turn) stands.starts
  fits := by
    rw [turned.size]
    exact stands.fits
  decodes := by
    rw [unrolled_turned turned inside]
    exact stands.decodes

/-- An end of file record that stands in a ring is carried along when the ring is turned. -/
theorem SentinelAt.turned (turned : Turned turn first second)
    (inside : contains ⟨first.size⟩ offset = true) {sentinel : Sentinel}
    (ends : SentinelAt first offset sentinel) :
    SentinelAt second (Ring.turned ⟨first.size⟩ turn offset) sentinel := by
  rw [SentinelAt, unrolled_turned turned inside]
  exact ends

end Ring

namespace Scan

open EventLog.Ring

variable {turn offset : Nat} {first second : Array UInt8} {source source' : Source}

/-- If no read can fail and the flag stays down, all that a walk reports is carried along when the
ring is turned. -/
theorem walk_turned (turned : Turned turn first second) (same : source.data = first)
    (same' : source'.data = second) (h : source.plan.Harmless) (h' : source'.plan.Harmless)
    (down : source.aborted = false) (down' : source'.aborted = false) (consumed : Nat)
    (inside : contains ⟨first.size⟩ offset = true) :
    (walk ⟨second.size⟩ source' (Ring.turned ⟨first.size⟩ turn offset) consumed).1 =
      (walk ⟨first.size⟩ source offset consumed).1.moved (Ring.turned ⟨first.size⟩ turn) := by
  have carried {o : Nat} (within : contains ⟨first.size⟩ o = true) :
      contains ⟨second.size⟩ (Ring.turned ⟨first.size⟩ turn o) = true := by
    rw [turned.size, contains_turned]
    exact within
  fun_induction walk ⟨first.size⟩ source offset consumed generalizing source' with
  | case1 source offset consumed up =>
    rw [down] at up
    cases up
  | case2 source offset consumed _ e after read =>
    have barren := (readFound_eq_readAt same h inside).1
    rw [read] at barren
    exact walk_barren same' h' down' consumed (carried inside)
      (readAt_turned turned inside barren.symm)
  | case3 source offset consumed _ sentinel after read =>
    obtain ⟨-, stands, -⟩ := readFound_ok same read
    rw [foundAt_sentinel_iff inside] at stands
    exact walk_sentinel same' h' down' consumed (carried inside) (stands.turned turned inside)
  | case4 source offset consumed _ record after read full =>
    obtain ⟨-, stands, -⟩ := readFound_ok same read
    rw [foundAt_event_iff inside] at stands
    rw [size_mk, ← turned.size] at full
    rw [walk_overfull same' h' down' consumed (carried inside) (stands.turned turned inside) full,
      turned.size]
    rfl
  | case5 source offset consumed _ record after read room rest last walked ih =>
    obtain ⟨-, stands, kept⟩ := readFound_ok same read
    rw [foundAt_event_iff inside] at stands
    have agrees := (readFound_harmless same h inside).2.of_eq read
    have inside' := contains_position inside record.size.toNat
    rw [next_eq_position inside stands.fits] at ih walked
    rw [size_mk, ← turned.size] at room
    obtain ⟨after', agrees', walked'⟩ := walk_event same' h' down' consumed (carried inside)
      (stands.turned turned inside) (Nat.le_of_not_lt room)
    have later := ih kept (agrees'.1.trans same') (agrees.harmless h) (agrees'.harmless h')
      (agrees.2.2.trans down) (agrees'.2.2.trans down') inside'
    have size : (record.moved (Ring.turned ⟨first.size⟩ turn)).size = record.size := rfl
    rw [walked, turned_position inside, turned.size] at later
    rw [turned.size, size] at walked'
    rw [turned.size, walked']
    dsimp only
    rw [later]
    rfl

/-- If no read can fail and the flag stays down, and the oldest record is carried along when the
ring is turned, all that the walk from there reports is, whatever else the two headers say. -/
theorem run_turned (turned : Turned turn first second) (same : source.data = first)
    (same' : source'.data = second) (h : source.plan.Harmless) (h' : source'.plan.Harmless)
    (down : source.aborted = false) (down' : source'.aborted = false) {header header' : Header}
    (moves : header'.firstRecordOffset.toNat =
      Ring.turned ⟨first.size⟩ turn header.firstRecordOffset.toNat)
    (last : contains ⟨first.size⟩ header.sentinelOffset.toNat = true)
    (last' : contains ⟨second.size⟩ header'.sentinelOffset.toNat = true) :
    (run ⟨second.size⟩ header' source').1 =
      (run ⟨first.size⟩ header source).1.moved (Ring.turned ⟨first.size⟩ turn) := by
  have kept : contains ⟨second.size⟩ header'.firstRecordOffset.toNat =
      contains ⟨first.size⟩ header.firstRecordOffset.toNat := by
    rw [moves, turned.size, contains_turned]
  by_cases inside : contains ⟨first.size⟩ header.firstRecordOffset.toNat = true
  · rw [run_inside (kept.trans inside) last', run_inside inside last, moves]
    exact walk_turned turned same same' h h' down down' 0 inside
  · have outside : ¬contains ⟨second.size⟩ header'.firstRecordOffset.toNat = true := by
      rw [kept]
      exact inside
    rw [run_outside fun both => outside both.1, run_outside fun both => inside both.1, moves,
      turned.size]
    rfl

end Scan

namespace Session

open EventLog.Ring Scan

/-- If no read can fail and the flags are down, two logs whose rings are turned against each other,
and with them the offset of the oldest record, open with the same records in the same order, but for
the offsets, which are carried along; with the same end of file record or none; and with the same
outcome, in which offsets of the file are carried along. -/
theorem opens_turned {first second : Source} {turn : Nat}
    (turned : Turned turn first.data second.data) (h : first.plan.Harmless)
    (h' : second.plan.Harmless) (down : first.aborted = false) (down' : second.aborted = false)
    {header header' : Header}
    (valid : Header.decode (first.data.extract 0 Header.size).toList = .ok header)
    (valid' : Header.decode (second.data.extract 0 Header.size).toList = .ok header')
    (moves : header'.firstRecordOffset.toNat =
      Ring.turned ⟨first.data.size⟩ turn header.firstRecordOffset.toNat)
    (last : contains ⟨first.data.size⟩ header.sentinelOffset.toNat = true)
    (last' : contains ⟨second.data.size⟩ header'.sentinelOffset.toNat = true)
    (settings settings' : Settings) :
    ∃ session session', ofSource settings first = .ok session ∧
      ofSource settings' second = .ok session' ∧
      session'.records = session.records.map (Record.moved (Ring.turned ⟨first.data.size⟩ turn)) ∧
      session'.sentinel = session.sentinel ∧
      session'.outcome = session.outcome.moved (Ring.turned ⟨first.data.size⟩ turn) := by
  obtain ⟨ready, agrees, session, opens, answers⟩ := opens_with_walk h down valid settings
  obtain ⟨ready', agrees', session', opens', answers'⟩ := opens_with_walk h' down' valid' settings'
  have walks := run_turned turned agrees.1 agrees'.1 (agrees.harmless h) (agrees'.harmless h')
    (agrees.2.2.trans down) (agrees'.2.2.trans down') moves last last'
  rw [walks] at answers'
  refine ⟨session, session', opens, opens', ?_, ?_, ?_⟩
  · rw [answers'.records, answers.records]
    rfl
  · rw [answers'.sentinel, answers.sentinel, Scan.moved, Option.map_map]
    rfl
  · rw [answers'.outcome, answers.outcome]
    rfl

/-- The log with two records that `cutLog` is when its ring is unwound. -/
def flatLog : Array UInt8 :=
  filled (plainHeader 48 176) 48 (plainParts.flatMap Prod.fst ++ (plainSentinel 210 170).encode)

/-- What the walk of that log finds. -/
def flatScan : Scan :=
  ⟨[{ plainRecord 1 with offset := 48 }, { plainRecord 2 with offset := 112 }],
    some (176, plainSentinel 210 170), .complete⟩

/-- The length of the log. -/
theorem size_flatLog : flatLog.size = 216 := by decide +kernel

/-- The log has a valid header. -/
theorem flatLog_valid :
    Header.decode (flatLog.extract 0 Header.size).toList = .ok (plainHeader 48 176) := by
  rw [flatLog, extract_filled]
  rfl

/-- If no read can fail, the walk of the log finds that. -/
theorem run_flatLog (ready : Source) (same : ready.data = flatLog)
    (harmless : ready.plan.Harmless) (down : ready.aborted = false) :
    (Scan.run ⟨flatLog.size⟩ (plainHeader 48 176) ready).1 = flatScan := by
  rw [size_flatLog]
  have walked := run_filled size_flatLog rfl rfl rfl decode_plainParts rfl same harmless down
  rw [walked]
  decide +kernel

/-- The log whose ring is unwound opens with two records. The one that wraps around opens with the
same records, 162 bytes further on in the ring, with the same end of file record, and is complete as
well. -/
theorem opens_flat_and_cut : ∃ session session',
    ofSource {} (.ofBytes flatLog) = .ok session ∧
      ofSource {} (.ofBytes cutLog) = .ok session' ∧
      (session.records =
          [{ plainRecord 1 with offset := 48 }, { plainRecord 2 with offset := 112 }] ∧
        session.sentinel = .ok (some (plainSentinel 210 170)) ∧ session.outcome = .complete) ∧
      session'.records =
          [{ plainRecord 1 with offset := 210 }, { plainRecord 2 with offset := 106 }] ∧
        session'.sentinel = .ok (some (plainSentinel 210 170)) ∧ session'.outcome = .complete := by
  have carried : Ring.turned ⟨216⟩ 162 48 = 210 := rfl
  have length : start + (plainParts.flatMap Prod.fst ++ (plainSentinel 210 170).encode).length =
      216 := size_filled.symm.trans size_flatLog
  have turns : Turned 162 flatLog cutLog := by
    rw [cutLog, ← carried]
    exact turned_filled length rfl
  have moves : (plainHeader 210 170).firstRecordOffset.toNat =
      Ring.turned ⟨flatLog.size⟩ 162 (plainHeader 48 176).firstRecordOffset.toNat := by
    rw [size_flatLog]
    rfl
  have last : contains ⟨flatLog.size⟩ (plainHeader 48 176).sentinelOffset.toNat = true := by
    rw [size_flatLog]
    rfl
  have last' : contains ⟨cutLog.size⟩ (plainHeader 210 170).sentinelOffset.toNat = true := by
    rw [size_cutLog]
    rfl
  have harmless : (Source.ofBytes flatLog).plan.Harmless := FaultPlan.harmless_none
  have harmless' : (Source.ofBytes cutLog).plan.Harmless := FaultPlan.harmless_none
  obtain ⟨session, session', opens, opens', records, sentinel, outcome⟩ :=
    opens_turned turns harmless harmless' rfl rfl flatLog_valid cutLog_valid moves last last' {} {}
  obtain ⟨flat, opened, calm, -⟩ :=
    opens_undisturbed rfl harmless rfl flatLog_valid run_flatLog {}
  have same : flat = session := Except.ok.inj (opened.symm.trans opens)
  subst same
  have size : (Source.ofBytes flatLog).data.size = 216 := size_flatLog
  rw [size, calm.answers.records] at records
  rw [calm.answers.sentinel] at sentinel
  rw [size, calm.answers.outcome] at outcome
  refine ⟨flat, session', opens, opens', ⟨calm.answers.records, calm.answers.sentinel,
    calm.answers.outcome⟩, ?_, sentinel, outcome⟩
  rw [records]
  decide +kernel

end Session

end EventLog
