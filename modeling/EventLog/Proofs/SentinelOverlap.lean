import EventLog.Proofs.Lifecycle

/-!
# The end of file record and the records before it

A walk counts the bytes of its records against one turn of the ring, but it takes the end of file
record that follows them without counting its bytes. So the end of file record of a complete walk
can reach around into the first record, and lies apart from the records just if the ring has room
for all of them (`sentinel_apart_iff`). It can reach no further than that: its four signatures
cannot stand where the first record has its own, so that at most its last 24 bytes are shared.
-/

namespace EventLog

open EventLog.Ring Scan

/-- The byte at an index of a slice is the one as far behind the start of the slice. -/
theorem Bytes.getElem?_slice {bytes : Bytes} {offset size index : Nat} (within : index < size) :
    (bytes.slice offset size)[index]? = bytes[offset + index]? := by
  rw [slice, List.getElem?_take_of_lt within, List.getElem?_drop]

namespace Ring

variable {data : Array UInt8} {offset : Nat}

/-- A whole turn leads back to where it started. -/
theorem position_size_add (ring : Ring) (offset distance : Nat) :
    ring.position offset (ring.size + distance) = ring.position offset distance := by
  rw [position, position, ← Nat.add_assoc, Nat.add_right_comm, Nat.add_mod_right]

/-- Four bytes after the start of a record its signature starts. -/
theorem StandsAt.signature (inside : contains ⟨data.size⟩ offset = true) {record : Record}
    (stands : StandsAt data offset record) :
    data[position ⟨data.size⟩ offset 4]? = some 0x4C := by
  have least := stands.minimumSize_le
  have fits := stands.fits
  rw [Record.minimumSize] at least
  have signed :=
    (Record.checkFront_eq_ok_iff.mp (Record.front_of_decode stands.decodes).1).2.2
  rw [Bytes.slice_take (by omega)] at signed
  have first : (Bytes.slice (unrolled data offset) 4 4)[0]? = some 0x4C := by
    rw [signed]
    rfl
  rw [Bytes.getElem?_slice (by decide), Nat.add_zero, getElem?_unrolled inside (by omega)] at first
  exact first

/-- From four bytes after the start of an end of file record to twenty bytes after it every byte is
one of a signature, which names the position of the signature. -/
theorem SentinelAt.signature (inside : contains ⟨data.size⟩ offset = true) {sentinel : Sentinel}
    (ends : SentinelAt data offset sentinel) {distance : Nat} (low : 4 ≤ distance)
    (high : distance < 20) :
    data[position ⟨data.size⟩ offset distance]? = some (UInt8.ofNat (0x11 * (distance / 4))) := by
  have bounds : start ≤ offset ∧ offset < data.size := contains_iff.mp inside
  obtain ⟨long, -, signatures, -⟩ := Sentinel.decode_eq_ok_iff.mp ends
  rw [List.length_take, length_unrolled bounds.1 (Nat.le_of_lt bounds.2), Sentinel.size] at long
  have listed : distance / 4 ∈ [1, 2, 3, 4] := by
    simp only [List.mem_cons, List.not_mem_nil, or_false]
    omega
  have signed := signatures (distance / 4) listed
  rw [Sentinel.signatureIn, Bytes.slice_take (by rw [Sentinel.size]; omega)] at signed
  have shown : (Bytes.slice (unrolled data offset) (4 * (distance / 4)) 4)[distance % 4]? =
      some (UInt8.ofNat (0x11 * (distance / 4))) := by
    rw [signed, Sentinel.signature, List.getElem?_replicate, if_pos (Nat.mod_lt _ (by decide))]
  rw [Bytes.getElem?_slice (Nat.mod_lt _ (by decide)), Nat.div_add_mod,
    getElem?_unrolled inside (by omega)] at shown
  exact shown

/-- An end of file record does not reach around so far that one of its signatures would stand where
the record at the start of the turn has its own. -/
theorem SentinelAt.room (inside : contains ⟨data.size⟩ offset = true) {record : Record}
    (stands : StandsAt data offset record) {sentinel : Sentinel} {distance : Nat}
    (turn : distance ≤ data.size - start)
    (ends : SentinelAt data (position ⟨data.size⟩ offset distance) sentinel) :
    distance + 16 ≤ data.size - start := by
  rw [← Nat.not_lt]
  intro short
  have round : distance + (data.size - start - distance + 4) = data.size - start + 4 := by omega
  have clash := ends.signature (contains_position inside distance)
    (show 4 ≤ data.size - start - distance + 4 by omega) (by omega)
  rw [position_position, round, ← size_mk, position_size_add, stands.signature inside,
    Option.some.injEq] at clash
  have listed : (data.size - start - distance + 4) / 4 ∈ [1, 2, 3, 4] := by
    simp only [List.mem_cons, List.not_mem_nil, or_false]
    omega
  have apart : ∀ position ∈ [1, 2, 3, 4], (0x4C : UInt8) ≠ UInt8.ofNat (0x11 * position) := by
    decide
  exact apart _ listed clash

end Ring

namespace Scan

variable {data : Array UInt8} {offset : Nat}

/-- A run that follows chained records and has a byte of one of them has come around to it. -/
theorem Chained.reached {records : List Record} (chained : Chained data offset records)
    (inside : contains ⟨data.size⟩ offset = true)
    {record : Record} (member : record ∈ records) {byte : Nat}
    (covered : covers ⟨data.size⟩ record.offset record.size.toNat byte = true) {reach : Nat}
    (again : covers ⟨data.size⟩ (following data offset records) reach byte = true) :
    ∃ distance, distance + (data.size - start) < total records + reach ∧
      position ⟨data.size⟩ offset distance = byte := by
  obtain ⟨near, within, same⟩ := chained.distance member covered
  obtain ⟨far, beyond, same'⟩ := covers_iff.mp again
  have whole := size_mk data.size
  rw [following, position_position] at same'
  rcases Nat.lt_or_ge (total records + far) (data.size - start) with before | after
  · have equal := position_injective inside (by omega) (by omega) (same.trans same'.symm)
    omega
  · obtain ⟨rest, split⟩ := Nat.exists_eq_add_of_le after
    rw [split, ← whole, position_size_add] at same'
    exact ⟨rest, by omega, same'⟩

/-- The end of file record at a place shares no byte with any of the records. -/
def Apart (ring : Ring) (place : Nat) (records : List Record) : Prop :=
  ∀ record ∈ records, ∀ byte, ring.covers place Sentinel.size byte = true →
    ring.covers record.offset record.size.toNat byte = false

/-- An end of file record that follows chained records leaves at least 16 bytes between them. -/
theorem Chained.room {records : List Record} (chained : Chained data offset records)
    (inside : contains ⟨data.size⟩ offset = true) (fits : total records ≤ data.size - start)
    (turn : Sentinel.size ≤ data.size - start) {sentinel : Sentinel}
    (ends : SentinelAt data (following data offset records) sentinel) :
    total records + 16 ≤ data.size - start := by
  cases records with
  | nil =>
    rw [Sentinel.size] at turn
    rw [total_nil]
    omega
  | cons first rest => exact SentinelAt.room inside chained.1 fits ends

/-- An end of file record that follows chained records lies apart from all of them but the first. -/
theorem Chained.apart_tail {records : List Record} (chained : Chained data offset records)
    (inside : contains ⟨data.size⟩ offset = true)
    (room : total records + 16 ≤ data.size - start) :
    Apart ⟨data.size⟩ (following data offset records) records.tail := by
  cases records with
  | nil =>
    intro record member
    exact absurd member List.not_mem_nil
  | cons first rest =>
    intro record member byte again
    rw [← Bool.not_eq_true]
    intro covered
    obtain ⟨near, short, same⟩ :=
      chained.reached inside (List.mem_cons_of_mem _ member) covered again
    obtain ⟨far, within, same'⟩ := chained.2.distance member covered
    have least := chained.1.minimumSize_le
    have whole := size_mk data.size
    rw [position_position] at same'
    rw [total_cons] at short room
    rw [Sentinel.size] at short
    rw [Record.minimumSize] at least
    have equal := position_injective inside (by omega) (by omega) (same.trans same'.symm)
    omega

/-- An end of file record that follows chained records lies apart from all of them just if one turn
has room for it as well. -/
theorem Chained.apart_iff {records : List Record} (chained : Chained data offset records)
    (inside : contains ⟨data.size⟩ offset = true) (fits : total records ≤ data.size - start)
    (turn : Sentinel.size ≤ data.size - start) :
    Apart ⟨data.size⟩ (following data offset records) records ↔
      total records + Sentinel.size ≤ data.size - start := by
  constructor
  · intro apart
    rw [← Nat.not_lt]
    intro short
    cases records with
    | nil =>
      rw [total_nil] at short
      omega
    | cons first rest =>
      obtain ⟨left, split⟩ := Nat.exists_eq_add_of_le fits
      have whole := size_mk data.size
      -- One turn after the start of the first record stands its first byte again.
      have back : covers ⟨data.size⟩ (following data offset (first :: rest)) Sentinel.size offset =
          true := by
        have around := position_size_add ⟨data.size⟩ offset 0
        rw [position_zero inside, Nat.add_zero, whole, split, ← position_position] at around
        exact covers_iff.mpr ⟨left, by omega, around⟩
      have least := chained.1.minimumSize_le
      rw [Record.minimumSize] at least
      have here : covers ⟨data.size⟩ first.offset first.size.toNat offset = true := by
        rw [chained.1.starts]
        exact covers_iff.mpr ⟨0, by omega, position_zero inside⟩
      have clash := apart first List.mem_cons_self offset back
      rw [here] at clash
      cases clash
  · intro room record member byte again
    rw [← Bool.not_eq_true]
    intro covered
    obtain ⟨near, short, -⟩ := chained.reached inside member covered again
    omega

end Scan

namespace Session

variable {settings : Settings} {source : Source} {session : Session}

/-- What a log holds goes back to one walk over the bytes of its file. -/
theorem after_scan (honest : source.plan.reportedLength = none)
    (opens : ofSource settings source = .ok session) (actions : List Action) {contents : Contents}
    (holding : (session.after actions).contents = some contents) :
    ∃ (header : Header) (ready : Source), ready.data = source.data ∧
      contents.scan = (Scan.run ⟨source.data.size⟩ header ready).1 := by
  obtain ⟨length, header, measured, ready, measures, reads, rfl⟩ := ofSource_eq_ok_iff.mp opens
  have whole := Source.measure_ok honest (congrArg Prod.fst measures)
  have moved := source.measure_continues.of_eq measures
  have orderly : ((opened settings length header ready).after actions).Orderly
      (walked length header ready) :=
    after_induction _ (opened_orderly settings length header ready)
      (fun _ action orderly => act_orderly orderly action) actions
  rw [← whole]
  exact ⟨header, ready, (readHeader_ok reads).2.data.trans moved.data,
    (orderly.held contents holding).scan⟩

/-- If the walk of a log was complete, the end of file record that it met follows its records and
leaves at least 16 bytes between them. It shares no byte with any record but the first, and none
with that just if one turn of the ring has room for all records and for the end of file record. -/
theorem sentinel_apart_iff (honest : source.plan.reportedLength = none)
    (opens : ofSource settings source = .ok session) (actions : List Action) {contents : Contents}
    (holding : (session.after actions).contents = some contents)
    (complete : contents.scan.outcome = .complete) :
    ∃ place sentinel, contents.scan.sentinel = some (place, sentinel) ∧
      SentinelAt source.data place sentinel ∧
      total contents.scan.records + 16 ≤ source.data.size - start ∧
      Apart ⟨source.data.size⟩ place contents.scan.records.tail ∧
      (Apart ⟨source.data.size⟩ place contents.scan.records ↔
        total contents.scan.records + Sentinel.size ≤ source.data.size - start) := by
  obtain ⟨header, ready, same, walk⟩ := after_scan honest opens actions holding
  rw [walk] at complete ⊢
  by_cases both : contains ⟨source.data.size⟩ header.firstRecordOffset.toNat = true ∧
      contains ⟨source.data.size⟩ header.sentinelOffset.toNat = true
  · rw [run_inside both.1 both.2] at complete ⊢
    have faithful := walk_faithful same 0 both.1 (Nat.zero_le _)
    generalize (Scan.walk ⟨source.data.size⟩ ready header.firstRecordOffset.toNat 0).1 = scan
      at complete faithful ⊢
    obtain ⟨⟨place, sentinel⟩, met⟩ :=
      Option.isSome_iff_exists.mp (faithful.complete.mp complete)
    obtain ⟨follows, ends⟩ := faithful.met _ met
    have turn : Sentinel.size ≤ source.data.size - start :=
      ((faithful.within both.1).sentinel _ met).2
    have fits := faithful.fits
    rw [Nat.zero_add] at fits
    dsimp only at follows ends
    subst follows
    have room := faithful.chained.room both.1 fits turn ends
    exact ⟨_, sentinel, met, ends, room, faithful.chained.apart_tail both.1 room,
      faithful.chained.apart_iff both.1 fits turn⟩
  · rw [run_outside both] at complete
    cases complete

/-- The end of file record of the log lies apart from its record, as the ring has room for both. -/
theorem short_log_sentinel_apart : ∃ session contents place sentinel,
    ofSource { recovery := .always } (.ofBytes shortLog) = .ok session ∧
      session.contents = some contents ∧ contents.scan.outcome = .complete ∧
      contents.scan.sentinel = some (place, sentinel) ∧
      Apart ⟨shortLog.size⟩ place contents.scan.records ∧
      total contents.scan.records + Sentinel.size ≤ shortLog.size - start := by
  obtain ⟨session, contents, opens, holding, walk, -⟩ := opens_shortLog
  have honest : (Source.ofBytes shortLog).plan.reportedLength = none := rfl
  have complete : contents.scan.outcome = .complete := by
    rw [walk]
    rfl
  have room : total contents.scan.records + Sentinel.size ≤ shortLog.size - start := by
    rw [walk, size_shortLog]
    decide +kernel
  have same : (Source.ofBytes shortLog).data = shortLog := rfl
  obtain ⟨place, sentinel, met, -, -, -, apart⟩ :=
    sentinel_apart_iff honest opens [] holding complete
  rw [same] at apart
  exact ⟨session, contents, place, sentinel, opens, holding, complete, met, apart.mpr room, room⟩

/-- An end of file record whose last twelve bytes are the first twelve of a record: its last two
words before the trailing size are the size and the signature of the record. -/
def reachingSentinel : Sentinel := ⟨48, 112, 64, 0x654C664C⟩

/-- A log whose ring has twelve bytes less than its record and its end of file record take. -/
def reachingLog : Array UInt8 :=
  filled (plainHeader 48 112) 112 (reachingSentinel.encode.take 28 ++ plainBytes 40)

/-- What the walk of that log finds. -/
def reachingScan : Scan :=
  ⟨[{ plainRecord 40 with offset := 48 }], some (112, reachingSentinel), .complete⟩

/-- The length of the log. -/
theorem size_reachingLog : reachingLog.size = 140 := by
  rw [reachingLog, size_filled, List.length_append, List.length_take, Sentinel.length_encode,
    length_plainBytes]
  rfl

/-- The log has a valid header. -/
theorem reachingLog_valid :
    Header.decode (reachingLog.extract 0 Header.size).toList = .ok (plainHeader 48 112) := by
  rw [reachingLog, extract_filled]
  rfl

/-- The record lies in the log, and the end of file record whose last bytes are its first. -/
theorem lies_reachingLog :
    Lies reachingLog 48 (plainBytes 40) ∧ Lies reachingLog 112 reachingSentinel.encode := by
  have whole : Lies reachingLog 112 (reachingSentinel.encode.take 28 ++ plainBytes 40) :=
    lies_filled_of_size size_reachingLog rfl
  have shared : reachingSentinel.encode =
      reachingSentinel.encode.take 28 ++ (plainBytes 40).take 12 := rfl
  obtain ⟨-, later⟩ := whole.of_append
  rw [size_reachingLog] at later
  refine ⟨later, ?_⟩
  rw [← (plainBytes 40).take_append_drop 12, ← List.append_assoc, ← shared] at whole
  exact whole.of_append.1

/-- If no read can fail, the walk of the log finds that. -/
theorem run_reachingLog (ready : Source) (same : ready.data = reachingLog)
    (harmless : ready.plan.Harmless) (down : ready.aborted = false) :
    (Scan.run ⟨reachingLog.size⟩ (plainHeader 48 112) ready).1 = reachingScan := by
  have first : contains ⟨reachingLog.size⟩ 48 = true := by
    rw [size_reachingLog]
    rfl
  have last : contains ⟨reachingLog.size⟩ 112 = true := by
    rw [size_reachingLog]
    rfl
  have decoded : Record.decode (plainBytes 40) = .ok (plainRecord 40) := rfl
  have closes : Sentinel.decode reachingSentinel.encode = .ok reachingSentinel := rfl
  have stands := standsAt_of_lies first lies_reachingLog.1 decoded
  have ends := sentinelAt_of_lies last lies_reachingLog.2 closes rfl
  have room : 0 + ({ plainRecord 40 with offset := 48 } : Record).size.toNat ≤
      reachingLog.size - start := by
    rw [size_reachingLog]
    decide +kernel
  have step : position ⟨reachingLog.size⟩ 48 (plainRecord 40).size.toNat = 112 := by
    rw [size_reachingLog]
    rfl
  have starts : Scan.run ⟨reachingLog.size⟩ (plainHeader 48 112) ready =
      Scan.walk ⟨reachingLog.size⟩ ready 48 0 := run_inside first last
  rw [starts]
  obtain ⟨after, agrees, walked⟩ := walk_event same harmless down 0 first stands room
  dsimp only at walked
  rw [step, walk_sentinel (agrees.1.trans same) (agrees.harmless harmless)
    (agrees.2.2.trans down) _ last ends] at walked
  exact walked

/-- The walk of the log is complete, but the first byte of its record is one of the end of file
record as well, and the ring has no room for both. -/
theorem reached_record_overlaps : ∃ session contents,
    ofSource {} (.ofBytes reachingLog) = .ok session ∧
      session.contents = some contents ∧ contents.scan = reachingScan ∧
      reachingScan.outcome = .complete ∧
      covers ⟨reachingLog.size⟩ 48 64 48 = true ∧
      covers ⟨reachingLog.size⟩ 112 Sentinel.size 48 = true ∧
      reachingLog.size - start < total reachingScan.records + Sentinel.size := by
  have harmless : (Source.ofBytes reachingLog).plan.Harmless := FaultPlan.harmless_none
  have whole : (Source.ofBytes reachingLog).data = reachingLog := rfl
  obtain ⟨ready, agrees, opens⟩ := ofSource_harmless whole harmless reachingLog_valid
  have same := agrees.1.trans whole
  have walk := run_reachingLog ready same (agrees.harmless harmless) agrees.2.2
  obtain ⟨-, contents, holding, held, -⟩ :=
    opened_harmless same (agrees.harmless harmless) agrees.2.2 {} (plainHeader 48 112)
  refine ⟨_, contents, opens {}, holding, held.trans walk, rfl, ?_⟩
  rw [size_reachingLog]
  decide +kernel

end Session

end EventLog
