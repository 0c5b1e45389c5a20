import EventLog.Machine.Session
import EventLog.Proofs.PrimaryRecords

/-!
# The machine never stops

A machine with words of 64 bits stops at a sum or product that does not fit, at a difference below
zero and at a slice out of range. It never does so while it decodes bytes, opens a log or acts on it
(`never_stops`): offsets that were read from a file are checked before the machine relies on them,
and what the walk leaves behind keeps to the ring.
-/

namespace EventLog.Machine

open EventLog.Ring

/-- The machine decodes bytes to an end, whatever they are taken for, with what decoding
delivers. -/
structure Decodes (bytes : Bytes) : Prop where
  /-- They are taken for a file header. -/
  header : decodeHeader bytes = .ends (Header.decode bytes)
  /-- They are taken for an end of file record. -/
  sentinel : decodeSentinel bytes = .ends (Sentinel.decode bytes)
  /-- They are taken for an event record. -/
  record : decodeRecord bytes = .ends (Record.decode bytes)
  /-- They are taken for a packed table of strings. -/
  table : decodeTable bytes = .ends (StringTable.decode bytes)
  /-- They are taken for a security identifier. -/
  sid : decodeSid bytes = .ends (Sid.decode bytes)

/-- The machine opens a source as a log and acts on it without a stop. -/
structure Operates (settings : Settings) (source : Source) : Prop where
  /-- It opens the log, or says why that fails, as the log opens. -/
  opens : ofSource settings source = some (Session.ofSource settings source)
  /-- Whatever is done to a log that opened, in any order, it does. -/
  acts : ∀ session, Session.ofSource settings source = .ok session →
    ∀ actions, after session actions = some (session.after actions)
  /-- Wherever an event record is found in the ring, however the reads go, the offset after it lies
  in the ring. -/
  follows : ∀ ring, ring.fileEnd = source.plan.reportedLength.getD source.data.size →
    ∀ (ready left : Source) (offset : Nat) (record : Record),
      ring.readFound ready offset = (.ok (.event record), left) →
        ∃ following, next ring offset record.size.toNat = some following ∧
          ring.contains following = true

/-- The offset after an event record that was found lies in the ring, and the machine finds it. -/
theorem next_of_readFound {ring : Ring} (small : ring.fileEnd < UInt64.size / 2)
    {ready left : Source} {offset : Nat} {record : Record}
    (read : ring.readFound ready offset = (.ok (.event record), left)) :
    ∃ following, next ring offset record.size.toNat = some following ∧
      ring.contains following = true := by
  obtain ⟨inside, -, fits⟩ := event_of_readFound read
  refine ⟨_, next_eq small inside fits, ?_⟩
  rw [next_eq_position inside fits]
  exact contains_position inside _

/-- Bytes that a word can count are decoded without a stop, and a source that reports less than half
of what a word can count is opened, and acted on, without a stop. -/
theorem never_stops {bytes : Bytes} (counted : bytes.length < UInt64.size) (settings : Settings)
    {source : Source}
    (reported : source.plan.reportedLength.getD source.data.size < UInt64.size / 2) :
    Decodes bytes ∧ Operates settings source := by
  constructor
  · exact
      { header := decodeHeader_eq bytes
        sentinel := decodeSentinel_eq bytes
        record := decodeRecord_eq counted
        table := decodeTable_eq counted
        sid := decodeSid_eq bytes }
  · exact
      { opens := ofSource_eq settings reported
        acts := fun _ opens => after_eq (contained_of_ofSource reported opens)
        follows := fun ring length _ _ _ _ read => next_of_readFound (length ▸ reported) read }

/-- The bytes of a record are decoded without a stop, and so is a log opened that wraps around, from
a source that reports more bytes than it has and fails at its ninth read. -/
theorem overstated_log_never_stops :
    Decodes (Session.plainBytes 1) ∧ Operates {}
      { data := Session.cutLog
        plan := FaultSchedule.plan { failAt := 9, length := 4294967296 } } :=
  never_stops (by decide) {} (by decide)

end EventLog.Machine
