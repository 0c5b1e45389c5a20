import EventLog.Proofs.Session
import EventLog.Ring.Filled

/-!
# The records that a log opens with

A log with a valid header opens with all records that were laid out in its ring before an end of
file record, wherever the ring wraps around (`opens_with_laid_out_records`). Whatever else its ring
holds, the records that it opens with stand there one right after the other in one turn, and the
walk ended where it could not go on (`opens_with_settled_walk`).
-/

namespace EventLog.Session

open EventLog.Ring Scan

/-- A log answers with what a walk found. -/
structure Answers (session : Session) (scan : Scan) : Prop where
  /-- The outcome is that of the walk. -/
  outcome : session.outcome = scan.outcome
  /-- The records are those of the walk, in order. -/
  records : session.records = scan.records
  /-- The end of file record is the one that the walk met. -/
  sentinel : session.sentinel = .ok (scan.sentinel.map Prod.snd)

/-- An undisturbed log answers with its walk. -/
theorem Undisturbed.answers {data : Array UInt8} {scan : Scan} {session : Session}
    (calm : session.Undisturbed data scan) : session.Answers scan := by
  obtain ⟨contents, holding, walk, -⟩ := calm.held
  refine ⟨calm.outcome, ?_, ?_⟩
  · rw [records, holding, ← walk]
    rfl
  · rw [sentinel, Session.held, holding, ← walk]
    rfl

variable {source : Source} {header : Header}

/-- If no read can fail and the flag is down, a log with a valid header opens and answers with its
walk. -/
theorem opens_with_walk (h : source.plan.Harmless) (down : source.aborted = false)
    (valid : Header.decode (source.data.extract 0 Header.size).toList = .ok header)
    (settings : Settings) :
    ∃ ready : Source, ready.Agrees source ∧ ∃ session, ofSource settings source = .ok session ∧
      session.Answers (Scan.run ⟨source.data.size⟩ header ready).1 := by
  obtain ⟨ready, agrees, opens⟩ := ofSource_harmless rfl h valid
  obtain ⟨calm, -⟩ :=
    opened_undisturbed agrees.1 (agrees.harmless h) (agrees.2.2.trans down) settings header
  exact ⟨ready, agrees, _, opens settings, calm.answers⟩

/-- A record with a number and no contents. -/
def plainRecord (number : UInt32) : Record where
  size := 64
  number := number
  created := 0
  written := 0
  identifier := ⟨0⟩
  kind := ⟨0⟩
  stringCount := 0
  category := 0
  flags := 0
  closingNumber := 0
  stringsOffset := 60
  sidSize := 0
  sidOffset := 0
  dataSize := 0
  dataOffset := 60
  offset := 0
  sourceName := []
  computerName := []
  sidBytes := none
  strings := none
  data := []

/-- The bytes of a record without contents: the fixed part, two empty names and the size. -/
def plainBytes (number : UInt32) : Bytes :=
  (plainRecord number).toBytes ++ List.replicate 4 0 ++ Bytes.ofNat 4 64

/-- A record without contents takes 64 bytes. -/
@[simp] theorem length_plainBytes (number : UInt32) : (plainBytes number).length = 64 := by
  simp only [plainBytes, List.length_append, RecordFields.length_toBytes, RecordFields.width,
    List.length_replicate, Bytes.length_ofNat]

/-- A header whose two offsets are given. -/
def plainHeader (firstRecordOffset sentinelOffset : UInt32) : Header where
  majorVersion := 1
  minorVersion := 1
  firstRecordOffset := firstRecordOffset
  sentinelOffset := sentinelOffset
  nextRecordNumber := 3
  firstRecordNumber := 1
  maximumFileSize := 216
  flags := 0
  retention := 0

/-- An end of file record whose two offsets are given. -/
def plainSentinel (firstRecordOffset sentinelOffset : UInt32) : Sentinel :=
  ⟨firstRecordOffset, sentinelOffset, 3, 1⟩

/-- Two records without contents, each with its bytes. -/
def plainParts : List (Bytes × Record) :=
  [(plainBytes 1, plainRecord 1), (plainBytes 2, plainRecord 2)]

/-- The bytes of a record without contents decode to it. -/
theorem decode_plainParts : ∀ part ∈ plainParts, Record.decode part.1 = .ok part.2 := by
  intro part member
  simp only [plainParts, List.mem_cons, List.not_mem_nil, or_false] at member
  rcases member with rfl | rfl
  · rfl
  · rfl

/-- A log with two records, the first of which the end of the file cuts within its signature. -/
def cutLog : Array UInt8 :=
  filled (plainHeader 210 170) 210
    (plainParts.flatMap Prod.fst ++ (plainSentinel 210 170).encode)

/-- What the walk of that log finds. -/
def cutScan : Scan :=
  ⟨[{ plainRecord 1 with offset := 210 }, { plainRecord 2 with offset := 106 }],
    some (170, plainSentinel 210 170), .complete⟩

/-- The length of the log. -/
theorem size_cutLog : cutLog.size = 216 := by decide +kernel

/-- The log has a valid header. -/
theorem cutLog_valid :
    Header.decode (cutLog.extract 0 Header.size).toList = .ok (plainHeader 210 170) := by
  rw [cutLog, extract_filled]
  rfl

/-- If no read can fail, a walk finds the records and the end of file record with which the ring of
a log was filled. -/
theorem run_filled {parts : List (Bytes × Record)} {sentinel : Sentinel} {fileEnd offset : Nat}
    (size : (filled header offset (parts.flatMap Prod.fst ++ sentinel.encode)).size = fileEnd)
    (starts : header.firstRecordOffset.toNat = offset)
    (first : contains ⟨fileEnd⟩ offset = true)
    (last : contains ⟨fileEnd⟩ header.sentinelOffset.toNat = true)
    (decoded : ∀ part ∈ parts, Record.decode part.1 = .ok part.2)
    (closes : Sentinel.decode sentinel.encode = .ok sentinel) {ready : Source}
    (same : ready.data = filled header offset (parts.flatMap Prod.fst ++ sentinel.encode))
    (harmless : ready.plan.Harmless) (down : ready.aborted = false) :
    (Scan.run ⟨fileEnd⟩ header ready).1 =
      ⟨placed ⟨fileEnd⟩ offset parts,
        some (position ⟨fileEnd⟩ offset (parts.flatMap Prod.fst).length, sentinel), .complete⟩ := by
  have lies := lies_filled_of_size size first
  subst size starts
  exact run_of_laid_out same harmless down first last decoded closes sentinel.length_encode lies

/-- If no read can fail, the walk of the log finds that. -/
theorem run_cutLog (ready : Source) (same : ready.data = cutLog)
    (harmless : ready.plan.Harmless) (down : ready.aborted = false) :
    (Scan.run ⟨cutLog.size⟩ (plainHeader 210 170) ready).1 = cutScan := by
  rw [size_cutLog]
  have walked := run_filled size_cutLog rfl rfl rfl decode_plainParts rfl same harmless down
  rw [walked]
  decide +kernel

/-- A log whose ring is just large enough for its only record. -/
def fullLog : Array UInt8 := filled (plainHeader 48 48) 48 (plainBytes 1)

/-- Records that are laid out in the ring before an end of file record are what a log opens with,
in order and each at its position, wherever the ring wraps around. -/
theorem opens_with_laid_out_records (h : source.plan.Harmless) (down : source.aborted = false)
    (valid : Header.decode (source.data.extract 0 Header.size).toList = .ok header)
    (first : contains ⟨source.data.size⟩ header.firstRecordOffset.toNat = true)
    (last : contains ⟨source.data.size⟩ header.sentinelOffset.toNat = true)
    {parts : List (Bytes × Record)} (decoded : ∀ part ∈ parts, Record.decode part.1 = .ok part.2)
    {closing : Bytes} {sentinel : Sentinel} (closes : Sentinel.decode closing = .ok sentinel)
    (exact : closing.length = Sentinel.size)
    (lies : Lies source.data header.firstRecordOffset.toNat (parts.flatMap Prod.fst ++ closing))
    (settings : Settings) :
    ∃ session, ofSource settings source = .ok session ∧ session.outcome = .complete ∧
      session.records = placed ⟨source.data.size⟩ header.firstRecordOffset.toNat parts ∧
      session.sentinel = .ok (some sentinel) := by
  obtain ⟨ready, agrees, session, opens, answers⟩ := opens_with_walk h down valid settings
  have walked := run_of_laid_out agrees.1 (agrees.harmless h) (agrees.2.2.trans down) first last
    decoded closes exact lies
  rw [walked] at answers
  exact ⟨session, opens, answers.outcome, answers.records, answers.sentinel⟩

/-- The log opens with both of its records, of which the second stands after the rest of the
first. -/
theorem opens_with_cut_record : ∃ session,
    ofSource {} (.ofBytes cutLog) = .ok session ∧ session.outcome = .complete ∧
      session.records =
        [{ plainRecord 1 with offset := 210 }, { plainRecord 2 with offset := 106 }] ∧
      session.sentinel = .ok (some (plainSentinel 210 170)) := by
  have first : contains ⟨cutLog.size⟩ 210 = true := by
    rw [size_cutLog]
    rfl
  have last : contains ⟨cutLog.size⟩ 170 = true := by
    rw [size_cutLog]
    rfl
  have closes : Sentinel.decode (plainSentinel 210 170).encode = .ok (plainSentinel 210 170) := rfl
  have lies : Lies cutLog 210
      (plainParts.flatMap Prod.fst ++ (plainSentinel 210 170).encode) :=
    lies_filled (by decide +kernel)
  have placing : placed ⟨cutLog.size⟩ 210 plainParts =
      [{ plainRecord 1 with offset := 210 }, { plainRecord 2 with offset := 106 }] := by
    rw [size_cutLog]
    decide +kernel
  have harmless : (Source.ofBytes cutLog).plan.Harmless := FaultPlan.harmless_none
  have down : (Source.ofBytes cutLog).aborted = false := rfl
  rw [← placing]
  exact opens_with_laid_out_records harmless down cutLog_valid first last decode_plainParts closes
    rfl lies {}

/-- A log with a valid header opens with nothing if one of the two offsets of the header lies
outside the ring; else its records are chained from where the header says, take at most one turn of
the ring and share no byte, and it is complete just if an end of file record follows them. -/
theorem opens_with_settled_walk (h : source.plan.Harmless) (down : source.aborted = false)
    (valid : Header.decode (source.data.extract 0 Header.size).toList = .ok header)
    (settings : Settings) :
    ∃ session scan, ofSource settings source = .ok session ∧ session.Answers scan ∧
      ((¬(contains ⟨source.data.size⟩ header.firstRecordOffset.toNat = true ∧
            contains ⟨source.data.size⟩ header.sentinelOffset.toNat = true) ∧
          scan.records = [] ∧ scan.outcome.isCorrupted = true) ∨
        ((contains ⟨source.data.size⟩ header.firstRecordOffset.toNat = true ∧
            contains ⟨source.data.size⟩ header.sentinelOffset.toNat = true) ∧
          Settled source.data header.firstRecordOffset.toNat scan)) := by
  obtain ⟨ready, agrees, session, opens, answers⟩ := opens_with_walk h down valid settings
  refine ⟨session, _, opens, answers, ?_⟩
  by_cases both : contains ⟨source.data.size⟩ header.firstRecordOffset.toNat = true ∧
      contains ⟨source.data.size⟩ header.sentinelOffset.toNat = true
  · rw [run_inside both.1 both.2]
    have settled := settled_of_walk agrees.1 (agrees.harmless h) (agrees.2.2.trans down) both.1
    exact .inr ⟨both, settled⟩
  · rw [run_outside both]
    exact .inl ⟨both, rfl, rfl⟩

/-- The log opens with a walk that ended where it had started. -/
theorem opens_with_full_ring : ∃ session scan, ofSource {} (.ofBytes fullLog) = .ok session ∧
    session.Answers scan ∧ Settled fullLog 48 scan := by
  have size : fullLog.size = 112 := by decide +kernel
  have valid : Header.decode (fullLog.extract 0 Header.size).toList = .ok (plainHeader 48 48) := by
    rw [fullLog, extract_filled]
    rfl
  have inside : contains ⟨fullLog.size⟩ 48 = true := by
    rw [size]
    rfl
  have harmless : (Source.ofBytes fullLog).plan.Harmless := FaultPlan.harmless_none
  have down : (Source.ofBytes fullLog).aborted = false := rfl
  obtain ⟨session, scan, opens, answers, outside | settled⟩ :=
    opens_with_settled_walk harmless down valid {}
  · exact absurd ⟨inside, inside⟩ outside.1
  · exact ⟨session, scan, opens, answers, settled.2⟩

end EventLog.Session
