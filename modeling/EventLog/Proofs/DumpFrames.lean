import EventLog.Proofs.FileGrowth
import EventLog.Proofs.PrimaryRecords
import EventLog.Proofs.RecordFrames
import EventLog.Proofs.RecoveredRecords

/-!
# What a run of the dump writes

A run that opens its log and has a place to write to succeeds, whatever the records hold. Its output
is one frame after the other, a frame for each record of the walk and then one for each recovered
record (`runArguments_framed`). What the diagnostics say about the log itself is said here without
the program as well (`Notice`).
-/

namespace EventLog.Dump

/-- The records of a log in the order in which they are written, each with where it comes from. -/
def turns (session : Session) : List (Origin × Record) :=
  session.records.map (Prod.mk .walked) ++ session.recovered.map (Prod.mk .recovered)

/-- What the diagnostics say about the log itself. -/
inductive Notice : Outcome → String → Prop where
  /-- The walk met bytes that it could not go on from. -/
  | corrupted (offset : Nat) (error : DecodeError) :
    Notice (.corrupted offset error) ("Log is corrupted at offset " ++ toString offset ++
      ", only part of the records could be read: " ++ error.message ++ "\n")
  /-- The walk met the end of file record. -/
  | complete : Notice .complete ""
  /-- The walk was cancelled. -/
  | cancelled : Notice .cancelled ""

/-- What the style writes for an opened log is the notice about the log and then the frames of its
records. -/
theorem dump_eq (style : Style) (session : Session) :
    style.dump session =
      ⟨((turns session).map fun turn => style.frame turn.1 turn.2).flatMap Written.output,
        corruption session.outcome ++ String.join
          (((turns session).map fun turn => style.frame turn.1 turn.2).map
            Written.diagnostics)⟩ := by
  have frames : session.records.map (style.frame .walked) ++
      session.recovered.map (style.frame .recovered) =
        (turns session).map fun turn => style.frame turn.1 turn.2 := by
    rw [turns, List.map_append, List.map_map, List.map_map]
    rfl
  rw [Style.dump, frames, Written.append, Written.output_all, Written.diagnostics_all]
  rfl

/-- The target is a new file, which can be made, with directories above it where they are
missing. -/
structure NewTarget (files : FileTree) (text : String) : Prop where
  /-- Nothing is found at the path. -/
  absent : files.has (.ofString text) = false
  /-- The file can be made, at a place where nothing stood. -/
  creatable : ∃ location after,
    makeTarget files (.ofString text) = (.ok location, after) ∧ files.get? location = none

/-- A new target is opened by making it, which takes no file away, and what is put there is found at
its path. -/
theorem NewTarget.opens {files : FileTree} {text : String} (new : NewTarget files text)
    (overwrite : Bool) :
    ∃ location after, openTarget files text overwrite = (.ok location, after) ∧
      after.Grows files ∧
      ∀ content, (after.put location (.file content)).find (.ofString text) =
        .ok (.file content) := by
  obtain ⟨location, after, made, free⟩ := new.creatable
  obtain ⟨grows, found⟩ := FileTree.makeTarget_fresh made free
  refine ⟨location, after, ?_, grows, found⟩
  have absent := new.absent
  unfold FileTree.has at absent
  unfold openTarget
  cases nothing : files.find (.ofString text) with
  | ok entry =>
    rw [nothing] at absent
    cases absent
  | error failure =>
    dsimp only
    rw [nothing]
    exact made

/-- What a run over an opened log leaves behind, where `frames` is what is written for each of its
records. -/
structure Framed (arguments : Arguments) (codepage : Option Codepage) (session : Session)
    (files : FileTree) (report : Report) (frames : List Written) : Prop where
  /-- The run succeeds. -/
  code : report.code.number = 0
  /-- Each record has its frame, those of the walk before the recovered ones. -/
  each : List.Forall₂ (Frame arguments.toOptions codepage) (turns session) frames
  /-- Without a target, the frames are written to standard output, in order, and no file is
  touched. -/
  standard : arguments.target = none →
    report.output = frames.flatMap Written.output ∧ report.files = files
  /-- With a target, they are what the new file holds. -/
  target : ∀ text ∈ arguments.target, report.output = [] ∧
    report.files.find (.ofString text) = .ok (.file (frames.flatMap Written.output).toArray)
  /-- The diagnostics are about needless options, about a log that is corrupted, and then about the
  records that have no bytes. -/
  diagnostics : ∃ notice, Notice session.outcome notice ∧
    report.diagnostics =
      (if arguments.flat = true ∧ arguments.format = some .jsonLines then
        "no need to pass both `--no-indent` and `-o jsonl`\n" else "") ++
      (if arguments.hideNumbers = true ∧ arguments.format = some .jsonLines then
        "no need to pass both `--dont-show-record-number` and `-o jsonl`\n" else "") ++
      notice ++ String.join (frames.map Written.diagnostics)
  /-- Lines of JSON are one line for each record that has a JSON text, in order. -/
  lines : arguments.format = some .jsonLines → ∃ lines : List String,
    frames.flatMap Written.output =
      lines.flatMap (fun line => line.toUTF8.data.toList ++ [0x0A]) ∧
    List.Forall₂ LineOf ((session.records ++ session.recovered).filter hasLine) lines

/-- The records that are written are those of the walk and then the recovered ones. -/
theorem records_turns (session : Session) :
    (turns session).map Prod.snd = session.records ++ session.recovered := by
  simp only [turns, List.map_append, List.map_map, Function.comp_def, List.map_id']

/-- The diagnostics about the log itself are the notice of its outcome. -/
theorem notice_corruption (outcome : Outcome) : Notice outcome (corruption outcome) := by
  cases outcome with
  | complete => exact .complete
  | cancelled => exact .cancelled
  | corrupted offset error => exact .corrupted offset error

/-- The diagnostics about options are about what lines of JSON imply anyway. -/
theorem needless_eq (options : Options) : options.needless =
    (if options.flat = true ∧ options.format = some .jsonLines then
      "no need to pass both `--no-indent` and `-o jsonl`\n" else "") ++
    (if options.hideNumbers = true ∧ options.format = some .jsonLines then
      "no need to pass both `--dont-show-record-number` and `-o jsonl`\n" else "") := by
  simp only [Options.needless, Bool.and_eq_true, beq_iff_eq, form_eq_jsonLines_iff]

/-- A run that has made its target and opened its log ends as its records and its target make it
end. -/
theorem run_eq_done {arguments : Arguments} {files after : FileTree} {standardInput : Array UInt8}
    {codepage : Option Codepage} {target : Option Location} {session : Session}
    (quiet : arguments.verbosity = 0) (supported : arguments.charset = .ok codepage)
    (made : arguments.openTarget files = (.ok target, after))
    (opens : openLog (arguments.settings codepage) after arguments.input standardInput =
      .ok session) :
    run arguments files standardInput =
      .done ((arguments.style codepage).dump session) target arguments.needless after := by
  have silent : arguments.tooVerbose = "" := by
    rw [Options.tooVerbose, quiet]
    rfl
  rw [run, supported]
  dsimp only
  rw [made]
  dsimp only
  rw [opens, silent, String.append_empty]

/-- A run over a log that opens, without a target or with a new one, comes to its end: what it
writes goes to standard output and leaves the files alone, or it goes to the target, where it is
found. -/
theorem exists_run_eq_done {arguments : Arguments} {files : FileTree} {standardInput : Array UInt8}
    {codepage : Option Codepage} {session : Session} (quiet : arguments.verbosity = 0)
    (supported : arguments.charset = .ok codepage)
    (new : ∀ text ∈ arguments.target, NewTarget files text)
    (opens : openLog (arguments.settings codepage) files arguments.input standardInput =
      .ok session) :
    ∃ target after,
      run arguments files standardInput =
        .done ((arguments.style codepage).dump session) target arguments.needless after ∧
      (arguments.target = none → target = none ∧ after = files) ∧
      ∀ text ∈ arguments.target, ∃ location, target = some location ∧
        ∀ content, (after.put location (.file content)).find (.ofString text) =
          .ok (.file content) := by
  cases asked : arguments.target with
  | none =>
    have made : arguments.openTarget files = (.ok none, files) := by
      rw [Options.openTarget, asked]
    exact ⟨none, files, run_eq_done quiet supported made opens, fun _ => ⟨rfl, rfl⟩, nofun⟩
  | some text =>
    -- The target is made before the log is opened, so that the log is opened in another tree than
    -- the one of the hypothesis.
    obtain ⟨location, after, opened, grows, found⟩ := (new text asked).opens arguments.overwrite
    have made : arguments.openTarget files = (.ok (some location), after) := by
      rw [Options.openTarget, asked]
      dsimp only
      rw [opened]
    refine ⟨some location, after, run_eq_done quiet supported made (grows.openLog opens), nofun, ?_⟩
    intro other same
    cases same
    exact ⟨location, rfl, found⟩

/-- A run with arguments that can be read and a codepage that is known, over a log that opens, that
writes to standard output or to a new target, succeeds. It writes every record of the walk and then
every recovered record, each in its frame, and says which ones cannot be rendered; and lines of JSON
are one line for each record that can. -/
theorem runArguments_framed {typed : List String} {arguments : Arguments} {files : FileTree}
    {standardInput : Array UInt8} {codepage : Option Codepage} {session : Session}
    (reads : Arguments.read typed = .ok arguments) (quiet : arguments.verbosity = 0)
    (supported : arguments.charset = .ok codepage)
    (new : ∀ text ∈ arguments.target, NewTarget files text)
    (opens : openLog (arguments.settings codepage) files arguments.input standardInput =
      .ok session) :
    ∃ frames, Framed arguments codepage session files
      (runArguments typed files standardInput) frames := by
  obtain ⟨target, after, ended, standard, placed⟩ :=
    exists_run_eq_done quiet supported new opens
  have each := frames_turns arguments.toOptions codepage (turns session)
  rw [runArguments, reads]
  dsimp only
  rw [ended, dump_eq]
  exact ⟨_, {
    code := rfl
    each := each
    standard := by
      intro asked
      obtain ⟨rfl, rfl⟩ := standard asked
      exact ⟨rfl, rfl⟩
    target := by
      intro text asked
      obtain ⟨location, rfl, found⟩ := placed text asked
      exact ⟨rfl, found _⟩
    diagnostics := by
      refine ⟨_, notice_corruption session.outcome, ?_⟩
      rw [← needless_eq, String.append_assoc]
      rfl
    lines := by
      intro form
      have lines := frames_lines form each
      rw [records_turns] at lines
      exact lines }⟩

/-- What a run writes and says is settled by what the log holds, if its walk is complete. -/
theorem Framed.settled {arguments : Arguments} {codepage : Option Codepage} {session : Session}
    {files : FileTree} {report : Report} {frames frames' : List Written}
    {walked taken : List Record} (framed : Framed arguments codepage session files report frames)
    (complete : session.outcome = .complete) (records : session.records = walked)
    (recovered : session.recovered = taken)
    (each : List.Forall₂ (Frame arguments.toOptions codepage)
      (walked.map (Prod.mk .walked) ++ taken.map (Prod.mk .recovered)) frames') :
    frames = frames' ∧
      report.diagnostics = arguments.needless ++ String.join (frames'.map Written.diagnostics) := by
  rw [← records, ← recovered] at each
  have same := frames_unique framed.each each
  subst same
  obtain ⟨notice, noted, diagnostics⟩ := framed.diagnostics
  rw [complete] at noted
  cases noted
  rw [diagnostics, String.append_empty, needless_eq]
  exact ⟨rfl, rfl⟩

/-- The line for a record without contents. -/
def plainLine (number : String) : String :=
  "\x7b\"Event\":\x7b\"System\":\x7b\"Provider\":\x7b\"Name\":\"\"\x7d," ++
  "\"EventID\":\x7b\"Qualifiers\":0,\"Value\":0\x7d,\"Severity\":\"Success\"," ++
  "\"Level\":\"Success\",\"Task\":0,\"TimeCreated\":\x7b\"SystemTime\":" ++
  "\"1970-01-01T00:00:00Z\"\x7d,\"TimeWritten\":\x7b\"SystemTime\":" ++
  "\"1970-01-01T00:00:00Z\"\x7d,\"EventRecordID\":" ++ number ++
  ",\"Computer\":\"\",\"Security\":\x7b\"UserID\":null\x7d\x7d," ++
  "\"EventData\":\x7b\"Data\":[]\x7d\x7d\x7d"

/-- The lines of text for a record without contents. -/
def plainLines (number : String) : String :=
  "Event number\t\t\t: " ++ number ++ "\n" ++
  "Creation time\t\t\t: 1970-01-01T00:00:00Z\n" ++
  "Written time\t\t\t: 1970-01-01T00:00:00Z\n" ++
  "Event identifier\t\t: 0x00000000 (code 0, severity Success)\n" ++
  "Event type\t\t\t: Success (0x0000)\n" ++
  "Event category\t\t\t: 0\n" ++
  "Source name\t\t\t: \n" ++
  "Computer name\t\t\t: \n" ++
  "Number of strings\t\t: 0\n"

/-- A record with half of a surrogate pair for a string, and one without contents. -/
def brokenParts : List (Bytes × Record) :=
  [(Record.halfBytes, Record.halfRecord), (Session.plainBytes 2, Session.plainRecord 2)]

/-- A log with these records, the first of which the end of the file cuts. -/
def brokenLog : Array UInt8 :=
  Ring.filled (Session.plainHeader 210 170) 210
    (brokenParts.flatMap Prod.fst ++ (Session.plainSentinel 210 170).encode)

/-- What the walk of that log finds. -/
def brokenScan : Scan :=
  ⟨[{ Record.halfRecord with offset := 210 }, { Session.plainRecord 2 with offset := 106 }],
    some (170, Session.plainSentinel 210 170), .complete⟩

/-- The length of the log. -/
theorem size_brokenLog : brokenLog.size = 220 := by decide +kernel

/-- If no read can fail, the walk of the log finds that. -/
theorem run_brokenLog (ready : Source) (same : ready.data = brokenLog)
    (harmless : ready.plan.Harmless) (down : ready.aborted = false) :
    (Scan.run ⟨brokenLog.size⟩ (Session.plainHeader 210 170) ready).1 = brokenScan := by
  have decoded : ∀ part ∈ brokenParts, Record.decode part.1 = .ok part.2 := by
    intro part member
    simp only [brokenParts, List.mem_cons, List.not_mem_nil, or_false] at member
    rcases member with rfl | rfl
    · rfl
    · rfl
  rw [size_brokenLog]
  have walked := Session.run_filled size_brokenLog rfl rfl rfl decoded rfl same harmless down
  rw [walked]
  decide +kernel

/-- Unless recovery always runs, the log opens with its two records and recovers nothing. -/
theorem opens_brokenLog (settings : Settings) (mode : settings.recovery = .onCorruption) :
    ∃ session, Session.ofSource settings (.ofBytes brokenLog) = .ok session ∧
      session.outcome = .complete ∧ session.records = brokenScan.records ∧
      session.recovered = [] := by
  have valid : Header.decode (brokenLog.extract 0 Header.size).toList =
      .ok (Session.plainHeader 210 170) := by
    rw [brokenLog, Ring.extract_filled]
    rfl
  have harmless : (Source.ofBytes brokenLog).plan.Harmless := FaultPlan.harmless_none
  have whole : (Source.ofBytes brokenLog).data = brokenLog := rfl
  obtain ⟨session, opens, calm, recovered⟩ :=
    Session.opens_undisturbed whole harmless rfl valid run_brokenLog settings
  rw [mode] at recovered
  exact ⟨session, opens, calm.outcome, calm.answers.records, recovered⟩

/-- Arguments that ask for lines of JSON in a file in a directory that is missing, from standard
input. -/
def linesInNewFile : Arguments where
  format := some .jsonLines
  target := some "new/out.jsonl"
  input := "-"

/-- Arguments that ask for lines of text and for recovered records, from standard input. -/
def textWithRecovery : Arguments where
  recover := true
  input := "-"

/-- As lines of JSON, the first record of the log leaves a complaint and the second its line. -/
theorem frames_brokenLog : List.Forall₂ (Frame linesInNewFile.toOptions none)
    (brokenScan.records.map (Prod.mk .walked) ++ [].map (Prod.mk .recovered))
    [⟨[], "Failed to render record 8 at offset 210: Failed to read a record field for output: " ++
        "Offset 0: failed to decode UTF-16 string (strings array string)\n"⟩,
      ⟨[] ++ (plainLine "2").toUTF8.data.toList ++ [0x0A], ""⟩] := by
  have fails : ({ Record.halfRecord with offset := 210 } : Record).jsonText false =
      .error (.field (.invalidText .string)) := by decide +kernel
  have renders : ({ Session.plainRecord 2 with offset := 106 } : Record).jsonText false =
      .ok (plainLine "2") := by decide +kernel
  have unrendered : Unrendered linesInNewFile.toOptions none
      { Record.halfRecord with offset := 210 } _ := .jsonLines rfl fails
  have line : Rendering linesInNewFile.toOptions none { Session.plainRecord 2 with offset := 106 }
      (plainLine "2").toUTF8.data.toList := .jsonLines rfl renders
  have bare (turn : Origin × Record) : Heading linesInNewFile.toOptions turn [] :=
    .hidden (.inr rfl)
  exact .cons (.refused unrendered.without unrendered unrendered.whole)
    (.cons (.shown (bare _) line) .nil)

/-- As text, the record of the walk is announced as a record and the other as a recovered one. -/
theorem frames_shortLog : List.Forall₂ (Frame textWithRecovery.toOptions none)
    (Session.shortScan.records.map (Prod.mk .walked) ++
      [Session.leftOut].map (Prod.mk .recovered))
    [⟨"Record 2\n".toUTF8.data.toList ++ (plainLines "2").toUTF8.data.toList ++ [0x0A], ""⟩,
      ⟨"Recovered record 1\n".toUTF8.data.toList ++ (plainLines "1").toUTF8.data.toList ++ [0x0A],
        ""⟩] := by
  have walked : ({ Session.plainRecord 2 with offset := 164 } : Record).textBytes none =
      .ok (plainLines "2").toUTF8.data.toList := by decide +kernel
  have recovered : Session.leftOut.textBytes none =
      .ok (plainLines "1").toUTF8.data.toList := by decide +kernel
  have first : Heading textWithRecovery.toOptions
      (.walked, { Session.plainRecord 2 with offset := 164 }) "Record 2\n".toUTF8.data.toList :=
    .walked rfl nofun
  have second : Heading textWithRecovery.toOptions (.recovered, Session.leftOut)
      "Recovered record 1\n".toUTF8.data.toList := .recovered rfl nofun
  exact .cons (.shown first (.text rfl walked)) (.cons (.shown second (.text rfl recovered)) .nil)

/-- In an empty tree, a log whose first record cannot be rendered is written as lines of JSON to a
new file in a new directory: one line, and one complaint. A log with a record that its header leaves
out is written as text to standard output, each record behind its number. -/
theorem cut_log_framed :
    ((runArguments ["-o", "jsonl", "-f", "new/out.jsonl", "-"] ⟨[], []⟩ brokenLog).code.number = 0 ∧
      (runArguments ["-o", "jsonl", "-f", "new/out.jsonl", "-"] ⟨[], []⟩ brokenLog).diagnostics =
        "Failed to render record 8 at offset 210: Failed to read a record field for output: " ++
          "Offset 0: failed to decode UTF-16 string (strings array string)\n" ∧
      (runArguments ["-o", "jsonl", "-f", "new/out.jsonl", "-"] ⟨[], []⟩ brokenLog).files.find
        (.ofString "new/out.jsonl") =
          .ok (.file (plainLine "2" ++ "\n").toUTF8.data.toList.toArray)) ∧
    (runArguments ["--recover", "-"] ⟨[], []⟩ Session.shortLog).code.number = 0 ∧
      (runArguments ["--recover", "-"] ⟨[], []⟩ Session.shortLog).diagnostics = "" ∧
      (runArguments ["--recover", "-"] ⟨[], []⟩ Session.shortLog).output =
        ("Record 2\n" ++ plainLines "2" ++ "\nRecovered record 1\n" ++ plainLines "1" ++
          "\n").toUTF8.data.toList := by
  constructor
  · obtain ⟨session, opens, outcome, records, recovered⟩ :=
      opens_brokenLog (linesInNewFile.settings none) rfl
    have new : ∀ text ∈ linesInNewFile.target, NewTarget ⟨[], []⟩ text := by
      intro text asked
      cases asked
      exact ⟨rfl, ["new", "out.jsonl"], _, rfl, rfl⟩
    obtain ⟨frames, framed⟩ : ∃ frames, Framed linesInNewFile none session ⟨[], []⟩
        (runArguments ["-o", "jsonl", "-f", "new/out.jsonl", "-"] ⟨[], []⟩ brokenLog) frames :=
      runArguments_framed rfl rfl rfl new opens
    obtain ⟨rfl, diagnostics⟩ := framed.settled outcome records recovered frames_brokenLog
    obtain ⟨-, found⟩ := framed.target _ rfl
    rw [diagnostics, found]
    refine ⟨framed.code, ?_, ?_⟩
    · decide +kernel
    · refine congrArg (fun bytes : Bytes => Except.ok (Entry.file bytes.toArray)) ?_
      decide +kernel
  · obtain ⟨session, opens, outcome, holding⟩ := Session.opens_recovering Session.shortLog_valid
      (textWithRecovery.settings none) Session.run_shortLog rfl
    rw [Session.onePass_shortLog] at holding
    have opened : openLog (textWithRecovery.settings none) ⟨[], []⟩ textWithRecovery.input
        Session.shortLog = .ok session := opens
    have new : ∀ text ∈ textWithRecovery.target, NewTarget ⟨[], []⟩ text := nofun
    obtain ⟨frames, framed⟩ : ∃ frames, Framed textWithRecovery none session ⟨[], []⟩
        (runArguments ["--recover", "-"] ⟨[], []⟩ Session.shortLog) frames :=
      runArguments_framed rfl rfl rfl new opened
    have records : session.records = Session.shortScan.records := by
      rw [Session.records, holding]
      rfl
    have taken : session.recovered = [Session.leftOut] := by
      rw [Session.recovered, holding]
      rfl
    obtain ⟨rfl, diagnostics⟩ := framed.settled outcome records taken frames_shortLog
    obtain ⟨written, -⟩ := framed.standard rfl
    rw [diagnostics, written]
    refine ⟨framed.code, ?_, ?_⟩
    · decide +kernel
    · decide +kernel

end EventLog.Dump
