import EventLog.Proofs.Opening
import EventLog.Proofs.TouchedFiles

/-!
# What a run of the dump leaves of the files when its log does not open

The target is opened before the log is. When the log then cannot be opened or read, or has no valid
header, the target is left empty: a file that stood there before has lost its content, even if it is
the log itself. Every other file is as it was (`failed_run_spares`).
-/

namespace EventLog.Dump

variable {arguments : Arguments} {files opened : FileTree} {standardInput : Array UInt8}
  {codepage : Option Codepage} {target : Option Location} {cause : LogError} {text : String}

/-- A target that has been opened is an empty file. -/
theorem find_of_openTarget {overwrite : Bool} {location : Location}
    (opens : openTarget files text overwrite = (.ok location, opened)) :
    opened.find (.ofString text) = .ok (.file #[]) := by
  have opening := openTarget_opening files text overwrite
  rw [opens] at opening
  cases opening with
  | emptied allowed found leads stands =>
    have plain := (FileTree.find_eq_file_iff.mp found).choose_spec.2.1
    have vacant : files.get? location ≠ some .directory := by
      rw [stands]
      nofun
    exact FileTree.find_put leads vacant plain #[]
  | made absent makes above leads vacant =>
    obtain ⟨before, -, ⟨failure, fails⟩ | ⟨place, again, -, plain, -⟩⟩ :=
      FileTree.makeTarget_cases files (.ofString text)
    · rw [makes] at fails
      cases fails
    · exact FileTree.find_put leads vacant plain #[]

/-- Options that ask for a target have had it opened. -/
theorem openTarget_of_asked (made : arguments.openTarget files = (.ok target, opened))
    (asked : arguments.target = some text) :
    ∃ location, openTarget files text arguments.overwrite = (.ok location, opened) := by
  rw [Options.openTarget, asked] at made
  dsimp only at made
  split at made
  · cases made
  · rename_i location after opens
    cases made
    exact ⟨location, opens⟩

/-- A run that has opened its target and then cannot open its log ends there. -/
theorem run_eq_failed (supported : arguments.charset = .ok codepage)
    (made : arguments.openTarget files = (.ok target, opened))
    (fails : openLog (arguments.settings codepage) opened arguments.input standardInput =
      .error cause) :
    run arguments files standardInput =
      .failed (.input arguments.input cause) (arguments.needless ++ arguments.tooVerbose)
        opened := by
  rw [run, supported]
  dsimp only
  rw [made]
  dsimp only
  rw [fails]

/-- Why there is no log: nothing can be opened at its path, or what is there cannot be read or does
not start with a valid header. -/
inductive Unopenable (input : String) : LogError → Prop where
  /-- The system refuses to open the path. -/
  | refused (failure : FileFailure) : Unopenable input (.cannotOpen input failure)
  /-- The header cannot be read or is not valid. -/
  | header (cause : DecodeError) : Unopenable input (.badHeader cause)

/-- A log that does not open has one of these reasons. -/
theorem unopenable_of_openLog {settings : Settings} {input : String}
    (fails : openLog settings opened input standardInput = .error cause) :
    Unopenable input cause := by
  have source (data : Array UInt8)
      (fails : Session.ofSource settings (.ofBytes data) = .error cause) :
      Unopenable input cause := by
    obtain ⟨refused, reasons, -⟩ :=
      Session.ofSource_eq_error_iff_obstacle settings (.ofBytes data)
    rcases reasons cause ((refused cause).mp fails) with ⟨failure, -, unmoved, -⟩ | ⟨e, rfl, -⟩
    · cases unmoved
    · exact .header e
  unfold openLog at fails
  split at fails
  · exact source standardInput fails
  · unfold Session.openPath at fails
    split at fails
    · cases fails
      exact .refused _
    · cases fails
      exact .header _
    · exact source _ fails

/-- What a run that could not open its log has left. -/
structure Survived (arguments : Arguments) (files : FileTree) (cause : LogError) (report : Report) :
    Prop where
  /-- The run fails. -/
  code : report.code.number = 1
  /-- It says which log it could not open, and why. -/
  diagnostics : report.diagnostics = arguments.needless ++ arguments.tooVerbose ++
    (Failure.input arguments.input cause).report
  /-- The log could not be opened or read, or its header is not valid. -/
  reason : Unopenable arguments.input cause
  /-- Without a target, nothing has changed at all. -/
  untargeted : arguments.target = none → report.files = files
  /-- A file to which the path of the target does not lead is as it was. -/
  elsewhere : ∀ location content, files.get? location = some (.file content) →
    (∀ text ∈ arguments.target, report.files.locate (.ofString text) ≠ .ok location) →
      report.files.get? location = some (.file content)
  /-- The path of the target leads to an empty file. -/
  emptied : ∀ text ∈ arguments.target, report.files.find (.ofString text) = .ok (.file #[])
  /-- A file that was found there before was one that may be overwritten. -/
  allowed : ∀ text ∈ arguments.target, ∀ content,
    files.find (.ofString text) = .ok (.file content) → arguments.overwrite = true

/-- A run that cannot open its log, because it cannot be opened or read or because its header is not
valid, has left every file as it was but for its target, which it has left empty. -/
theorem failed_run_spares {typed : List String} {arguments : Arguments} {files opened : FileTree}
    {standardInput : Array UInt8} {codepage : Option Codepage} {target : Option Location}
    {cause : LogError} (reads : Arguments.read typed = .ok arguments)
    (supported : arguments.charset = .ok codepage)
    (made : arguments.openTarget files = (.ok target, opened))
    (fails : openLog (arguments.settings codepage) opened arguments.input standardInput =
      .error cause) :
    Survived arguments files cause (runArguments typed files standardInput) := by
  have ends := run_eq_failed supported made fails
  have asks : runArguments typed files standardInput = run arguments files standardInput := by
    rw [runArguments, reads]
  have effect := run_effect arguments files standardInput
  rw [asks, ends]
  rw [ends] at effect
  exact {
    code := rfl
    diagnostics := rfl
    reason := unopenable_of_openLog fails
    untargeted := by
      intro untargeted
      rw [Options.openTarget, untargeted] at made
      cases made
      rfl
    elsewhere := by
      intro location content stands elsewhere
      rcases effect.touched location with same | ⟨text, asked, touched⟩
      · rw [same, stands]
      · cases touched with
        | directory free =>
          rw [stands] at free
          cases free
        | file _ _ leads => exact absurd leads (elsewhere text asked)
    emptied := by
      intro text asked
      obtain ⟨location, opens⟩ := openTarget_of_asked made asked
      exact find_of_openTarget opens
    allowed := by
      intro text asked content found
      obtain ⟨location, opens⟩ := openTarget_of_asked made asked
      -- A file that may not be overwritten would have kept the target from being opened.
      cases leave : arguments.overwrite with
      | true => rfl
      | false =>
        obtain ⟨failure, refuses⟩ := openTarget_of_taken (.inr ⟨leave, content, found⟩)
        rw [opens] at refuses
        cases refuses }

/-- A file beside a new target is as it was after a run whose log is missing. The same file is left
empty when it is the target, may be overwritten, and is the log as well. -/
theorem missing_log_spares_file :
    ((runArguments ["-f", "new/out", "missing"] loneFile #[]).code.number = 1 ∧
      (runArguments ["-f", "new/out", "missing"] loneFile #[]).diagnostics =
        (Failure.input "missing" (.cannotOpen "missing" .notFound)).report ∧
      (runArguments ["-f", "new/out", "missing"] loneFile #[]).files.get? ["kept"] =
        some (.file #[0x6F, 0x6C, 0x64])) ∧
    (runArguments ["-f", "kept", "--no-confirm-overwrite", "kept"] loneFile #[]).code.number = 1 ∧
      (runArguments ["-f", "kept", "--no-confirm-overwrite", "kept"] loneFile #[]).files.find
        (.ofString "kept") = .ok (.file #[]) := by
  have missing : Survived _ loneFile _ (runArguments ["-f", "new/out", "missing"] loneFile #[]) :=
    failed_run_spares rfl rfl rfl rfl
  have emptied : Survived _ loneFile _
      (runArguments ["-f", "kept", "--no-confirm-overwrite", "kept"] loneFile #[]) :=
    failed_run_spares rfl rfl rfl rfl
  refine ⟨⟨missing.code, missing.diagnostics, missing.elsewhere _ _ rfl ?_⟩, emptied.code,
    emptied.emptied "kept" rfl⟩
  intro text asked
  cases asked
  have leads : (runArguments ["-f", "new/out", "missing"] loneFile #[]).files.locate
      (.ofString "new/out") = .ok ["new", "out"] := rfl
  rw [leads]
  exact fun same => absurd (Except.ok.inj same) (by decide)

/-- A run that fails because its log is missing has emptied the file at its target before. -/
theorem missing_log_empties_target :
    (runArguments ["-f", "kept", "--no-confirm-overwrite", "missing"] loneFile #[]).code =
        .failure ∧
      (runArguments ["-f", "kept", "--no-confirm-overwrite", "missing"] loneFile #[]).diagnostics =
        (Failure.input "missing" (.cannotOpen "missing" .notFound)).report ∧
      loneFile.get? ["kept"] = some (.file #[0x6F, 0x6C, 0x64]) ∧
      (runArguments ["-f", "kept", "--no-confirm-overwrite", "missing"] loneFile
        #[]).files.get? ["kept"] = some (.file #[]) :=
  ⟨rfl, rfl, rfl, rfl⟩

end EventLog.Dump
