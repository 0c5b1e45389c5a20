import EventLog.Dump.Frame
import EventLog.Session.Ways

/-!
# Runs of the dump

A run checks the codepage, makes its target, opens the log and writes the records. It is a function
of the arguments, the tree of files and the bytes at standard input, and it ends in a report with
all that it changes. There is no terminal, so that a run cannot ask whether it may overwrite a
file.
-/

namespace EventLog.Dump

/-- Why a run ends without writing records. -/
inductive Failure where
  /-- The codepage is none of the known ones. -/
  | codepage (cause : LogError)
  /-- A directory stands where the target should be. -/
  | targetIsDirectory (path : String)
  /-- The target is there already, and there is nobody to ask whether to overwrite it. -/
  | cannotAsk
  /-- The path of the target names nothing. -/
  | targetIsRoot
  /-- The target or a directory above it cannot be made. -/
  | target (cause : FileFailure)
  /-- The log cannot be opened. -/
  | input (path : String) (cause : LogError)
  deriving DecidableEq, Repr

namespace Failure

/-- The wording of a failure. -/
def message : Failure → String
  | codepage cause => cause.message
  | targetIsDirectory path => "There is a directory at " ++ path ++ ", refusing to overwrite"
  | cannotAsk =>
    "Failed to write confirmation prompt to term caused by\nIO error: not a terminal"
  | targetIsRoot => "Output file cannot be root."
  | target cause => cause.message
  | input path _ => "Failed to open file " ++ path

/-- The wordings of the causes of a failure, outermost first. -/
def causes : Failure → List String
  | codepage cause => cause.causes
  | input _ cause => cause.message :: cause.causes
  | _ => []

/-- A cause behind a margin; its further lines stand behind a margin of blanks as wide. -/
def causeText (margin : String) (cause : String) : String :=
  margin ++ String.ofList (cause.toList.flatMap fun c =>
    if c = '\n' then '\n' :: List.replicate margin.length ' ' else [c])

/-- The causes, each on lines of its own; several are numbered from zero. -/
def causesText : List String → String
  | [] => ""
  | [cause] => "\n\nCaused by:\n" ++ causeText "    " cause
  | causes =>
    "\n\nCaused by:\n" ++ "\n".intercalate (causes.mapIdx fun i cause =>
      causeText ("    " ++ Json.digits i ++ ": ") cause)

/-- What a failure leaves among the diagnostics. -/
def report (failure : Failure) : String :=
  "Error: " ++ failure.message ++ causesText failure.causes ++ "\n"

end Failure

/-- How a run ends. -/
inductive ExitCode where
  /-- All went well. -/
  | success
  /-- The run failed. -/
  | failure
  /-- The arguments are misused. -/
  | misuse
  deriving DecidableEq, Repr

/-- The number of an exit code. -/
def ExitCode.number : ExitCode → Nat
  | success => 0
  | failure => 1
  | misuse => 2

/-- What a run leaves behind. -/
structure Report where
  /-- How the run ends. -/
  code : ExitCode
  /-- What it writes to standard output. -/
  output : Bytes
  /-- What it writes to standard error. -/
  diagnostics : String
  /-- The files after the run. -/
  files : FileTree

/-- The diagnostics about options that say what the form of the output says already. -/
def Options.needless (options : Options) : String :=
  (if options.flat && options.form == .jsonLines then
    "no need to pass both `--no-indent` and `-o jsonl`\n" else "") ++
  (if options.hideNumbers && options.form == .jsonLines then
    "no need to pass both `--dont-show-record-number` and `-o jsonl`\n" else "")

/-- How often it makes a difference to ask for more diagnostics. -/
def mostVerbose : Nat := 3

/-- The diagnostics about asking for more diagnostics too often. -/
def Options.tooVerbose (options : Options) : String :=
  if mostVerbose < options.verbosity then
    "using more than  -vvv does not affect verbosity level\n"
  else ""

/-- The codepage that options ask for, if any. -/
def Options.charset (options : Options) : Except Failure (Option Codepage) :=
  match options.codepage with
  | none => .ok none
  | some number => ((Codepage.ofNumber number).mapError .codepage).map some

/-- The settings with which the log is opened. -/
def Options.settings (options : Options) (codepage : Option Codepage) : Settings where
  codepage := codepage.getD .western
  recovery := if options.recover then .always else .onCorruption
  indent := (options.style codepage).indent

/-- Makes an empty file at a path, and the directories above it that are missing. -/
def makeTarget (files : FileTree) (path : FilePath) : Except Failure Location × FileTree :=
  match path.parent? with
  | none => (.error .targetIsRoot, files)
  | some parent =>
    match (if parent.isEmpty || files.has parent then (.ok (), files)
      else files.makeChain parent.chain : Except FileFailure Unit × FileTree) with
    | (.error e, files) => (.error (.target e), files)
    | (.ok (), files) =>
      match files.makeFile path with
      | (.error e, files) => (.error (.target e), files)
      | (.ok location, files) => (.ok location, files)

/-- Makes the target empty, unless it is there already and may not be overwritten. -/
def openTarget (files : FileTree) (text : String) (overwrite : Bool) :
    Except Failure Location × FileTree :=
  let path := FilePath.ofString text
  match files.find path with
  | .ok .directory => (.error (.targetIsDirectory text), files)
  | .ok (.file _) =>
    if overwrite then
      match files.makeFile path with
      | (.error e, files) => (.error (.target e), files)
      | (.ok location, files) => (.ok location, files)
    else (.error .cannotAsk, files)
  | .error _ => makeTarget files path

/-- The target that options ask for; without one, records go to standard output. -/
def Options.openTarget (options : Options) (files : FileTree) :
    Except Failure (Option Location) × FileTree :=
  match options.target with
  | none => (.ok none, files)
  | some text =>
    match Dump.openTarget files text options.overwrite with
    | (.error e, files) => (.error e, files)
    | (.ok location, files) => (.ok (some location), files)

/-- Opens the log at a path, or the one at standard input. -/
def openLog (settings : Settings) (files : FileTree) (input : String)
    (standardInput : Array UInt8) : Except LogError Session :=
  if (FilePath.ofString input).isHyphen then Session.ofSource settings (.ofBytes standardInput)
  else Session.openPath settings files input .none

/-- The end of a run that fails. -/
def Report.failed (failure : Failure) (diagnostics : String) (files : FileTree) : Report where
  code := .failure
  output := []
  diagnostics := diagnostics ++ failure.report
  files := files

/-- The end of a run that wrote records to its target. -/
def Report.done (written : Written) (target : Option Location) (diagnostics : String)
    (files : FileTree) : Report where
  code := .success
  output := if target.isSome then [] else written.output
  diagnostics := diagnostics ++ written.diagnostics
  files :=
    match target with
    | none => files
    | some location => files.put location (.file written.output.toArray)

/-- Runs the dump. -/
def run (arguments : Arguments) (files : FileTree) (standardInput : Array UInt8) : Report :=
  match arguments.charset with
  | .error failure => .failed failure arguments.needless files
  | .ok codepage =>
    let diagnostics := arguments.needless ++ arguments.tooVerbose
    match arguments.openTarget files with
    | (.error failure, files) => .failed failure diagnostics files
    | (.ok target, files) =>
      match openLog (arguments.settings codepage) files arguments.input standardInput with
      | .error cause => .failed (.input arguments.input cause) diagnostics files
      | .ok session => .done ((arguments.style codepage).dump session) target diagnostics files

/-- How the dump is called. -/
def usage : String :=
  "Usage: eventlog [OPTIONS] <INPUT>\n\n" ++
  "  <INPUT>                      path of a log, or - for standard input\n" ++
  "  -o, --format <FORM>          text, json, jsonl or xml\n" ++
  "  -f, --output <FILE>          writes to a file\n" ++
  "      --no-confirm-overwrite   overwrites an existing file\n" ++
  "      --no-indent              does not indent\n" ++
  "      --dont-show-record-number\n" ++
  "                               does not announce records by their number\n" ++
  "      --codepage <NUMBER>      writes text in a codepage\n" ++
  "      --recover                recovers records from healthy logs, too\n" ++
  "  -v                           more diagnostics\n" ++
  "  -h, --help                   prints this text\n" ++
  "  -V, --version                prints the version\n"

/-- The end of a run that the arguments do not ask for. -/
def Refusal.report (files : FileTree) : Refusal → Report
  | .help => ⟨.success, Record.utf8 usage, "", files⟩
  | .version => ⟨.success, Record.utf8 "eventlog 0.1.0\n", "", files⟩
  | .misuse cause => ⟨.misuse, [], "error: " ++ cause.message ++ "\n\n" ++ usage, files⟩

/-- Runs the dump on arguments as they are typed. -/
def runArguments (arguments : List String) (files : FileTree) (standardInput : Array UInt8) :
    Report :=
  match Arguments.read arguments with
  | .error refusal => refusal.report files
  | .ok arguments => run arguments files standardInput

end EventLog.Dump
