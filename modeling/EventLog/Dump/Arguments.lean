import EventLog.Codepage

/-!
# Arguments of the dump

The arguments name one log and options in any order. An option has a long name after two hyphens or
a letter after one. A switch stands alone, and letters of switches can share a hyphen; an option
with a value takes what is attached to it, or else the next argument. No option but the one for
more diagnostics may be given twice, and after two hyphens alone all arguments are names of logs.
Arguments are read from the left, and the first that asks for help, or that is misused, decides.
-/

namespace EventLog.Dump

/-- The form in which records are written. -/
inductive Format where
  /-- Lines of text. -/
  | text
  /-- JSON values. -/
  | json
  /-- JSON values, one on each line and nothing else. -/
  | jsonLines
  /-- XML elements. -/
  | xml
  deriving DecidableEq, Repr

/-- The form with a name. -/
def Format.ofName? : String → Option Format
  | "text" => some .text
  | "json" => some .json
  | "jsonl" => some .jsonLines
  | "xml" => some .xml
  | _ => none

/-- What a run is asked to do, as far as options say. -/
structure Options where
  /-- The form in which records are written. -/
  format : Option Format := none
  /-- The path of the file to write to. -/
  target : Option String := none
  /-- The number of the codepage for text. -/
  codepage : Option UInt32 := none
  /-- An existing file may be overwritten. -/
  overwrite : Bool := false
  /-- Output is not indented. -/
  flat : Bool := false
  /-- Records are not announced by their number. -/
  hideNumbers : Bool := false
  /-- Records are recovered from healthy logs, too. -/
  recover : Bool := false
  /-- How often more diagnostics were asked for. -/
  verbosity : Nat := 0
  deriving DecidableEq, Repr

/-- What a run is asked to do. -/
structure Arguments extends Options where
  /-- The path of the log, or a hyphen for standard input. -/
  input : String
  deriving DecidableEq, Repr

/-- How arguments can be misused. -/
inductive Misuse where
  /-- There is no option like this. -/
  | unknownOption (argument : String)
  /-- A switch has a value attached. -/
  | uselessValue (argument : String)
  /-- An option stands without its value. -/
  | missingValue
  /-- A value is none that its option takes. -/
  | invalidValue (value : String)
  /-- An option is given again. -/
  | repeated
  /-- There is more than one log. -/
  | surplus (argument : String)
  /-- There is no log. -/
  | missingInput
  deriving DecidableEq, Repr

/-- The wording of a misuse. -/
def Misuse.message : Misuse → String
  | unknownOption argument => "unexpected argument " ++ argument
  | uselessValue argument => "unexpected value in " ++ argument
  | missingValue => "a value is required after an option"
  | invalidValue value => "invalid value " ++ value
  | repeated => "an option cannot be used multiple times"
  | surplus argument => "unexpected argument " ++ argument
  | missingInput => "the path of a log is required"

/-- Why arguments ask for no run. -/
inductive Refusal where
  /-- They ask for help. -/
  | help
  /-- They ask for the version. -/
  | version
  /-- They are misused. -/
  | misuse (cause : Misuse)
  deriving DecidableEq, Repr

/-- The options that stand alone. -/
inductive Switch where
  | overwrite | flat | hideNumbers | recover | verbose | help | version
  deriving DecidableEq, Repr

/-- The options that take a value. -/
inductive Setting where
  | format | target | codepage
  deriving DecidableEq, Repr

/-- The option with a long name. -/
def longOption? : String → Option (Switch ⊕ Setting)
  | "format" => some (.inr .format)
  | "output" => some (.inr .target)
  | "codepage" => some (.inr .codepage)
  | "no-confirm-overwrite" => some (.inl .overwrite)
  | "no-indent" => some (.inl .flat)
  | "dont-show-record-number" => some (.inl .hideNumbers)
  | "recover" => some (.inl .recover)
  | "help" => some (.inl .help)
  | "version" => some (.inl .version)
  | _ => none

/-- The option with a letter. -/
def shortOption? : Char → Option (Switch ⊕ Setting)
  | 'o' => some (.inr .format)
  | 'f' => some (.inr .target)
  | 'v' => some (.inl .verbose)
  | 'h' => some (.inl .help)
  | 'V' => some (.inl .version)
  | _ => none

/-- The number that decimal digits write; nothing else will do, and neither will no digits. -/
def readDigits? (digits : List Char) : Option Nat :=
  if digits.isEmpty || !digits.all Char.isDigit then none
  else some (digits.foldl (fun n c => 10 * n + (c.toNat - 48)) 0)

/-- The 32-bit number that a text writes in decimal, with or without a sign. -/
def readNumber? (text : String) : Option UInt32 :=
  let (negative, digits) :=
    match text.toList with
    | '-' :: digits => (true, digits)
    | '+' :: digits => (false, digits)
    | digits => (false, digits)
  match readDigits? digits with
  | none => none
  | some n => if UInt32.size ≤ n || (negative && n != 0) then none else some (UInt32.ofNat n)

namespace Options

/-- Sets a mark that may be set only once. -/
def once (marked : Bool) (options : Options) : Except Refusal Options :=
  if marked then .error (.misuse .repeated) else .ok options

/-- The options after a switch. -/
def turnOn (options : Options) : Switch → Except Refusal Options
  | .overwrite => once options.overwrite { options with overwrite := true }
  | .flat => once options.flat { options with flat := true }
  | .hideNumbers => once options.hideNumbers { options with hideNumbers := true }
  | .recover => once options.recover { options with recover := true }
  | .verbose => .ok { options with verbosity := options.verbosity + 1 }
  | .help => .error .help
  | .version => .error .version

/-- A value that its option takes, or the misuse. -/
def accept {α : Type} (text : String) : Option α → Except Refusal α
  | some value => .ok value
  | none => .error (.misuse (.invalidValue text))

/-- The options after a setting with its value. -/
def give (options : Options) (text : String) : Setting → Except Refusal Options
  | .format => do
    let format ← accept text (Format.ofName? text)
    once options.format.isSome { options with format := some format }
  | .target => once options.target.isSome { options with target := some text }
  | .codepage => do
    let number ← accept text (readNumber? text)
    once options.codepage.isSome { options with codepage := some number }

/-- The options after the letters behind one hyphen; the last letter may leave a setting that still
waits for its value. -/
def readLetters (options : Options) (argument : String) :
    List Char → Except Refusal (Options × Option Setting)
  | [] => .ok (options, none)
  | letter :: rest =>
    match shortOption? letter with
    | none => .error (.misuse (.unknownOption argument))
    | some (.inl switch) => do readLetters (← options.turnOn switch) argument rest
    | some (.inr setting) =>
      match rest with
      | [] => .ok (options, some setting)
      | '=' :: value => do return (← options.give (String.ofList value) setting, none)
      | value => do return (← options.give (String.ofList value) setting, none)

/-- The options after what stands behind two hyphens, which may leave a setting that still waits
for its value. -/
def readLong (options : Options) (argument : String) (name : List Char) :
    Except Refusal (Options × Option Setting) :=
  match longOption? (String.ofList (name.takeWhile (· ≠ '='))), name.dropWhile (· ≠ '=') with
  | none, _ => .error (.misuse (.unknownOption argument))
  | some (.inl switch), [] => do return (← options.turnOn switch, none)
  | some (.inl _), _ :: _ => .error (.misuse (.uselessValue argument))
  | some (.inr setting), [] => .ok (options, some setting)
  | some (.inr setting), _ :: value =>
    do return (← options.give (String.ofList value) setting, none)

end Options

/-- Arguments that have been read in part: options, and the log if it has been named. -/
abbrev Draft := Options × Option String

namespace Draft

/-- The draft after an argument that names a log. -/
def nameLog (draft : Draft) (argument : String) : Except Refusal Draft :=
  match draft.2 with
  | none => .ok (draft.1, some argument)
  | some _ => .error (.misuse (.surplus argument))

/-- An argument is an option, or looks like one; a lone hyphen does not. -/
def isOption (argument : String) : Bool :=
  match argument.toList with
  | '-' :: _ :: _ => true
  | _ => false

/-- Reads one argument, which may leave a setting that still waits for its value. -/
def read (draft : Draft) (argument : String) : Except Refusal (Draft × Option Setting) :=
  match argument.toList with
  | '-' :: '-' :: name => do
    let (options, waiting) ← draft.1.readLong argument name
    return ((options, draft.2), waiting)
  | '-' :: letter :: letters => do
    let (options, waiting) ← draft.1.readLetters argument (letter :: letters)
    return ((options, draft.2), waiting)
  | _ => do return (← draft.nameLog argument, none)

/-- Reads arguments from the left; `waiting` is the setting that the first is the value of. -/
def readAll (draft : Draft) (waiting : Option Setting) : List String → Except Refusal Draft
  | [] =>
    match waiting with
    | none => .ok draft
    | some _ => .error (.misuse .missingValue)
  | argument :: rest =>
    match waiting with
    | some setting =>
      if isOption argument then .error (.misuse .missingValue)
      else do readAll (← draft.1.give argument setting, draft.2) none rest
    | none =>
      if argument = "--" then rest.foldlM nameLog draft
      else do
        let (draft, waiting) ← draft.read argument
        readAll draft waiting rest

end Draft

/-- Reads all arguments of a run. -/
def Arguments.read (arguments : List String) : Except Refusal Arguments := do
  match ← Draft.readAll ({}, none) none arguments with
  | (options, some input) => return { options with input }
  | (_, none) => throw (.misuse .missingInput)

end EventLog.Dump
