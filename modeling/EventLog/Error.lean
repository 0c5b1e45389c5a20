import EventLog.Bytes
import EventLog.Hex
import EventLog.Part

/-!
# Why decoding, rendering and opening fail

Each error is a cause with its data; `message` gives the wording and `category` the coarse class.
An error that wraps another keeps the class of what it wraps. Memory is taken to suffice: a buffer
that is not granted is left out, as an error and as a class.
-/

namespace EventLog

/-- The closed set of failure classes, but for that of an allocation that fails. -/
inductive Category where
  /-- The caller asked for something that does not exist. -/
  | argument
  /-- An offset or size falls outside its region. -/
  | bounds
  /-- Magic bytes differ from their constant. -/
  | signatureMismatch
  /-- Two sizes that must agree differ. -/
  | sizeMismatch
  /-- Text cannot be transcoded. -/
  | conversion
  /-- The byte source failed. -/
  | io
  deriving DecidableEq, Repr

/-- Why the system refuses an operation on a file. -/
inductive FileFailure where
  /-- Nothing stands at the path. -/
  | notFound
  /-- Something stands at the path already. -/
  | alreadyThere
  /-- The path goes through a file as if it were a directory. -/
  | notDirectory
  /-- The operation is for files, but a directory stands at the path. -/
  | isDirectory
  /-- The path, or a name within it, is longer than it may be. -/
  | nameTooLong
  deriving DecidableEq, Repr

/-- The wording of a refused operation on a file. -/
def FileFailure.message : FileFailure → String
  | notFound => "No such file or directory (os error 2)"
  | alreadyThere => "File exists (os error 17)"
  | notDirectory => "Not a directory (os error 20)"
  | isDirectory => "Is a directory (os error 21)"
  | nameTooLong => "File name too long (os error 36)"

/-- How a byte source can fail. -/
inductive SourceFailure where
  /-- A read was refused. -/
  | readFailed
  /-- Moving to an offset was refused. -/
  | seekFailed
  /-- The bytes ended before the piece was full. -/
  | endedEarly
  /-- The system refused to read. -/
  | refused (failure : FileFailure)
  deriving DecidableEq, Repr

/-- The wording of a failure of the byte source. -/
def SourceFailure.message : SourceFailure → String
  | readFailed => "read failed"
  | seekFailed => "seek failed"
  | endedEarly => "failed to fill whole buffer"
  | refused failure => failure.message

/-- Why bytes could not be decoded, or text could not be put into a codepage. That there is no
memory for a buffer is left out. -/
inductive DecodeError where
  /-- Fewer bytes are there than the part takes. -/
  | truncated (part : Part) (offset need available : Nat)
  /-- A part escapes the region that ends at `limit`. -/
  | outOfBounds (part : Part) (offset size limit : Nat)
  /-- A signature is not the expected one. -/
  | signatureMismatch (part : Part) (expected found : Bytes)
  /-- A size is not the expected one. -/
  | sizeMismatch (part : Part) (expected found : Nat)
  /-- Code units hold an unpaired surrogate. -/
  | invalidText (part : Part)
  /-- A text has a character that the codepage lacks. -/
  | unencodable (text : String) (codepage : UInt32)
  /-- The byte source failed. -/
  | source (failure : SourceFailure)
  deriving DecidableEq, Repr

/-- Two steps succeed if the first does and then the second, on what the first delivers. -/
theorem bind_eq_ok_iff {ε α β : Type} {first : Except ε α} {second : α → Except ε β} {result : β} :
    first >>= second = .ok result ↔ ∃ value, first = .ok value ∧ second value = .ok result := by
  cases first with
  | error e => exact ⟨nofun, nofun⟩
  | ok value =>
    constructor
    · intro done
      exact ⟨value, rfl, done⟩
    · rintro ⟨_, same, done⟩
      cases same
      exact done

/-- Two steps fail if the first does, or if it succeeds and the second fails on what it delivers. -/
theorem bind_eq_error_iff {ε α β : Type} {first : Except ε α} {second : α → Except ε β}
    {error : ε} : first >>= second = .error error ↔
      first = .error error ∨ ∃ value, first = .ok value ∧ second value = .error error := by
  cases first with
  | error e =>
    constructor
    · intro failed
      exact .inl (congrArg Except.error (Except.error.inj failed))
    · rintro (failed | ⟨_, done, -⟩)
      · exact congrArg Except.error (Except.error.inj failed)
      · cases done
  | ok value =>
    constructor
    · intro failed
      exact .inr ⟨value, rfl, failed⟩
    · rintro (failed | ⟨_, same, failed⟩)
      · cases failed
      · cases same
        exact failed

/-- What is made of a success is a success, and nothing else is. -/
theorem map_eq_ok_iff {ε α β : Type} {step : Except ε α} {f : α → β} {result : β} :
    step.map f = .ok result ↔ ∃ value, step = .ok value ∧ f value = result := by
  cases step with
  | error e => exact ⟨nofun, nofun⟩
  | ok value =>
    constructor
    · intro done
      exact ⟨value, rfl, Except.ok.inj done⟩
    · rintro ⟨_, same, done⟩
      cases same
      exact congrArg Except.ok done

/-- What is made of a success fails if there is none, for the same reason. -/
theorem map_eq_error_iff {ε α β : Type} {step : Except ε α} {f : α → β} {error : ε} :
    step.map f = .error error ↔ step = .error error := by
  cases step with
  | error e => exact ⟨fun failed => congrArg _ (Except.error.inj failed),
      fun failed => congrArg _ (Except.error.inj failed)⟩
  | ok value => exact ⟨nofun, nofun⟩

/-- With another error in place of the reason, what fails is what failed, for some reason. -/
theorem mapError_eq_error_iff {ε ε' α : Type} {step : Except ε α} {f : ε → ε'} {error : ε'} :
    step.mapError f = .error error ↔ ∃ cause, step = .error cause ∧ f cause = error := by
  cases step with
  | error cause =>
    constructor
    · intro failed
      exact ⟨cause, rfl, Except.error.inj failed⟩
    · rintro ⟨cause, same, done⟩
      cases same
      exact congrArg Except.error done
  | ok value => exact ⟨nofun, nofun⟩

/-- Bytes as error messages list them: upper-case pairs between brackets. -/
def bracketed (bytes : Bytes) : String :=
  "[" ++ ", ".intercalate (bytes.map fun b => String.ofList (Hex.byte .upper b)) ++ "]"

namespace DecodeError

/-- The class of a decoding error. -/
def category : DecodeError → Category
  | truncated .. | outOfBounds .. => .bounds
  | signatureMismatch .. => .signatureMismatch
  | sizeMismatch .. => .sizeMismatch
  | invalidText .. | unencodable .. => .conversion
  | source _ => .io

/-- The wording of a decoding error. -/
def message : DecodeError → String
  | truncated part offset need available =>
    s!"Offset {offset}: tried to read {need} bytes of {part.label}, but only {available} bytes are available"
  | outOfBounds part offset size limit =>
    s!"Offset {offset}: {part.label} (size {size}) escapes its region, which ends at {limit}"
  | signatureMismatch part expected found =>
    "Invalid " ++ part.label ++ ", expected `" ++ bracketed expected ++ "`, found `" ++
      bracketed found ++ "`"
  | sizeMismatch part expected found =>
    s!"Mismatch in {part.label}, expected {expected}, found {found}"
  | invalidText part => s!"Offset 0: failed to decode UTF-16 string ({part.label})"
  | unencodable text codepage =>
    "Failed to encode `" ++ text ++ "` using codepage " ++ toString codepage.toNat
  | source failure => "An I/O error has occurred: " ++ failure.message

end DecodeError

/-- Why a record could not be rendered. -/
inductive RenderError where
  /-- The target of the output refused it. -/
  | output (reason : String)
  /-- A field of the record could not be decoded. -/
  | field (cause : DecodeError)
  deriving DecidableEq, Repr

namespace RenderError

/-- The class of a rendering error. -/
def category : RenderError → Category
  | output _ => .conversion
  | field cause => cause.category

/-- The wording of a rendering error. -/
def message : RenderError → String
  | output reason => "Writing to XML failed with: " ++ reason
  | field cause => "Failed to read a record field for output: " ++ cause.message

end RenderError

/-- Why a log could not be opened, or an opened log could not answer. -/
inductive LogError where
  /-- The file cannot be opened; the system gave the reason. -/
  | cannotOpen (path : String) (failure : FileFailure)
  /-- The file header cannot be read or is not valid. -/
  | badHeader (cause : DecodeError)
  /-- The codepage is none of the known ones. -/
  | unsupportedCodepage (codepage : UInt32)
  /-- The log has been closed. -/
  | closed
  /-- There is no record with this index. -/
  | noSuchRecord (index count : Nat)
  /-- The byte source failed. -/
  | source (failure : SourceFailure)
  deriving DecidableEq, Repr

namespace LogError

/-- The class of an error of a log. -/
def category : LogError → Category
  | cannotOpen .. | source _ => .io
  | badHeader cause => cause.category
  | unsupportedCodepage _ | closed | noSuchRecord .. => .argument

/-- The wording of an error of a log; a wrapped cause is not part of it. -/
def message : LogError → String
  | cannotOpen path _ => "Failed to open file " ++ path
  | badHeader _ => "Failed to read the file header"
  | unsupportedCodepage codepage => s!"Codepage {codepage.toNat} is not supported"
  | closed => "The parser has been closed"
  | noSuchRecord index count =>
    s!"Record index {index} is out of range, there are {count} records"
  | source _ => "An I/O error has occurred"

/-- The wordings of the causes of an error of a log, outermost first. -/
def causes : LogError → List String
  | cannotOpen _ failure => [failure.message]
  | badHeader cause =>
    cause.message :: match cause with
      | .source failure => [failure.message]
      | _ => []
  | source failure => [failure.message]
  | unsupportedCodepage _ | closed | noSuchRecord .. => []

end LogError

end EventLog
