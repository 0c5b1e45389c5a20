/-!
# File paths

A path is a text that slashes divide into parts; it counts from the root if it starts with a slash.
Empty parts say nothing, and the names of a path are the others; whether the path ends in a slash
matters, because only a directory may stand at such a path. `components` also drops the part `.`
wherever it says nothing, and it is by components that a path has a parent. A parent is spelled as
in the path itself, less what says nothing at its end, and so has a length of its own (`size`).
-/

namespace EventLog

/-- A path to a file or directory. -/
structure FilePath where
  /-- The part before the first slash; empty if the path counts from the root. -/
  first : String
  /-- The parts after the slashes, empty ones too. -/
  rest : List String
  deriving DecidableEq, Repr

namespace FilePath

/-- The text before the first slash, and the texts after the slashes. -/
def split : List Char → List Char × List (List Char)
  | [] => ([], [])
  | c :: text =>
    let (first, rest) := split text
    if c = '/' then ([], first :: rest) else (c :: first, rest)

/-- Reads a path. -/
def ofString (text : String) : FilePath :=
  let (first, rest) := split text.toList
  ⟨String.ofList first, rest.map String.ofList⟩

/-- All parts of the path. -/
def parts (path : FilePath) : List String := path.first :: path.rest

/-- The text of the path. -/
def text (path : FilePath) : String := "/".intercalate path.parts

/-- How many bytes the path takes. -/
def size (path : FilePath) : Nat := path.text.utf8ByteSize

/-- The path counts from the root. -/
def absolute (path : FilePath) : Bool := path.first.isEmpty && !path.rest.isEmpty

/-- The names between the slashes. -/
def names (path : FilePath) : List String := path.parts.filter (!·.isEmpty)

/-- The path ends in a slash. -/
def endsInSlash (path : FilePath) : Bool := path.rest.getLast? == some ""

/-- The path leads nowhere, not even to the root. -/
def isEmpty (path : FilePath) : Bool := path.first.isEmpty && path.rest.isEmpty

/-- The part says nothing where it stands after a slash. -/
def isIdle (part : String) : Bool := part.isEmpty || part == "."

/-- The names less every `.` that says nothing: only a `.` in front of a path that does not count
from the root remains. -/
def components (path : FilePath) : List String :=
  (if path.first.isEmpty then [] else [path.first]) ++ path.rest.filter (!isIdle ·)

/-- The parts without those at the end that say nothing. -/
def withoutIdleEnd (parts : List String) : List String := (parts.reverse.dropWhile isIdle).reverse

/-- The path one component shorter; a path without components has none. -/
def parent? (path : FilePath) : Option FilePath :=
  match withoutIdleEnd path.rest with
  | [] => if path.first.isEmpty then none else some ⟨"", []⟩
  | rest =>
    match path.first.isEmpty, withoutIdleEnd rest.dropLast with
    | true, [] => some ⟨"", [""]⟩
    | _, kept => some ⟨path.first, kept⟩

/-- The path and so many of those above it, the longest first. -/
def upwards (path : FilePath) : Nat → List FilePath
  | 0 => []
  | count + 1 =>
    path :: match path.parent? with
      | some parent => upwards parent count
      | none => []

/-- The path and what stands above it, the longest first, down to one component. -/
def chain (path : FilePath) : List FilePath := path.upwards path.components.length

/-- The paths above the path, the longest first, down to one component. -/
def above (path : FilePath) : List FilePath := (path.parent?.map chain).getD []

/-- The path stands for standard input: it is a lone hyphen. -/
def isHyphen (path : FilePath) : Bool := !path.absolute && path.components == ["-"]

end FilePath

end EventLog
