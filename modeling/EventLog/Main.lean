import EventLog.Dump.Run

/-!
# The command

Looks up in the file system what a run may ask of it, runs the dump, and carries out what the run
reports: output, diagnostics, new directories, the target file and the exit code.
-/

namespace EventLog.Main

open Dump

/-- All bytes that a stream still delivers. -/
partial def readAll (stream : IO.FS.Stream) (read : ByteArray) : IO ByteArray := do
  let piece ← stream.read 65536
  if piece.isEmpty then return read
  readAll stream (read ++ piece)

/-- The path of a location, counted from the root. -/
def pathText (location : Location) : String := "/" ++ "/".intercalate location

/-- Looks up what stands at a location. -/
def lookUp (tree : FileTree) (location : Location) : IO FileTree := do
  let path := (← IO.currentDir) / pathText location
  if ← path.isDir then return tree.put location .directory
  if ← path.pathExists then
    return tree.put location (.file (← IO.FS.readBinFile path).data)
  return tree

/-- Looks up what stands at the locations that a path passes. -/
def lookUpPath (tree : FileTree) (text : String) : IO FileTree := do
  let path := FilePath.ofString text
  let mut tree := tree
  let mut location := if path.absolute then [] else tree.here
  for name in path.names do
    if name = ".." then location := location.dropLast
    else if name ≠ "." then
      location := location ++ [name]
      tree ← lookUp tree location
  return tree

/-- Looks up what a run with these arguments may ask about. -/
def lookUpArguments (arguments : Arguments) : IO FileTree := do
  let here := (FilePath.ofString (← IO.currentDir).toString).names
  let mut tree : FileTree := ⟨[], here⟩
  for depth in List.range here.length do
    tree := tree.put (here.take (depth + 1)) .directory
  tree ← lookUpPath tree arguments.input
  match arguments.target with
  | some target => lookUpPath tree target
  | none => return tree

/-- Carries out one change of the files. -/
def carryOut (change : Location × Entry) : IO Unit := do
  let path := (← IO.currentDir) / pathText change.1
  match change.2 with
  | .directory => IO.FS.createDirAll path
  | .file content => IO.FS.writeBinFile path ⟨content⟩

/-- What a run may ask about: the files, and the bytes at standard input if the log is there. -/
def surroundings (typed : List String) : IO (FileTree × Array UInt8) := do
  match Arguments.read typed with
  | .error _ => return (⟨[], []⟩, #[])
  | .ok arguments =>
    let files ← lookUpArguments arguments
    if (FilePath.ofString arguments.input).isHyphen then
      return (files, (← readAll (← IO.getStdin) .empty).data)
    return (files, #[])

end EventLog.Main

/-- Dumps a log. -/
def main (typed : List String) : IO UInt32 := do
  let (files, standardInput) ← EventLog.Main.surroundings typed
  let report := EventLog.Dump.runArguments typed files standardInput
  let changes := report.files.newSince files
  for change in changes.filter (·.2 == .directory) do
    EventLog.Main.carryOut change
  for change in changes.filter (·.2 != .directory) do
    EventLog.Main.carryOut change
  let output ← IO.getStdout
  output.write ⟨report.output.toArray⟩
  output.flush
  (← IO.getStderr).putStr report.diagnostics
  return UInt32.ofNat report.code.number
