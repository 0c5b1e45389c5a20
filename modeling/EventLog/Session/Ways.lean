import EventLog.FileTree
import EventLog.Session

/-!
# Ways to open a log

A log is opened at a path, from bytes that are held already, or from any source. A file is read
through a buffer, so that its bytes arrive in portions as well; how they do is a plan. What does not
take settings opens a log under the plain ones.
-/

namespace EventLog.Session

/-- Opens the log at a path, whose file delivers its bytes by a plan. -/
def openPath (settings : Settings) (files : FileTree) (path : String) (plan : FaultPlan) :
    Except LogError Session :=
  match files.find (FilePath.ofString path) with
  | .error failure => .error (.cannotOpen path failure)
  | .ok .directory => .error (.badHeader (.source (.refused .isDirectory)))
  | .ok (.file content) => ofSource settings { data := content, plan }

/-- Opens the log at a path under the plain settings. -/
def ofPath (files : FileTree) (path : String) (plan : FaultPlan) : Except LogError Session :=
  openPath {} files path plan

/-- Opens the log that some bytes are under the plain settings. -/
def ofBuffer (buffer : Array UInt8) : Except LogError Session := ofSource {} (.ofBytes buffer)

/-- Opens the log of a source under the plain settings. -/
def ofReader (source : Source) : Except LogError Session := ofSource {} source

/-- At a path at which a file stands, the log is the one that its bytes are. -/
theorem openPath_of_file {files : FileTree} {path : String} {content : Array UInt8}
    (found : files.find (FilePath.ofString path) = .ok (.file content)) (settings : Settings)
    (plan : FaultPlan) :
    openPath settings files path plan = ofSource settings { data := content, plan } := by
  rw [openPath, found]

end EventLog.Session
