import EventLog.Error
import EventLog.FilePath

/-!
# Trees of files and directories

A tree says what stands at each location and which location paths count from. A path is followed
name by name through directories (`locate`). Making directories and files changes the tree, and may
change it even where it fails in the end, as when only the first of several directories can be
made. What an operation changes is stated through `get?`, by `get?_put_self` and
`get?_put_of_ne`.
-/

namespace EventLog

/-- A place in a tree: the names from the root down. -/
abbrev Location := List String

/-- What stands at a location. -/
inductive Entry where
  /-- A directory. -/
  | directory
  /-- A file and its bytes. -/
  | file (content : Array UInt8)
  deriving DecidableEq, Repr

/-- A tree of files and directories. -/
structure FileTree where
  /-- What stands where, below the root. -/
  entries : List (Location × Entry)
  /-- Where paths count from that do not count from the root. -/
  here : Location

namespace FileTree

/-- What stands at a location; the root is always a directory. -/
def get? (tree : FileTree) (location : Location) : Option Entry :=
  if location = [] then some .directory else tree.entries.lookup location

/-- Puts an entry at a location, in place of any other. -/
def put (tree : FileTree) (location : Location) (entry : Entry) : FileTree :=
  { tree with entries := (location, entry) :: tree.entries.filter (·.1 ≠ location) }

/-- What was put at a location stands there. -/
theorem get?_put_self (tree : FileTree) {location : Location} (entry : Entry)
    (h : location ≠ []) : (tree.put location entry).get? location = some entry := by
  simp [get?, put, h]

/-- Putting an entry at a location changes no other location. -/
theorem get?_put_of_ne (tree : FileTree) {location other : Location} (entry : Entry)
    (h : other ≠ location) : (tree.put location entry).get? other = tree.get? other := by
  have kept (entries : List (Location × Entry)) :
      (entries.filter (·.1 ≠ location)).lookup other = entries.lookup other := by
    induction entries with
    | nil => rfl
    | cons first rest ih =>
      obtain ⟨place, entry⟩ := first
      by_cases at_place : place = location
      · have : (other == location) = false := by simp [h]
        rw [List.filter_cons_of_neg (by simp [at_place]), ih, List.lookup_cons, at_place, this]
      · simp only [List.lookup_cons, ne_eq, at_place, not_false_eq_true, decide_true,
          List.filter_cons_of_pos] at ih ⊢
        rw [ih]
  have differs : (other == location) = false := by simp [h]
  simp only [get?, put, List.lookup_cons, differs, kept]

/-- How many bytes the name of a file may take. -/
def longestName : Nat := 255

/-- How many bytes a path may take. -/
def longestPath : Nat := 4095

/-- Follows one name from a location, at which a directory must stand. -/
def follow (tree : FileTree) (location : Location) (name : String) :
    Except FileFailure Location :=
  match tree.get? location with
  | none => .error .notFound
  | some (.file _) => .error .notDirectory
  | some .directory =>
    if name = "." then .ok location
    else if name = ".." then .ok location.dropLast
    else if longestName < name.utf8ByteSize then .error .nameTooLong
    else .ok (location ++ [name])

/-- The location that a path leads to; something must stand at all but the last. A path that is too
long leads nowhere, whatever its names are. -/
def locate (tree : FileTree) (path : FilePath) : Except FileFailure Location :=
  if path.isEmpty then .error .notFound
  else if longestPath < path.size then .error .nameTooLong
  else path.names.foldlM tree.follow (if path.absolute then [] else tree.here)

/-- What stands at a path. -/
def find (tree : FileTree) (path : FilePath) : Except FileFailure Entry := do
  match tree.get? (← tree.locate path) with
  | none => throw .notFound
  | some .directory => return .directory
  | some (.file content) => if path.endsInSlash then throw .notDirectory else return .file content

/-- Something stands at a path. -/
def has (tree : FileTree) (path : FilePath) : Bool := (tree.find path).isOk

/-- A directory stands at a path. -/
def hasDirectory (tree : FileTree) (path : FilePath) : Bool :=
  match tree.find path with
  | .ok .directory => true
  | _ => false

/-- Makes a directory where nothing stands yet. -/
def makeDirectory (tree : FileTree) (path : FilePath) : Except FileFailure Unit × FileTree :=
  match tree.locate path with
  | .error e => (.error e, tree)
  | .ok location =>
    match tree.get? location with
    | some _ => (.error .alreadyThere, tree)
    | none => (.ok (), tree.put location .directory)

/-- What became of making a directory, where one that stands there already will do. -/
def orPresent (path : FilePath) : Except FileFailure Unit × FileTree →
    Except FileFailure Unit × FileTree
  | (.ok (), tree) => (.ok (), tree)
  | (.error e, tree) => (if tree.hasDirectory path then .ok () else .error e, tree)

/-- Makes the directory at the first path of a chain, and first those above it that are missing. -/
def makeChain (tree : FileTree) : List FilePath → Except FileFailure Unit × FileTree
  | [] => (.ok (), tree)
  | path :: above =>
    match tree.makeDirectory path with
    | (.error .notFound, tree) =>
      match makeChain tree above with
      | (.ok (), tree) => orPresent path (tree.makeDirectory path)
      | refused => refused
    | made => orPresent path made

/-- Makes an empty file, in place of any file that stands there. -/
def makeFile (tree : FileTree) (path : FilePath) : Except FileFailure Location × FileTree :=
  match tree.locate path with
  | .error e => (.error e, tree)
  | .ok location =>
    if path.endsInSlash then (.error .isDirectory, tree)
    else
      match tree.get? location with
      | some .directory => (.error .isDirectory, tree)
      | _ => (.ok location, tree.put location (.file #[]))

/-- The entries of a tree that another tree does not have in the same place. -/
def newSince (tree before : FileTree) : List (Location × Entry) :=
  tree.entries.filter fun (location, entry) => before.get? location ≠ some entry

end FileTree

end EventLog
