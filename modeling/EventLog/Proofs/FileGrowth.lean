import EventLog.Dump.Run

/-!
# Making a target leaves files alone

A target that is made where nothing stood, with the directories that were missing above it, adds to
the tree and takes nothing away (`makeTarget_grows`): every path that led to something still leads
to it (`Grows.find`), so that a log that could be opened still can be (`Grows.openLog`). The path of
the target leads to what is put there afterwards (`find_target`).
-/

namespace EventLog.FileTree

variable {before after : FileTree} {path : FilePath} {location : Location}

/-- A tree in which everything still stands where it stood, and in which paths count from the same
place. -/
structure Grows (after before : FileTree) : Prop where
  /-- Paths count from the same place. -/
  here : after.here = before.here
  /-- What stood at a location still does. -/
  kept : ∀ {location : Location} {entry : Entry},
    before.get? location = some entry → after.get? location = some entry

/-- A tree has grown by nothing. -/
theorem Grows.refl (tree : FileTree) : tree.Grows tree := ⟨rfl, id⟩

/-- Trees that grow twice have grown. -/
theorem Grows.trans {first second third : FileTree} (later : third.Grows second)
    (sooner : second.Grows first) : third.Grows first :=
  ⟨later.here.trans sooner.here, fun stands => later.kept (sooner.kept stands)⟩

/-- What is put where nothing stood makes the tree grow. -/
theorem grows_put {tree : FileTree} (free : tree.get? location = none) (entry : Entry) :
    (tree.put location entry).Grows tree where
  here := rfl
  kept := by
    intro other old stands
    have elsewhere : other ≠ location := by
      intro same
      rw [same, free] at stands
      cases stands
    rw [get?_put_of_ne tree entry elsewhere]
    exact stands

/-- A tree in which every directory still is one, and in which paths count from the same place. -/
structure KeepsDirectories (after before : FileTree) : Prop where
  /-- Paths count from the same place. -/
  here : after.here = before.here
  /-- What was a directory still is one. -/
  directories : ∀ {location : Location},
    before.get? location = some .directory → after.get? location = some .directory

/-- A name that could be followed still leads to the same place, because only directories are
followed. -/
theorem KeepsDirectories.follow (keeps : after.KeepsDirectories before) {name : String}
    {next : Location} (follows : before.follow location name = .ok next) :
    after.follow location name = .ok next := by
  unfold FileTree.follow at follows ⊢
  cases stands : before.get? location with
  | none =>
    rw [stands] at follows
    cases follows
  | some entry =>
    rw [stands] at follows
    cases entry with
    | file content => cases follows
    | directory =>
      rw [keeps.directories stands]
      exact follows

/-- A path that led to a location still leads there. -/
theorem KeepsDirectories.locate (keeps : after.KeepsDirectories before)
    (locates : before.locate path = .ok location) : after.locate path = .ok location := by
  have walks (names : List String) (start : Location)
      (leads : names.foldlM before.follow start = .ok location) :
      names.foldlM after.follow start = .ok location := by
    induction names generalizing start with
    | nil => exact leads
    | cons name names ih =>
      rw [List.foldlM_cons, bind_eq_ok_iff] at leads ⊢
      obtain ⟨next, follows, leads⟩ := leads
      exact ⟨next, keeps.follow follows, ih next leads⟩
  unfold FileTree.locate at locates ⊢
  rw [keeps.here]
  split at locates
  · cases locates
  split at locates
  · cases locates
  rename_i some short
  rw [if_neg some, if_neg short]
  exact walks _ _ locates

/-- A file that is put where no directory stands keeps all directories. -/
theorem keepsDirectories_put {tree : FileTree} (vacant : tree.get? location ≠ some .directory)
    (entry : Entry) : (tree.put location entry).KeepsDirectories tree where
  here := rfl
  directories := by
    intro other stands
    rw [get?_put_of_ne tree entry]
    · exact stands
    · rintro rfl
      exact vacant stands

/-- A tree that has grown keeps its directories. -/
theorem Grows.keepsDirectories (grows : after.Grows before) : after.KeepsDirectories before :=
  ⟨grows.here, grows.kept⟩

/-- A path that led to a location in a tree leads there when the tree has grown. -/
theorem Grows.locate (grows : after.Grows before) (locates : before.locate path = .ok location) :
    after.locate path = .ok location := grows.keepsDirectories.locate locates

/-- What was found at a path is still found there. -/
theorem Grows.find (grows : after.Grows before) {entry : Entry}
    (found : before.find path = .ok entry) : after.find path = .ok entry := by
  unfold FileTree.find at found ⊢
  rw [bind_eq_ok_iff] at found ⊢
  obtain ⟨location, locates, stands⟩ := found
  refine ⟨location, grows.locate locates, ?_⟩
  cases there : before.get? location with
  | none =>
    rw [there] at stands
    cases stands
  | some other =>
    rw [there] at stands
    rw [grows.kept there]
    exact stands

/-- A tree that has grown by directories to which some paths lead. -/
structure Extends (paths : List FilePath) (after before : FileTree) : Prop
    extends after.Grows before where
  /-- What stands where nothing stood is a directory, and one of the paths leads there. -/
  fresh : ∀ {location : Location} {entry : Entry}, after.get? location = some entry →
    before.get? location = some entry ∨
      entry = .directory ∧ ∃ path ∈ paths, after.locate path = .ok location

variable {paths : List FilePath}

/-- Nothing is made of nothing. -/
theorem Extends.refl (paths : List FilePath) (tree : FileTree) : Extends paths tree tree :=
  ⟨.refl tree, .inl⟩

/-- Directories that are made after directories are directories that are made. -/
theorem Extends.trans {first second third : FileTree} (later : Extends paths third second)
    (sooner : Extends paths second first) : Extends paths third first where
  toGrows := later.toGrows.trans sooner.toGrows
  fresh := by
    intro location entry stands
    rcases later.fresh stands with old | made
    · rcases sooner.fresh old with older | ⟨directory, path, listed, leads⟩
      · exact .inl older
      · exact .inr ⟨directory, path, listed, later.toGrows.locate leads⟩
    · exact .inr made

/-- Directories to which some paths lead are ones to which more paths lead. -/
theorem Extends.mono {more : List FilePath} (made : Extends paths after before)
    (subset : ∀ path ∈ paths, path ∈ more) : Extends more after before where
  toGrows := made.toGrows
  fresh := by
    intro location entry stands
    rcases made.fresh stands with old | ⟨directory, path, listed, leads⟩
    · exact .inl old
    · exact .inr ⟨directory, path, subset path listed, leads⟩

/-- Making a directory adds a directory, to which its path leads, or nothing. -/
theorem makeDirectory_extends (tree : FileTree) (path : FilePath) :
    Extends [path] (tree.makeDirectory path).2 tree := by
  unfold makeDirectory
  cases locates : tree.locate path with
  | error e => exact .refl _ tree
  | ok location =>
    dsimp only
    cases stands : tree.get? location with
    | some entry => exact .refl _ tree
    | none =>
      have grows := grows_put stands .directory
      refine ⟨grows, ?_⟩
      intro other entry there
      by_cases same : other = location
      · have solid : location ≠ [] := by
          intro root
          rw [root] at stands
          cases stands
        rw [same, get?_put_self tree .directory solid] at there
        cases there
        rw [same]
        exact .inr ⟨rfl, path, List.mem_singleton_self path, grows.locate locates⟩
      · rw [get?_put_of_ne tree .directory same] at there
        exact .inl there

/-- Putting up with a directory that is there already makes nothing. -/
theorem orPresent_tree (path : FilePath) (made : Except FileFailure Unit × FileTree) :
    (orPresent path made).2 = made.2 := by
  obtain ⟨outcome, tree⟩ := made
  cases outcome with
  | ok _ => rfl
  | error e => rfl

/-- Making a chain of directories adds directories, to which paths of the chain lead, or nothing. -/
theorem makeChain_extends (tree : FileTree) (chain : List FilePath) :
    Extends chain (tree.makeChain chain).2 tree := by
  induction chain generalizing tree with
  | nil => exact .refl _ tree
  | cons path above ih =>
    have listed : ∀ other ∈ [path], other ∈ path :: above :=
      fun other member => List.mem_cons.mpr (.inl (List.mem_singleton.mp member))
    have first := (tree.makeDirectory_extends path).mono listed
    unfold makeChain
    split
    · rename_i made missing
      rw [missing] at first
      have middle := (ih made).mono fun _ => List.mem_cons_of_mem path
      split
      · rename_i grown done
        rw [done] at middle
        rw [orPresent_tree]
        exact ((grown.makeDirectory_extends path).mono listed).trans (middle.trans first)
      · exact middle.trans first
    · rw [orPresent_tree]
      exact first

/-- A file is made at the location that its path leads to, unless a directory stands there or is
asked for; otherwise nothing changes. -/
theorem makeFile_cases (tree : FileTree) (path : FilePath) :
    (∃ failure, tree.makeFile path = (.error failure, tree)) ∨
      ∃ location, tree.makeFile path = (.ok location, tree.put location (.file #[])) ∧
        tree.locate path = .ok location ∧ path.endsInSlash = false ∧
        tree.get? location ≠ some .directory := by
  unfold makeFile
  cases tree.locate path with
  | error failure => exact .inl ⟨failure, rfl⟩
  | ok location =>
    dsimp only
    by_cases slash : path.endsInSlash = true
    · rw [if_pos slash]
      exact .inl ⟨_, rfl⟩
    · rw [if_neg slash]
      split
      · exact .inl ⟨_, rfl⟩
      · rename_i vacant
        exact .inr ⟨location, rfl, rfl, Bool.eq_false_iff.mpr slash, vacant⟩

/-- A file is found at a path that leads to it and does not ask for a directory. -/
theorem find_eq_file_iff {tree : FileTree} {content : Array UInt8} :
    tree.find path = .ok (.file content) ↔ ∃ location, tree.locate path = .ok location ∧
      path.endsInSlash = false ∧ tree.get? location = some (.file content) := by
  unfold FileTree.find
  rw [bind_eq_ok_iff]
  refine exists_congr fun location => and_congr_right fun _ => ?_
  cases stands : tree.get? location with
  | none => exact ⟨nofun, fun h => nomatch h.2⟩
  | some entry =>
    cases entry with
    | directory => exact ⟨nofun, fun h => nomatch h.2⟩
    | file other =>
      dsimp only
      cases slash : path.endsInSlash with
      | true => exact ⟨nofun, nofun⟩
      | false =>
        rw [if_neg Bool.false_ne_true]
        constructor
        · intro same
          cases same
          exact ⟨rfl, rfl⟩
        · rintro ⟨-, same⟩
          cases same
          rfl

/-- A file that is put at the location of a path, where no directory stands, is found there. -/
theorem find_put {tree : FileTree} (locates : tree.locate path = .ok location)
    (vacant : tree.get? location ≠ some .directory) (plain : path.endsInSlash = false)
    (content : Array UInt8) :
    (tree.put location (.file content)).find path = .ok (.file content) := by
  have solid : location ≠ [] := by
    rintro rfl
    exact vacant rfl
  have leads := (keepsDirectories_put vacant (.file content)).locate locates
  exact find_eq_file_iff.mpr ⟨location, leads, plain, get?_put_self tree _ solid⟩

/-- Putting an entry in place of another is putting it there. -/
theorem put_put (tree : FileTree) (location : Location) (first second : Entry) :
    (tree.put location first).put location second = tree.put location second := by
  simp [put, List.filter_filter]

open Dump

/-- What becomes of making a target: directories above it are made, and then the file at the
location to which its path leads, unless one of them cannot be made. -/
theorem makeTarget_cases (tree : FileTree) (path : FilePath) :
    ∃ middle : FileTree, Extends path.above middle tree ∧
      ((∃ failure, makeTarget tree path = (.error failure, middle)) ∨
        ∃ location, makeTarget tree path = (.ok location, middle.put location (.file #[])) ∧
          middle.locate path = .ok location ∧ path.endsInSlash = false ∧
          middle.get? location ≠ some .directory) := by
  unfold makeTarget FilePath.above
  cases path.parent? with
  | none => exact ⟨tree, .refl _ tree, .inl ⟨_, rfl⟩⟩
  | some parent =>
    rw [Option.map_some, Option.getD_some]
    dsimp only
    have directories : Extends parent.chain
        (if parent.isEmpty || tree.has parent then (.ok (), tree)
          else tree.makeChain parent.chain : Except FileFailure Unit × FileTree).2 tree := by
      split
      · exact .refl _ tree
      · exact tree.makeChain_extends parent.chain
    split
    · rename_i failure middle failed
      rw [failed] at directories
      exact ⟨middle, directories, .inl ⟨_, rfl⟩⟩
    · rename_i middle done
      rw [done] at directories
      refine ⟨middle, directories, ?_⟩
      rcases makeFile_cases middle path with ⟨failure, failed⟩ | ⟨location, made, stands⟩
      · rw [failed]
        exact .inl ⟨_, rfl⟩
      · rw [made]
        exact .inr ⟨location, rfl, stands⟩

/-- A target that is made where nothing stood takes nothing away, and what is put there is found at
its path. -/
theorem makeTarget_fresh {tree : FileTree} (made : makeTarget tree path = (.ok location, after))
    (free : tree.get? location = none) :
    after.Grows tree ∧
      ∀ content, (after.put location (.file content)).find path = .ok (.file content) := by
  obtain ⟨middle, directories, ⟨failure, failed⟩ | ⟨place, makes, locates, plain, vacant⟩⟩ :=
    makeTarget_cases tree path
  · rw [failed] at made
    cases made
  rw [makes] at made
  cases made
  -- All that is new on the way is directories, and no file is made over one.
  have free' : middle.get? location = none := by
    cases stands : middle.get? location with
    | none => rfl
    | some entry =>
      rcases directories.fresh stands with old | ⟨directory, -⟩
      · rw [free] at old
        cases old
      · rw [directory] at stands
        exact absurd stands vacant
  refine ⟨(grows_put free' _).trans directories.toGrows, ?_⟩
  intro content
  rw [put_put]
  exact find_put locates vacant plain content

/-- A log that could be opened still can be, and is the same. -/
theorem Grows.openLog (grows : after.Grows before) {settings : Settings} {input : String}
    {standardInput : Array UInt8} {session : Session}
    (opens : Dump.openLog settings before input standardInput = .ok session) :
    Dump.openLog settings after input standardInput = .ok session := by
  unfold Dump.openLog at opens ⊢
  split
  · rename_i hyphen
    rw [if_pos hyphen] at opens
    exact opens
  · rename_i named
    rw [if_neg named, Session.openPath] at opens
    cases found : before.find (.ofString input) with
    | error failure =>
      rw [found] at opens
      cases opens
    | ok entry =>
      rw [found] at opens
      rw [Session.openPath, grows.find found]
      exact opens

end EventLog.FileTree
