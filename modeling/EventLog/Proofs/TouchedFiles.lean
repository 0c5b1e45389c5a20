import EventLog.Proofs.FileGrowth

/-!
# What a run of the dump touches

A run changes what stands at its target, and makes directories above it; all else in the tree stays
as it was, however the run ends (`Confined.touched`). A directory at the target, and a file there
that may not be overwritten, make it fail with nothing changed. Whether a file stands at the target
is looked up before the directories above it are made, though. A path that goes up again from a
directory that is missing leads nowhere at first and to a file afterwards, and such a file is
overwritten without leave (`Detour`). Without a detour no file changes that may not be overwritten
(`runArguments_confined`).
-/

namespace EventLog.FileTree

/-- What stands in the tree stands in directories, from the root down. -/
def Rooted (tree : FileTree) : Prop :=
  ∀ (front rest : Location) (entry : Entry), rest ≠ [] → tree.get? (front ++ rest) = some entry →
    tree.get? front = some .directory

variable {tree before after : FileTree} {path : FilePath} {location : Location}

/-- A name that is followed leads from a directory to itself, to the one above or to what stands
in it. -/
theorem follow_cases {name : String} {next : Location}
    (follows : tree.follow location name = .ok next) :
    tree.get? location = some .directory ∧
      (next = location ∨ name = ".." ∨ next = location ++ [name]) := by
  unfold follow at follows
  split at follows
  · cases follows
  · cases follows
  · rename_i stands
    refine ⟨stands, ?_⟩
    split at follows
    · cases follows
      exact .inl rfl
    · split at follows
      · rename_i up
        exact .inr (.inl up)
      · split at follows
        · cases follows
        · cases follows
          exact .inr (.inr rfl)

/-- Names that do not go up lead down. -/
theorem prefix_of_walk {names : List String} (down : ".." ∉ names) {start : Location}
    (walks : names.foldlM tree.follow start = .ok location) : start <+: location := by
  induction names generalizing start with
  | nil =>
    cases walks
    exact List.prefix_rfl
  | cons name names ih =>
    rw [List.foldlM_cons, bind_eq_ok_iff] at walks
    obtain ⟨next, follows, walks⟩ := walks
    have further := ih (fun member => down (List.mem_cons_of_mem name member)) walks
    rcases (follow_cases follows).2 with same | up | deeper
    · rwa [same] at further
    · exact absurd (List.mem_cons.mpr (.inl up.symm)) down
    · rw [deeper] at further
      exact (List.prefix_append start [name]).trans further

/-- A path that does not go up, and that leads to a file in a larger tree, leads there already in a
tree in which that file stands. -/
theorem locate_of_down (rooted : before.Rooted) (down : ".." ∉ path.names)
    (here : after.here = before.here) (leads : after.locate path = .ok location)
    (vacant : after.get? location ≠ some .directory) {entry : Entry}
    (stands : before.get? location = some entry) : before.locate path = .ok location := by
  have walks (names : List String) (down : ".." ∉ names) (start : Location)
      (leads : names.foldlM after.follow start = .ok location) :
      names.foldlM before.follow start = .ok location := by
    induction names generalizing start with
    | nil => exact leads
    | cons name names ih =>
      obtain ⟨rest, joined⟩ := prefix_of_walk down leads
      rw [List.foldlM_cons, bind_eq_ok_iff] at leads ⊢
      obtain ⟨next, follows, leads⟩ := leads
      have there := (follow_cases follows).1
      -- The walk goes on from a directory, so that it is not at its end here.
      have inside : rest ≠ [] := by
        rintro rfl
        rw [List.append_nil] at joined
        rw [joined] at there
        exact vacant there
      have there' : before.get? start = some .directory := by
        refine rooted start rest entry inside ?_
        rw [joined]
        exact stands
      refine ⟨next, ?_, ih (fun member => down (List.mem_cons_of_mem name member)) next leads⟩
      unfold follow at follows ⊢
      rw [there] at follows
      rw [there']
      exact follows
  unfold locate at leads ⊢
  rw [here] at leads
  split at leads
  · cases leads
  split at leads
  · cases leads
  rename_i given short
  rw [if_neg given, if_neg short]
  exact walks _ down _ leads

end EventLog.FileTree

namespace EventLog.Dump

open FileTree (Extends)

/-- A location at which a run with a target has changed something. -/
inductive Touched (before after : FileTree) (path : FilePath) (location : Location) : Prop where
  /-- Nothing stood there, and now a directory does; it is one that a path above the target leads
  to. -/
  | directory (free : before.get? location = none) (made : after.get? location = some .directory)
    (above : ∃ other ∈ path.above, after.locate other = .ok location)
  /-- No directory stood there, and now a file does; it is the one that the path of the target leads
  to. -/
  | file (vacant : before.get? location ≠ some .directory) {content : Array UInt8}
    (written : after.get? location = some (.file content))
    (leads : after.locate path = .ok location)

variable {files before middle after : FileTree} {path : FilePath} {location place : Location}

/-- Directories that are made above a target are all that is changed by making them. -/
theorem touched_of_extends (made : Extends path.above after before) (location : Location) :
    after.get? location = before.get? location ∨ Touched before after path location := by
  cases stands : after.get? location with
  | none =>
    cases stood : before.get? location with
    | none => exact .inl rfl
    | some entry =>
      rw [made.kept stood] at stands
      cases stands
  | some entry =>
    rcases made.fresh stands with old | ⟨rfl, above⟩
    · exact .inl old.symm
    · cases stood : before.get? location with
      | none => exact .inr (.directory stood stands above)
      | some other =>
        rw [made.kept stood] at stands
        exact .inl stands.symm

/-- A file that is put at the target, after directories above it, is what is changed besides
them. -/
theorem touched_of_put (made : Extends path.above middle before)
    (leads : middle.locate path = .ok place) (vacant : middle.get? place ≠ some .directory)
    (content : Array UInt8) (location : Location) :
    (middle.put place (.file content)).get? location = before.get? location ∨
      Touched before (middle.put place (.file content)) path location := by
  have keeps := FileTree.keepsDirectories_put vacant (.file content)
  by_cases same : location = place
  · subst same
    have solid : location ≠ [] := by
      rintro rfl
      exact vacant rfl
    have written := FileTree.get?_put_self middle (.file content) solid
    exact .inr (.file (fun stood => vacant (made.kept stood)) written (keeps.locate leads))
  · rw [FileTree.get?_put_of_ne middle _ same]
    rcases touched_of_extends made location with old | touched
    · exact .inl old
    · cases touched with
      | directory free directory above =>
        obtain ⟨other, listed, leads⟩ := above
        have still := (FileTree.get?_put_of_ne middle (.file content) same).trans directory
        exact .inr (.directory free still ⟨other, listed, keeps.locate leads⟩)
      | file _ _ elsewhere =>
        rw [leads] at elsewhere
        cases elsewhere
        exact absurd rfl same

/-- What can become of opening a target. -/
inductive Opening (files : FileTree) (path : FilePath) (overwrite : Bool) :
    Except Failure Location × FileTree → Prop where
  /-- Something stands there that may not be overwritten. -/
  | refused {failure : Failure}
    (taken : files.find path = .ok .directory ∨
      overwrite = false ∧ ∃ content, files.find path = .ok (.file content)) :
    Opening files path overwrite (.error failure, files)
  /-- A file that stands there, and that may be overwritten, is emptied. -/
  | emptied {location : Location} {content : Array UInt8} (allowed : overwrite = true)
    (found : files.find path = .ok (.file content)) (leads : files.locate path = .ok location)
    (stands : files.get? location = some (.file content)) :
    Opening files path overwrite (.ok location, files.put location (.file #[]))
  /-- Nothing is found there, and it cannot be made; directories above it may have been. -/
  | unmade {failure : Failure} {middle : FileTree} (absent : files.has path = false)
    (above : Extends path.above middle files) :
    Opening files path overwrite (.error failure, middle)
  /-- Nothing is found there, and an empty file is made where the path leads when the directories
  above it are there. -/
  | made {location : Location} {middle : FileTree} (absent : files.has path = false)
    (makes : makeTarget files path = (.ok location, middle.put location (.file #[])))
    (above : Extends path.above middle files) (leads : middle.locate path = .ok location)
    (vacant : middle.get? location ≠ some .directory) :
    Opening files path overwrite (.ok location, middle.put location (.file #[]))

variable {text : String}

/-- A target that is found and may not be overwritten is not opened. -/
theorem openTarget_of_taken {overwrite : Bool}
    (taken : files.find (.ofString text) = .ok .directory ∨
      overwrite = false ∧ ∃ content, files.find (.ofString text) = .ok (.file content)) :
    ∃ failure, openTarget files text overwrite = (.error failure, files) := by
  unfold openTarget
  rcases taken with found | ⟨forbidden, content, found⟩
  · simp only [found]
    exact ⟨_, rfl⟩
  · simp only [found, forbidden, Bool.false_eq_true, if_false]
    exact ⟨_, rfl⟩

/-- A target that is a file and may be overwritten is emptied. -/
theorem openTarget_of_file {content : Array UInt8}
    (found : files.find (.ofString text) = .ok (.file content)) :
    ∃ location, files.locate (.ofString text) = .ok location ∧
      (FilePath.ofString text).endsInSlash = false ∧
      files.get? location = some (.file content) ∧
      openTarget files text true = (.ok location, files.put location (.file #[])) := by
  obtain ⟨location, leads, plain, stands⟩ := FileTree.find_eq_file_iff.mp found
  refine ⟨location, leads, plain, stands, ?_⟩
  have makes : files.makeFile (.ofString text) =
      (.ok location, files.put location (.file #[])) := by
    rw [FileTree.makeFile, leads]
    dsimp only
    rw [plain, if_neg Bool.false_ne_true, stands]
  simp only [openTarget, found, makes, if_true]

/-- A target at whose path nothing is found is made. -/
theorem openTarget_of_absent (absent : files.has (.ofString text) = false) (overwrite : Bool) :
    openTarget files text overwrite = makeTarget files (.ofString text) := by
  unfold openTarget
  unfold FileTree.has at absent
  cases missing : files.find (.ofString text) with
  | ok entry =>
    rw [missing] at absent
    cases absent
  | error failure => simp only [missing]

/-- Opening a target ends in one of these ways. -/
theorem openTarget_opening (files : FileTree) (text : String) (overwrite : Bool) :
    Opening files (.ofString text) overwrite (openTarget files text overwrite) := by
  cases found : files.find (.ofString text) with
  | error failure =>
    have absent : files.has (.ofString text) = false := by
      rw [FileTree.has, found]
      rfl
    rw [openTarget_of_absent absent]
    obtain ⟨middle, above, ⟨failure, fails⟩ | ⟨location, makes, leads, -, vacant⟩⟩ :=
      FileTree.makeTarget_cases files (.ofString text)
    · rw [fails]
      exact .unmade absent above
    · rw [makes]
      exact .made absent makes above leads vacant
  | ok entry =>
    cases entry with
    | directory =>
      obtain ⟨failure, refuses⟩ := openTarget_of_taken (.inl found)
      rw [refuses]
      exact .refused (.inl found)
    | file content =>
      cases overwrite with
      | false =>
        obtain ⟨failure, refuses⟩ := openTarget_of_taken (.inr ⟨rfl, content, found⟩)
        rw [refuses]
        exact .refused (.inr ⟨rfl, content, found⟩)
      | true =>
        obtain ⟨location, leads, -, stands, opens⟩ := openTarget_of_file found
        rw [opens]
        exact .emptied rfl found leads stands

/-- What stands at the target when a run is over that could open it: the records if the log opens in
the tree with the opened target, and nothing if it does not. -/
def Arguments.written (arguments : Arguments) (codepage : Option Codepage) (opened : FileTree)
    (standardInput : Array UInt8) : Array UInt8 :=
  match openLog (arguments.settings codepage) opened arguments.input standardInput with
  | .ok session => ((arguments.style codepage).dump session).output.toArray
  | .error _ => #[]

variable {arguments : Arguments} {standardInput : Array UInt8} {codepage : Option Codepage}

/-- A codepage that is not known ends a run before anything is touched. -/
theorem run_unsupported {failure : Failure} (unsupported : arguments.charset = .error failure) :
    (run arguments files standardInput).code = .failure ∧
      (run arguments files standardInput).files = files := by
  rw [run, unsupported]
  exact ⟨rfl, rfl⟩

/-- A run without a target changes no file. -/
theorem run_untargeted (untargeted : arguments.target = none) :
    (run arguments files standardInput).files = files := by
  unfold run
  rw [Options.openTarget, untargeted]
  dsimp only
  split
  · rfl
  · split <;> rfl

/-- A target that cannot be opened ends a run. -/
theorem run_unopened {failure : Failure} (supported : arguments.charset = .ok codepage)
    (asked : arguments.target = some text)
    (fails : openTarget files text arguments.overwrite = (.error failure, after)) :
    (run arguments files standardInput).code = .failure ∧
      (run arguments files standardInput).files = after := by
  rw [run, supported, Options.openTarget, asked]
  dsimp only
  rw [fails]
  exact ⟨rfl, rfl⟩

/-- A target that is opened holds afterwards what the run wrote, and a run that fails then has
written nothing. -/
theorem run_opened (supported : arguments.charset = .ok codepage)
    (asked : arguments.target = some text)
    (opens : openTarget files text arguments.overwrite =
      (.ok location, middle.put location (.file #[]))) :
    (run arguments files standardInput).files = middle.put location
        (.file (arguments.written codepage (middle.put location (.file #[])) standardInput)) ∧
      ((run arguments files standardInput).code = .failure →
        arguments.written codepage (middle.put location (.file #[])) standardInput = #[]) := by
  rw [run, supported, Options.openTarget, asked]
  dsimp only
  rw [opens, Arguments.written]
  dsimp only
  cases openLog (arguments.settings codepage) (middle.put location (.file #[])) arguments.input
      standardInput with
  | error cause => exact ⟨rfl, fun _ => rfl⟩
  | ok session => exact ⟨FileTree.put_put .., nofun⟩

/-- What a run does to the tree of files. -/
inductive Effect (arguments : Arguments) (files after : FileTree) : Prop where
  /-- Nothing changes. -/
  | nothing (same : after = files)
  /-- Directories above the target are made, but the target is not. -/
  | directories {text : String} (asked : arguments.target = some text)
    (made : Extends (FilePath.ofString text).above after files)
  /-- The target is written, after directories above it have been made; it may be overwritten, or
  nothing is found at its path before they are made. -/
  | target {text : String} {middle : FileTree} {place : Location} {content : Array UInt8}
    (asked : arguments.target = some text)
    (above : Extends (FilePath.ofString text).above middle files)
    (leads : middle.locate (.ofString text) = .ok place)
    (vacant : middle.get? place ≠ some .directory)
    (leave : arguments.overwrite = true ∨ files.has (.ofString text) = false ∧
      ∃ opened, makeTarget files (.ofString text) = (.ok place, opened))
    (same : after = middle.put place (.file content))

/-- A run does one of these things to the tree of files. -/
theorem run_effect (arguments : Arguments) (files : FileTree) (standardInput : Array UInt8) :
    Effect arguments files (run arguments files standardInput).files := by
  cases supported : arguments.charset with
  | error failure => exact .nothing (run_unsupported supported).2
  | ok codepage =>
    cases asked : arguments.target with
    | none => exact .nothing (run_untargeted asked)
    | some text =>
      have opening := openTarget_opening files text arguments.overwrite
      generalize opens : openTarget files text arguments.overwrite = result at opening
      cases opening with
      | refused taken => exact .nothing (run_unopened supported asked opens).2
      | unmade absent above =>
        rw [(run_unopened supported asked opens).2]
        exact .directories asked above
      | @emptied location content allowed found leads stands =>
        have vacant : files.get? location ≠ some .directory := by
          rw [stands]
          nofun
        exact .target asked (.refl _ files) leads vacant (.inl allowed)
          (run_opened supported asked opens).1
      | made absent makes above leads vacant =>
        exact .target asked above leads vacant (.inr ⟨absent, _, makes⟩)
          (run_opened supported asked opens).1

/-- Where something else stands after a run than before, it is the target or a directory above
it. -/
theorem Effect.touched (effect : Effect arguments files after) (location : Location) :
    after.get? location = files.get? location ∨
      ∃ text ∈ arguments.target, Touched files after (.ofString text) location := by
  cases effect with
  | nothing same => exact .inl (by rw [same])
  | directories asked made =>
    exact (touched_of_extends made location).imp_right fun touched => ⟨_, asked, touched⟩
  | @target text _ _ content asked above leads vacant _ same =>
    rw [same]
    exact (touched_of_put above leads vacant content location).imp_right
      fun touched => ⟨text, asked, touched⟩

/-- A run whose target is found, and may not be overwritten, fails with nothing changed. -/
theorem run_taken (asked : arguments.target = some text)
    (taken : files.find (.ofString text) = .ok .directory ∨
      arguments.overwrite = false ∧ ∃ content, files.find (.ofString text) = .ok (.file content)) :
    (run arguments files standardInput).code = .failure ∧
      (run arguments files standardInput).files = files := by
  cases supported : arguments.charset with
  | error failure => exact run_unsupported supported
  | ok codepage =>
    obtain ⟨failure, fails⟩ := openTarget_of_taken taken
    exact run_unopened supported asked fails

/-- The path of the target leads nowhere at first, and to a file that stood there already when the
directories above the target have been made. -/
structure Detour (files : FileTree) (path : FilePath) (location : Location) : Prop where
  /-- Nothing is found at the path. -/
  absent : files.has path = false
  /-- A file is made at the location to which the path then leads. -/
  makes : ∃ opened, makeTarget files path = (.ok location, opened)
  /-- A file stood there already. -/
  taken : ∃ content, files.get? location = some (.file content)

/-- A path that does not go up takes no detour. -/
theorem not_detour_of_down (rooted : files.Rooted) (down : ".." ∉ path.names) :
    ¬Detour files path location := by
  rintro ⟨absent, ⟨opened, makes⟩, content, stands⟩
  obtain ⟨middle, above, ⟨failure, fails⟩ | ⟨place, makes', leads, plain, vacant⟩⟩ :=
    FileTree.makeTarget_cases files path
  · rw [makes] at fails
    cases fails
  rw [makes] at makes'
  cases makes'
  have leads' := FileTree.locate_of_down rooted down above.here leads vacant stands
  have found := FileTree.find_eq_file_iff.mpr ⟨location, leads', plain, stands⟩
  rw [FileTree.has, found] at absent
  cases absent

/-- What a run that its arguments ask for may change in the tree of files. -/
structure Confined (arguments : Arguments) (files : FileTree) (standardInput : Array UInt8)
    (report : Report) : Prop where
  /-- Where something else stands afterwards than before, it is the target or a directory above it
  that was missing. -/
  touched : ∀ location, report.files.get? location ≠ files.get? location →
    ∃ text ∈ arguments.target, Touched files report.files (.ofString text) location
  /-- A directory at the target makes the run fail with nothing changed. -/
  directory : ∀ text ∈ arguments.target, files.find (.ofString text) = .ok .directory →
    report.code = .failure ∧ report.files = files
  /-- A file at the target that may not be overwritten makes the run fail with nothing changed. -/
  guarded : ∀ text ∈ arguments.target, arguments.overwrite = false →
    ∀ content, files.find (.ofString text) = .ok (.file content) →
      report.code = .failure ∧ report.files = files
  /-- Where files may not be overwritten, none is changed if the path of the target takes no
  detour. -/
  spared : arguments.overwrite = false →
    (∀ text ∈ arguments.target, ∀ location, ¬Detour files (.ofString text) location) →
    ∀ location content, files.get? location = some (.file content) →
      report.files.get? location = some (.file content)
  /-- A file to which a detour leads is overwritten with what the run writes, may it be or not. -/
  overrun : ∀ text ∈ arguments.target, ∀ codepage, arguments.charset = .ok codepage →
    ∀ location, Detour files (.ofString text) location →
      ∃ opened, makeTarget files (.ofString text) = (.ok location, opened) ∧
        report.files.get? location =
          some (.file (arguments.written codepage opened standardInput))
  /-- A path takes no detour if it does not go up. -/
  direct : ∀ text ∈ arguments.target, files.Rooted → ".." ∉ (FilePath.ofString text).names →
    ∀ location, ¬Detour files (.ofString text) location

/-- A run changes no file that may not be overwritten, unless its target takes a detour. -/
theorem Effect.spared (effect : Effect arguments files after)
    (forbidden : arguments.overwrite = false)
    (direct : ∀ text ∈ arguments.target, ∀ location, ¬Detour files (.ofString text) location)
    {content : Array UInt8} (stands : files.get? location = some (.file content)) :
    after.get? location = some (.file content) := by
  cases effect with
  | nothing same => rw [same, stands]
  | directories asked made => exact made.kept stands
  | @target text middle place written asked above leads vacant leave same =>
    rcases leave with allowed | ⟨absent, makes⟩
    · rw [allowed] at forbidden
      cases forbidden
    · have elsewhere : location ≠ place := by
        rintro rfl
        exact direct text asked location ⟨absent, makes, content, stands⟩
      rw [same, FileTree.get?_put_of_ne middle _ elsewhere]
      exact above.kept stands

/-- A file to which the path of the target takes a detour is overwritten. -/
theorem run_overruns (asked : arguments.target = some text)
    (supported : arguments.charset = .ok codepage)
    (detour : Detour files (.ofString text) location) :
    ∃ opened, makeTarget files (.ofString text) = (.ok location, opened) ∧
      (run arguments files standardInput).files.get? location =
        some (.file (arguments.written codepage opened standardInput)) := by
  obtain ⟨absent, ⟨opened, makes⟩, -⟩ := detour
  refine ⟨opened, makes, ?_⟩
  have opens := (openTarget_of_absent absent arguments.overwrite).trans makes
  obtain ⟨middle, -, ⟨failure, fails⟩ | ⟨place, makes', -, -, vacant⟩⟩ :=
    FileTree.makeTarget_cases files (.ofString text)
  · rw [makes] at fails
    cases fails
  rw [makes] at makes'
  cases makes'
  have solid : location ≠ [] := by
    rintro rfl
    exact vacant rfl
  rw [(run_opened supported asked opens).1, FileTree.get?_put_self middle _ solid]

/-- What arguments as they are typed may change in the tree of files: nothing if they ask for no
run, and else no more than the run that they ask for. No file changes that may not be overwritten,
with one exception: the path of the target takes a detour, over a directory that is missing at
first and up from it again, to a file that stands there. -/
theorem runArguments_confined (typed : List String) (files : FileTree)
    (standardInput : Array UInt8) :
    (∀ refusal, Arguments.read typed = .error refusal →
      (runArguments typed files standardInput).files = files) ∧
    ∀ arguments, Arguments.read typed = .ok arguments →
      Confined arguments files standardInput (runArguments typed files standardInput) := by
  constructor
  · intro refusal refused
    rw [runArguments, refused]
    cases refusal <;> rfl
  · intro arguments reads
    have effect := run_effect arguments files standardInput
    rw [runArguments, reads]
    exact {
      touched := fun location changed => (effect.touched location).resolve_left changed
      directory := fun text asked found => run_taken asked (.inl found)
      guarded := fun text asked forbidden content found =>
        run_taken asked (.inr ⟨forbidden, content, found⟩)
      spared := fun forbidden direct location content => effect.spared forbidden direct
      overrun := fun text asked codepage supported location => run_overruns asked supported
      direct := fun text _ rooted down location => not_detour_of_down rooted down }

/-- A tree in which only one file stands. -/
def loneFile : FileTree := ⟨[(["kept"], .file #[0x6F, 0x6C, 0x64])], []⟩

/-- The file stands in the root. -/
theorem loneFile_rooted : loneFile.Rooted := by
  intro front rest entry inside stands
  cases front with
  | nil => rfl
  | cons name front =>
    cases more : front ++ rest with
    | nil => exact absurd (List.append_eq_nil_iff.mp more).2 inside
    | cons next others =>
      have apart : (name :: next :: others == ["kept"]) = false :=
        beq_eq_false_iff_ne.mpr fun same => nomatch (List.cons.inj same).2
      rw [List.cons_append, more, FileTree.get?, if_neg (List.cons_ne_nil _ _), loneFile,
        List.lookup_cons, apart] at stands
      cases stands

/-- A file is left alone if the arguments ask for no run, if it stands at the target, and if it
stands beside a new target. -/
theorem lone_file_confined :
    (runArguments ["-f"] loneFile #[]).files = loneFile ∧
      (runArguments ["-f", "kept", "-"] loneFile #[]).code = .failure ∧
      (runArguments ["-f", "kept", "-"] loneFile #[]).files = loneFile ∧
      (runArguments ["-f", "new/out", "-"] loneFile #[]).files.get? ["kept"] =
        some (.file #[0x6F, 0x6C, 0x64]) := by
  have idle := (runArguments_confined ["-f"] loneFile #[]).1 _ rfl
  have taken := (runArguments_confined ["-f", "kept", "-"] loneFile #[]).2 _ rfl
  have beside := (runArguments_confined ["-f", "new/out", "-"] loneFile #[]).2 _ rfl
  obtain ⟨fails, same⟩ := taken.guarded "kept" rfl rfl #[0x6F, 0x6C, 0x64] rfl
  refine ⟨idle, fails, same, beside.spared rfl ?_ _ _ rfl⟩
  intro text asked
  cases asked
  exact beside.direct _ rfl loneFile_rooted (by decide)

/-- A file that may not be overwritten is emptied when the path of the target takes a detour to
it. -/
theorem detour_empties_file :
    (∃ arguments, Arguments.read ["-f", "new/../kept", "-"] = .ok arguments ∧
      arguments.overwrite = false) ∧
    loneFile.get? ["kept"] = some (.file #[0x6F, 0x6C, 0x64]) ∧
    (runArguments ["-f", "new/../kept", "-"] loneFile #[]).files.get? ["kept"] =
      some (.file #[]) :=
  ⟨⟨_, rfl, rfl⟩, rfl, rfl⟩

end EventLog.Dump
