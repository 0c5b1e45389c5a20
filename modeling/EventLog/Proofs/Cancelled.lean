import EventLog.Proofs.Silenced

/-!
# Walks and recovery passes that are cancelled

The abort flag is looked at before each record and each block. Once it is up, no further record and
no further block is read (`Course`). Whenever it is raised, a walk keeps the first of the records
that it would find if the flag stayed down (`walk_front`), and a recovery pass the first of those
that it would recover (`run_front`).
-/

namespace EventLog

open EventLog.Ring Recovery

/-- From one state of a source to another, records of a ring and blocks of a recovery pass are read
one after the other, and the abort flag is down when each of them begins. -/
inductive Course (ring : Ring) : Source → Source → Prop where
  /-- Nothing is read. -/
  | done (source : Source) : Course ring source source
  /-- The record at an offset is read first. -/
  | record {source last : Source} (offset : Nat) (down : source.aborted = false)
      (rest : Course ring (ring.readFound source offset).2 last) : Course ring source last
  /-- The block at an offset is read first. -/
  | block {source last : Source} (blockStart : Nat) (down : source.aborted = false)
      (rest : Course ring (source.readPiece ring.fileEnd .recoveryBlock blockStart
        (blockSize ring blockStart)).2 last) : Course ring source last

namespace Course

variable {ring : Ring} {first middle last : Source}

/-- A course that goes on where another one ended is one course. -/
theorem trans (early : Course ring first middle) (late : Course ring middle last) :
    Course ring first last := by
  induction early with
  | done => exact late
  | record offset down _ ih => exact .record offset down (ih late)
  | block blockStart down _ ih => exact .block blockStart down (ih late)

end Course

namespace Scan

/-- Whenever the flag is raised, a walk reads no further record after it. -/
theorem walk_course (ring : Ring) (source : Source) (offset consumed : Nat) :
    Course ring source (walk ring source offset consumed).2 := by
  fun_induction walk ring source offset consumed with
  | case1 source => exact .done source
  | case2 source offset _ down e after read =>
    refine .record offset (Bool.eq_false_iff.mpr down) ?_
    rw [read]
    exact .done after
  | case3 source offset _ down sentinel after read =>
    refine .record offset (Bool.eq_false_iff.mpr down) ?_
    rw [read]
    exact .done after
  | case4 source offset _ down record after read =>
    refine .record offset (Bool.eq_false_iff.mpr down) ?_
    rw [read]
    exact .done after
  | case5 source offset _ down record after read _ rest last walked ih =>
    refine .record offset (Bool.eq_false_iff.mpr down) ?_
    rw [walked] at ih
    rw [read]
    exact ih

/-- Whenever the flag is raised, the records of a walk are the first of those that it finds if the
flag stays down. -/
theorem walk_front (ring : Ring) (source : Source) (offset consumed : Nat) :
    (walk ring source offset consumed).1.records <+:
      (walk ring source.silenced offset consumed).1.records := by
  fun_induction walk ring source offset consumed with
  | case1 => exact List.nil_prefix
  | case2 => exact List.nil_prefix
  | case3 => exact List.nil_prefix
  | case4 => exact List.nil_prefix
  | case5 source offset consumed _ record after read fits rest last walked ih =>
    have found := readFound_silenced ring source offset
    rw [read] at found
    rw [walked] at ih
    rw [walk_of_readFound source.aborted_silenced consumed found]
    dsimp only [id]
    rw [if_neg fits]
    exact List.cons_prefix_cons.mpr ⟨rfl, ih⟩

/-- Whatever the header says, a walk reads no further record once the flag is up. -/
theorem run_course (ring : Ring) (header : Header) (source : Source) :
    Course ring source (run ring header source).2 := by
  rw [run]
  split
  · exact .done source
  · exact walk_course ring source _ _

/-- Whatever the header says and whenever the flag is raised, the records of a walk are the first of
those that it finds if the flag stays down. -/
theorem run_front (ring : Ring) (header : Header) (source : Source) :
    (run ring header source).1.records <+: (run ring header source.silenced).1.records := by
  rw [run, run]
  split
  · exact List.nil_prefix
  · exact walk_front ring source _ _

end Scan

namespace Recovery

variable (ring : Ring) (taken : List Span)

/-- Whenever the flag is raised, what is taken of candidates is the first part of what is taken if
it stays down. -/
theorem harvest_front (source : Source) (resume : Nat) (offsets : List Nat) :
    (harvest ring taken source resume offsets).1.records <+:
      (harvest ring taken source.silenced resume offsets).1.records := by
  induction offsets generalizing source resume with
  | nil => exact List.nil_prefix
  | cons offset rest ih =>
    rw [harvest, harvest, Source.aborted_silenced, if_neg Bool.false_ne_true]
    by_cases up : source.aborted = true
    · rw [if_pos up]
      exact List.nil_prefix
    · rw [if_neg up]
      by_cases skipped : (decide (offset < resume) ||
          !isFree taken ⟨offset, offset + Ring.minimumDeclared⟩) = true
      · rw [if_pos skipped, if_pos skipped]
        exact ih source resume
      · rw [if_neg skipped, if_neg skipped, Ring.readFound_silenced]
        dsimp only [Prod.map, id]
        cases record? ring taken (ring.readFound source offset).1 with
        | none => exact ih _ resume
        | some record => exact List.cons_prefix_cons.mpr ⟨rfl, ih _ _⟩

/-- Whenever the flag is raised, what is taken of blocks is the first part of what is taken if it
stays down. -/
theorem search_front (blocks : Nat) (source : Source) (blockStart resume : Nat) :
    (search ring taken blocks source blockStart resume).1.records <+:
      (search ring taken blocks source.silenced blockStart resume).1.records := by
  induction blocks generalizing source blockStart resume with
  | zero => exact List.nil_prefix
  | succ blocks ih =>
    rw [search, search, Source.aborted_silenced, if_neg Bool.false_ne_true]
    by_cases up : source.aborted = true
    · rw [if_pos up]
      exact List.nil_prefix
    · rw [if_neg up, Source.readPiece_silenced]
      cases source.readPiece ring.fileEnd .recoveryBlock blockStart (blockSize ring blockStart) with
      | mk outcome after =>
        cases outcome with
        | error e => exact List.nil_prefix
        | ok block =>
          dsimp only [Prod.map, id]
          by_cases cancelled :
              (harvest ring taken after resume (candidates block blockStart)).1.cancelled = true
          · have here := harvest_front ring taken after resume (candidates block blockStart)
            rw [if_pos cancelled]
            split
            · exact here
            · exact here.trans (List.prefix_append _ _)
          · rw [harvest_silenced (Bool.eq_false_iff.mpr cancelled)]
            dsimp only [Prod.map, id]
            rw [if_neg cancelled, if_neg cancelled]
            exact (List.prefix_append_right_inj _).mpr (ih _ _ _)

/-- Whenever the flag is raised, a recovery pass takes the first part of what it takes if the flag
stays down. -/
theorem run_front (ring : Ring) (scan : Scan) (source : Source) :
    (run ring scan source).1.records <+: (run ring scan source.silenced).1.records :=
  search_front ring _ _ source _ _

/-- If the flag is up, a recovery pass takes nothing. -/
theorem run_records_of_aborted (ring : Ring) (scan : Scan) {source : Source}
    (up : source.aborted = true) : (run ring scan source).1.records = [] := by
  rw [run]
  cases blockCount ring with
  | zero => rfl
  | succ blocks => rw [search, if_pos up]

/-- Whenever the flag is raised, no further candidate is read after it. -/
theorem harvest_course (source : Source) (resume : Nat) (offsets : List Nat) :
    Course ring source (harvest ring taken source resume offsets).2 := by
  induction offsets generalizing source resume with
  | nil => exact .done source
  | cons offset rest ih =>
    rw [harvest]
    by_cases up : source.aborted = true
    · rw [if_pos up]
      exact .done source
    · rw [if_neg up]
      by_cases skipped : (decide (offset < resume) ||
          !isFree taken ⟨offset, offset + Ring.minimumDeclared⟩) = true
      · rw [if_pos skipped]
        exact ih source resume
      · rw [if_neg skipped]
        refine .record offset (Bool.eq_false_iff.mpr up) ?_
        dsimp only
        cases record? ring taken (ring.readFound source offset).1 with
        | none => exact ih _ resume
        | some record => exact ih _ _

/-- Whenever the flag is raised, no further block and no further candidate is read after it. -/
theorem search_course (blocks : Nat) (source : Source) (blockStart resume : Nat) :
    Course ring source (search ring taken blocks source blockStart resume).2 := by
  induction blocks generalizing source blockStart resume with
  | zero => exact .done source
  | succ blocks ih =>
    rw [search]
    by_cases up : source.aborted = true
    · rw [if_pos up]
      exact .done source
    · rw [if_neg up]
      refine .block blockStart (Bool.eq_false_iff.mpr up) ?_
      cases source.readPiece ring.fileEnd .recoveryBlock blockStart (blockSize ring blockStart) with
      | mk outcome after =>
        cases outcome with
        | error e => exact .done after
        | ok block =>
          have here := harvest_course ring taken after resume (candidates block blockStart)
          dsimp only
          split
          · exact here
          · exact here.trans (ih _ _ _)

/-- Whenever the flag is raised, a recovery pass reads no further block and no further record. -/
theorem run_course (ring : Ring) (scan : Scan) (source : Source) :
    Course ring source (run ring scan source).2 :=
  search_course ring _ _ source _ _

end Recovery

end EventLog
