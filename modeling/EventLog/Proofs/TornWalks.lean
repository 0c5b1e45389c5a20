import EventLog.Proofs.Walk
import EventLog.Source.Impaired

/-!
# Walks that a failing call ends

A walk over a source that impairs another one finds what the walk over that one finds, as long as
none of its calls fails. If one fails, the walk is torn: it keeps the records found so far, which
are the first of the other walk, and ends with the failure at the offset of the next one
(`walk_impaired`).
-/

namespace EventLog

open EventLog.Source EventLog.Ring

variable {ring : Ring} {source intact : Source} {offset : Nat}

/-- Unless a call failed, a run of the ring is what it is on a source that is impaired. -/
theorem Ring.readBytes_impaired (impairs : source.Impairs intact) {size : Nat}
    {result : Except DecodeError Bytes} {after : Source}
    (read : ring.readBytes source offset size = (result, after))
    (unbroken : Unbroken result) :
    Follows source after result (ring.readBytes intact offset size) := by
  unfold readBytes at read ⊢
  by_cases bad : (!ring.contains offset || decide (ring.size < size)) = true
  · rw [if_pos bad] at read ⊢
    cases read
    exact ⟨rfl, impairs, not_struck_self _⟩
  · rw [if_neg bad] at read ⊢
    dsimp only at read ⊢
    cases front : source.readPiece ring.fileEnd .ringRecord offset
        (min (ring.fileEnd - offset) size) with
    | mk outcome middle =>
      rw [front] at read
      have moved := (source.readPiece_continues _ _ _ _).of_eq front
      cases outcome with
      | error e =>
        cases read
        have follows := readPiece_impaired impairs front unbroken
        rw [follows.eq]
        exact ⟨rfl, follows.impairs, follows.clear⟩
      | ok first =>
        have follows := readPiece_impaired impairs front (unbroken_ok _)
        rw [follows.eq]
        dsimp only at read ⊢
        by_cases wraps : min (ring.fileEnd - offset) size < size
        · rw [if_pos wraps] at read ⊢
          cases back : middle.readPiece ring.fileEnd .wrappedRecord start
              (size - min (ring.fileEnd - offset) size) with
          | mk outcome last =>
            rw [back] at read
            cases outcome with
            | error e =>
              cases read
              have follows' := readPiece_impaired follows.impairs back unbroken
              rw [follows'.eq]
              have whole := follows.trans moved follows'
              exact ⟨rfl, whole.impairs, whole.clear⟩
            | ok second =>
              cases read
              have follows' := readPiece_impaired follows.impairs back (unbroken_ok _)
              rw [follows'.eq]
              have whole := follows.trans moved follows'
              exact ⟨rfl, whole.impairs, whole.clear⟩
        · rw [if_neg wraps] at read ⊢
          cases read
          exact ⟨rfl, follows.impairs, follows.clear⟩

/-- Unless a call failed, what is found at an offset is what is found there on a source that is
impaired. -/
theorem Ring.readFound_impaired (impairs : source.Impairs intact)
    {result : Except DecodeError Found} {after : Source}
    (read : ring.readFound source offset = (result, after))
    (unbroken : Unbroken result) :
    Follows source after result (ring.readFound intact offset) := by
  unfold readFound at read ⊢
  cases front : ring.readBytes source offset 4 with
  | mk outcome middle =>
    rw [front] at read
    have moved := (readBytes_continues _ _ _ _).of_eq front
    cases outcome with
    | error e =>
      cases read
      have follows := readBytes_impaired impairs front unbroken.error
      rw [follows.eq]
      exact ⟨rfl, follows.impairs, follows.clear⟩
    | ok word =>
      have follows := readBytes_impaired impairs front (unbroken_ok _)
      rw [follows.eq]
      dsimp only at read ⊢
      by_cases bad : (decide ((word.word32 0).toNat < minimumDeclared) ||
          decide (ring.size < (word.word32 0).toNat)) = true
      · rw [if_pos bad] at read ⊢
        cases read
        exact ⟨rfl, follows.impairs, follows.clear⟩
      · rw [if_neg bad] at read ⊢
        cases back : ring.readBytes middle offset (word.word32 0).toNat with
        | mk outcome last =>
          rw [back] at read
          cases outcome with
          | error e =>
            cases read
            have follows' := readBytes_impaired follows.impairs back unbroken.error
            rw [follows'.eq]
            have whole := follows.trans moved follows'
            exact ⟨rfl, whole.impairs, whole.clear⟩
          | ok bytes =>
            cases read
            have follows' := readBytes_impaired follows.impairs back nofun
            rw [follows'.eq]
            have whole := follows.trans moved follows'
            exact ⟨rfl, whole.impairs, whole.clear⟩

namespace Scan

/-- The first record of a walk stands where the walk starts. -/
theorem offset_of_walk_head (ring : Ring) (source : Source) (offset consumed : Nat) :
    ∀ record ∈ (walk ring source offset consumed).1.records.head?, record.offset = offset := by
  fun_cases walk ring source offset consumed with
  | case1 => exact fun _ member => absurd member (Option.not_mem_none _)
  | case2 => exact fun _ member => absurd member (Option.not_mem_none _)
  | case3 => exact fun _ member => absurd member (Option.not_mem_none _)
  | case4 => exact fun _ member => absurd member (Option.not_mem_none _)
  | case5 _ record _ read =>
    intro first member
    cases Option.mem_some.mp member
    exact (event_of_readFound read).2.1

/-- A walk that a failing call ended. -/
structure Torn (ring : Ring) (offset : Nat) (records : List Record) (outcome : Outcome)
    (intact : List Record) : Prop where
  /-- The walk ended with the failure, right after its records. -/
  ended : ∃ failure,
    outcome = .corrupted (ring.position offset (total records)) (.source failure)
  /-- The intact walk has the same records and perhaps more, and the next one starts there. -/
  resumes : ∃ rest, intact = records ++ rest ∧
    ∀ record ∈ rest.head?, record.offset = ring.position offset (total records)

/-- A walk that ends with the failure before it finds a record is torn. -/
theorem torn_ended (inside : ring.contains offset = true) (failure : SourceFailure)
    {records : List Record} (starts : ∀ record ∈ records.head?, record.offset = offset) :
    Torn ring offset [] (.corrupted offset (.source failure)) records := by
  have here := position_zero inside
  refine ⟨⟨failure, ?_⟩, records, rfl, ?_⟩
  · rw [total_nil, here]
  · rw [total_nil, here]
    exact starts

/-- A walk that is torn after its first record is torn. -/
theorem Torn.cons {record : Record} {records intact : List Record} {outcome : Outcome}
    (torn : Torn ring (ring.position offset record.size.toNat) records outcome intact) :
    Torn ring offset (record :: records) outcome (record :: intact) := by
  obtain ⟨⟨failure, ended⟩, rest, resumes, next⟩ := torn
  rw [position_position] at ended next
  exact ⟨⟨failure, ended⟩, rest, congrArg (record :: ·) resumes, next⟩

/-- A walk that is torn keeps the first of the records. -/
theorem Torn.isPrefix {records intact : List Record} {outcome : Outcome}
    (torn : Torn ring offset records outcome intact) : records <+: intact := by
  obtain ⟨rest, resumes, -⟩ := torn.resumes
  exact ⟨rest, resumes.symm⟩

/-- A walk is the walk over the source that is impaired, or a failing call ended it. -/
theorem walk_impaired (impairs : source.Impairs intact) (inside : ring.contains offset = true)
    (consumed : Nat) :
    Follows source (walk ring source offset consumed).2 (walk ring source offset consumed).1
        (walk ring intact offset consumed) ∨
      Torn ring offset (walk ring source offset consumed).1.records
        (walk ring source offset consumed).1.outcome
        (walk ring intact offset consumed).1.records := by
  fun_induction walk ring source offset consumed generalizing intact with
  | case1 source offset consumed up =>
    rw [walk, if_pos (impairs.aborted.symm.trans up)]
    exact .inl ⟨rfl, impairs, not_struck_self _⟩
  | case2 source offset consumed down e after read =>
    by_cases unbroken : Unbroken (.error e : Except DecodeError Found)
    · have follows := readFound_impaired impairs read unbroken
      rw [walk_of_readFound (impairs.down down) consumed follows.eq]
      exact .inl ⟨rfl, follows.impairs, follows.clear⟩
    · obtain ⟨failure, broken⟩ := Classical.not_forall_not.mp unbroken
      cases broken
      exact .inr (torn_ended inside failure (offset_of_walk_head ring intact offset consumed))
  | case3 source offset consumed down sentinel after read =>
    have follows := readFound_impaired impairs read (unbroken_ok _)
    rw [walk_of_readFound (impairs.down down) consumed follows.eq]
    exact .inl ⟨rfl, follows.impairs, follows.clear⟩
  | case4 source offset consumed down record after read exceeds =>
    have follows := readFound_impaired impairs read (unbroken_ok _)
    rw [walk_of_readFound (impairs.down down) consumed follows.eq]
    dsimp only
    rw [if_pos exceeds]
    exact .inl ⟨rfl, follows.impairs, follows.clear⟩
  | case5 source offset consumed down record after read fits rest last walked ih =>
    have moved := (readFound_continues _ _ _).of_eq read
    have follows := readFound_impaired impairs read (unbroken_ok _)
    rw [walk_of_readFound (impairs.down down) consumed follows.eq]
    dsimp only
    rw [if_neg fits]
    rw [walked, next_eq_position inside (by omega)] at ih
    rcases ih follows.impairs (contains_position inside _) with later | torn
    · have whole := follows.trans moved later
      rw [next_eq_position inside (by omega), later.eq]
      exact .inl ⟨rfl, whole.impairs, whole.clear⟩
    · rw [next_eq_position inside (by omega)]
      exact .inr torn.cons

/-- Whatever the header says, a walk is the walk over the source that is impaired, or a failing call
ended it. -/
theorem run_impaired (ring : Ring) (impairs : source.Impairs intact) (header : Header) :
    Follows source (run ring header source).2 (run ring header source).1
        (run ring header intact) ∨
      Torn ring header.firstRecordOffset.toNat (run ring header source).1.records
        (run ring header source).1.outcome (run ring header intact).1.records := by
  by_cases both : ring.contains header.firstRecordOffset.toNat = true ∧
      ring.contains header.sentinelOffset.toNat = true
  · rw [run_inside both.1 both.2, run_inside both.1 both.2]
    exact walk_impaired impairs both.1 0
  · rw [run_outside both, run_outside both]
    exact .inl ⟨rfl, impairs, not_struck_self _⟩

end Scan

end EventLog
