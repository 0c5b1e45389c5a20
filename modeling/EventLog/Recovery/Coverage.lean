import EventLog.Effort

/-!
# How far a recovery pass comes

A recovery pass reads the blocks of the ring one after the other and considers every signature in
them. Which blocks it has read can be told from the calls that it made (`Delivers`, `FailsAt`), and
what became of a signature from its looks and its records (`Considered`). `Covers` says both of the
first blocks of a ring, and `Reach` how far a pass came that was not cancelled.
-/

namespace EventLog.Recovery

/-- One of the calls read the block at an offset, and all bytes of the block were delivered. -/
def Delivers (ring : Ring) (source : Source) (calls : List Call) (blockStart : Nat) : Prop :=
  ∃ before later, calls = before ++ .block blockStart :: later ∧
    ((Call.makeAll ring source before).readPiece ring.fileEnd .recoveryBlock blockStart
        (blockSize ring blockStart)).1 =
      .ok (source.data.extract blockStart (blockStart + blockSize ring blockStart)).toList

/-- The last of the calls was the first to read the block at an offset, and failed. -/
def FailsAt (ring : Ring) (source : Source) (calls : List Call) (blockStart : Nat)
    (error : DecodeError) : Prop :=
  ∃ before, calls = before ++ [.block blockStart] ∧ .block blockStart ∉ before ∧
    ((Call.makeAll ring source before).readPiece ring.fileEnd .recoveryBlock blockStart
      (blockSize ring blockStart)).1 = .error error

/-- What became of an offset that a signature follows. -/
inductive Considered (taken : List Span) (looks : List Nat) (records : List Record)
    (offset : Nat) : Prop where
  /-- It was looked at. -/
  | looked (member : offset ∈ looks)
  /-- Its first bytes are accounted for. -/
  | occupied (shared : isFree taken ⟨offset, offset + Ring.minimumDeclared⟩ = false)
  /-- It lies within a record that was taken. -/
  | within {record : Record} (member : record ∈ records) (starts : record.offset < offset)
    (ends : offset < record.offset + record.size.toNat)

/-- From one offset on, a pass has read and searched a number of blocks and nothing else; records
can start at another offset and later. -/
structure Covers (ring : Ring) (taken : List Span) (source : Source)
    (blockStart resume blocks : Nat) (pass : Noted Recovery) : Prop where
  /-- Each of the blocks was read. -/
  delivered : ∀ index < blocks,
    Delivers ring source pass.calls (blockStart + index * blockStep)
  /-- Each signature in them was considered that leaves room for a size in front. -/
  considered : ∀ place ∈ signatures ring source.data, resume + 4 ≤ place → blockStart ≤ place →
    place < blockStart + blocks * blockStep →
      Considered taken pass.looks pass.result.records (place - 4)
  /-- Nothing was looked at that does not start there. -/
  beyond : ∀ offset ∈ pass.looks, offset + 4 < blockStart + blocks * blockStep

/-- How far a pass came over a number of blocks that was not cancelled. -/
inductive Reach (ring : Ring) (taken : List Span) (source : Source) (blockStart resume blocks : Nat)
    (pass : Noted Recovery) : Prop where
  /-- It read and searched all of them. -/
  | all (ends : pass.result.ending = .finished)
    (covers : Covers ring taken source blockStart resume blocks pass)
  /-- It read and searched those before one that could not be read. -/
  | part {index : Nat} {error : DecodeError} (few : index < blocks)
    (ends : pass.result.ending = .failed (blockStart + index * blockStep) error)
    (covers : Covers ring taken source blockStart resume index pass)
    (fails : FailsAt ring source pass.calls (blockStart + index * blockStep) error)

end EventLog.Recovery
