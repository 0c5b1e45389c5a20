import EventLog.Proofs.Source

/-!
# Sources that fail where others do not

A source impairs another one if it is the same, but that some of its calls may fail and that its
bytes may end early. As long as none of its calls fails, it delivers what the other one delivers and
goes on impairing it (`readPiece_impaired`); the first call that fails ends the read.
-/

namespace EventLog

/-- A read call ends the read that it belongs to. -/
def Reaction.isFault : Reaction → Bool
  | .fail => true
  | .finish => true
  | .serve (some 0) => true
  | _ => false

/-- A call that serves is no fault if it delivers something. -/
theorem Reaction.isFault_serve {most : Option Nat} (positive : most ≠ some 0) :
    (Reaction.serve most).isFault = false := by
  unfold isFault
  split
  · contradiction
  · contradiction
  · rename_i nothing
    cases nothing
    exact absurd rfl positive
  · rfl

/-- The plan without its faults. -/
def FaultPlan.mended (plan : FaultPlan) : FaultPlan :=
  { plan with
    reaction := fun call =>
      if (plan.reaction call).isFault then .serve Option.none else plan.reaction call
    seekFails := fun _ => false
    le_lastInterrupt := by
      intro call interrupts
      split at interrupts
      · cases interrupts
      · exact plan.le_lastInterrupt call interrupts }

namespace Source

/-- The first source is the second one, but that its calls may fail and its bytes may end early. -/
structure Impairs (source intact : Source) : Prop where
  /-- The bytes are the first of those of the intact source. -/
  data : source.data.toList <+: intact.data.toList
  /-- Both report the same length. -/
  length : source.plan.reportedLength.getD source.data.size =
    intact.plan.reportedLength.getD intact.data.size
  /-- A read call does what it does on the intact source, or it ends the read. -/
  reaction : ∀ call, source.plan.reaction call = intact.plan.reaction call ∨
    (source.plan.reaction call).isFault = true
  /-- A seek call that fails on the intact source fails. -/
  seekFails : ∀ call, intact.plan.seekFails call = true → source.plan.seekFails call = true
  /-- The same calls raise the abort flag. -/
  signals : source.plan.signals = intact.plan.signals
  /-- As many read calls have been made. -/
  reads : source.reads = intact.reads
  /-- As many seek calls have been made. -/
  seeks : source.seeks = intact.seeks
  /-- The abort flags are the same. -/
  aborted : source.aborted = intact.aborted

/-- One of the calls between two states of a source fails by its plan. -/
def Struck (before after : Source) : Prop :=
  (∃ call, before.reads < call ∧ call ≤ after.reads ∧
      (before.plan.reaction call).isFault = true) ∨
    ∃ call, before.seeks < call ∧ call ≤ after.seeks ∧ before.plan.seekFails call = true

/-- Where no call was made none failed. -/
theorem not_struck_self (source : Source) : ¬source.Struck source := by
  rintro (⟨call, low, high, -⟩ | ⟨call, low, high, -⟩) <;> omega

/-- If a call failed, it failed before or after a state in between. -/
theorem Struck.split {before after : Source} (struck : before.Struck after) {middle : Source}
    (same : middle.plan = before.plan) : before.Struck middle ∨ middle.Struck after := by
  obtain ⟨call, low, high, fault⟩ | ⟨call, low, high, fault⟩ := struck
  · by_cases early : call ≤ middle.reads
    · exact .inl (.inl ⟨call, low, early, fault⟩)
    · rw [← same] at fault
      exact .inr (.inl ⟨call, Nat.lt_of_not_le early, high, fault⟩)
  · by_cases early : call ≤ middle.seeks
    · exact .inl (.inr ⟨call, low, early, fault⟩)
    · rw [← same] at fault
      exact .inr (.inr ⟨call, Nat.lt_of_not_le early, high, fault⟩)

/-- A result is not the failure of a call. -/
def Unbroken {α : Type} (result : Except DecodeError α) : Prop :=
  ∀ failure, result ≠ .error (.source failure)

/-- What was read is no failure. -/
theorem unbroken_ok {α : Type} (value : α) : Unbroken (.ok value) := nofun

/-- An error that is passed on is no failure if it was none. -/
theorem Unbroken.error {α β : Type} {error : DecodeError}
    (unbroken : Unbroken (.error error : Except DecodeError α)) :
    Unbroken (.error error : Except DecodeError β) := by
  intro failure equal
  cases equal
  exact unbroken failure rfl

/-- A call on an intact source has the result that it has on a source that impairs it, none of whose
calls failed, and leaves a source that is still impaired. -/
structure Follows {α : Type} (source after : Source) (result : α) (call : α × Source) : Prop where
  /-- The result is the same. -/
  result : call.1 = result
  /-- The sources after the call compare like those before it. -/
  impairs : after.Impairs call.2
  /-- None of the calls failed. -/
  clear : ¬source.Struck after

/-- The call on the intact source, with its result. -/
theorem Follows.eq {α : Type} {source after : Source} {result : α} {call : α × Source}
    (follows : Follows source after result call) : call = (result, call.2) :=
  Prod.ext follows.result rfl

/-- What follows from the state after a call that did not fail follows from before it. -/
theorem Follows.trans {α β : Type} {before middle after : Source} {first : β} {result : α}
    {call : β × Source} {call' : α × Source} (kept : middle.Continues before)
    (here : Follows before middle first call) (later : Follows middle after result call') :
    Follows before after result call' where
  result := later.result
  impairs := later.impairs
  clear struck := (struck.split kept.plan).elim here.clear later.clear

/-- The source without its faults: no seek call fails, and a read call that would end its read
serves what there is. -/
def mended (source : Source) : Source :=
  { source with plan := source.plan.mended }

/-- A source impairs itself without its faults. -/
theorem impairs_mended (source : Source) : source.Impairs source.mended where
  data := List.prefix_rfl
  length := rfl
  reaction call := by
    by_cases fault : (source.plan.reaction call).isFault = true
    · exact .inr fault
    · exact .inl (if_neg fault).symm
  seekFails _ fails := absurd fails Bool.false_ne_true
  signals := rfl
  reads := rfl
  seeks := rfl
  aborted := rfl

variable {source intact : Source}

/-- A source has at most as many bytes as one that it impairs. -/
theorem Impairs.size_le (impairs : source.Impairs intact) :
    source.data.size ≤ intact.data.size := by
  have shorter := impairs.data.length_le
  rwa [Array.length_toList, Array.length_toList] at shorter

/-- If the flag of a source is down, so is that of a source that it impairs. -/
theorem Impairs.down (impairs : source.Impairs intact) (down : ¬source.aborted = true) :
    intact.aborted = false :=
  impairs.aborted.symm.trans (Bool.eq_false_iff.mpr down)

/-- A run of bytes that a source has is the same in a source that it impairs. -/
theorem Impairs.extract (impairs : source.Impairs intact) {offset size : Nat}
    (fits : size = 0 ∨ offset + size ≤ source.data.size) :
    (source.data.extract offset (offset + size)).toList =
      (intact.data.extract offset (offset + size)).toList := by
  obtain ⟨more, whole⟩ := impairs.data
  rw [Array.toList_extract, Array.toList_extract, List.extract_eq_take_drop,
    List.extract_eq_take_drop, Nat.add_sub_cancel_left, ← whole]
  rcases fits with rfl | fits
  · rw [List.take_zero, List.take_zero]
  · rw [← Array.length_toList] at fits
    rw [List.drop_append_of_le_length (by omega),
      List.take_append_of_le_length (by rw [List.length_drop]; omega)]

/-- A read call that is counted is counted on both sources. -/
theorem Impairs.countRead (impairs : source.Impairs intact) :
    source.countRead.Impairs intact.countRead where
  data := impairs.data
  length := impairs.length
  reaction := impairs.reaction
  seekFails := impairs.seekFails
  signals := impairs.signals
  reads := congrArg (· + 1) impairs.reads
  seeks := impairs.seeks
  aborted := by
    rw [Source.countRead, Source.countRead, impairs.aborted, impairs.signals, impairs.reads]

/-- What follows a read call that is no fault follows from before it. -/
theorem Follows.of_countRead {α : Type} {after : Source} {result : α} {call : α × Source}
    (goes : (source.plan.reaction (source.reads + 1)).isFault = false)
    (follows : Follows source.countRead after result call) : Follows source after result call := by
  refine ⟨follows.result, follows.impairs, ?_⟩
  intro struck
  rcases struck.split (show source.countRead.plan = source.plan from rfl) with here | later
  · rcases here with ⟨call, low, high, fault⟩ | ⟨call, low, high, -⟩
    · have next : call = source.reads + 1 := Nat.le_antisymm high low
      rw [next, goes] at fault
      cases fault
    · exact absurd low (Nat.not_lt.mpr high)
  · exact follows.clear later

/-- The intact source does what the next call does, unless that is a fault. -/
theorem Impairs.reacts (impairs : source.Impairs intact) {reaction : Reaction}
    (reacts : source.plan.reaction (source.reads + 1) = reaction)
    (goes : reaction.isFault = false) :
    intact.plan.reaction (intact.reads + 1) = reaction := by
  rw [← impairs.reads]
  rcases impairs.reaction (source.reads + 1) with same | fault
  · exact same.symm.trans reacts
  · rw [reacts, goes] at fault
    cases fault

/-- As long as all that is needed is there, a call delivers the same on both sources. -/
theorem Impairs.delivered (impairs : source.Impairs intact) (most : Option Nat)
    (position need : Nat) (fits : need = source.delivered most position need ∨
      position + need ≤ source.data.size) :
    intact.delivered most position need = source.delivered most position need := by
  have shorter := impairs.size_le
  unfold Source.delivered at fits ⊢
  cases most with
  | none =>
    simp only [Option.elim_none] at fits ⊢
    omega
  | some bound =>
    simp only [Option.elim_some] at fits ⊢
    omega

/-- What is filled on a source is there, and is filled on a source that it impairs, and no call
failed. -/
theorem fill_impaired (impairs : source.Impairs intact) {position need : Nat} {after : Source}
    (filled : source.fill position need = (.ok (), after)) :
    Follows source after (.ok ()) (intact.fill position need) ∧
      (need = 0 ∨ position + need ≤ source.data.size) := by
  fun_induction fill source position need generalizing intact with
  | case1 source position =>
    cases filled
    rw [fill, if_pos rfl]
    exact ⟨⟨rfl, impairs, not_struck_self _⟩, .inl rfl⟩
  | case2 source position need needed reacts ih =>
    have goes : (source.plan.reaction (source.reads + 1)).isFault = false := by
      rw [reacts]
      rfl
    obtain ⟨follows, there⟩ := ih impairs.countRead filled
    rw [fill_of_needed needed, impairs.reacts reacts rfl]
    exact ⟨follows.of_countRead goes, there⟩
  | case3 => cases filled
  | case4 => cases filled
  | case5 => cases filled
  | case6 source position need needed most reacts something ih =>
    have positive : most ≠ some 0 := by
      rintro rfl
      exact something (by rw [Source.delivered, Option.elim_some, Nat.min_zero, Nat.zero_min])
    have goes : (source.plan.reaction (source.reads + 1)).isFault = false := by
      rw [reacts]
      exact Reaction.isFault_serve positive
    obtain ⟨follows, there⟩ := ih impairs.countRead filled
    have bounds := source.delivered_le most position need
    have same : source.countRead.data.size = source.data.size := rfl
    have equal := impairs.delivered most position need (by omega)
    rw [fill_of_needed needed, impairs.reacts reacts (Reaction.isFault_serve positive)]
    dsimp only
    rw [equal, if_neg something]
    exact ⟨follows.of_countRead goes, .inr (by omega)⟩

/-- A seek call that succeeds on a source succeeds on a source that it impairs. -/
theorem seek_impaired (impairs : source.Impairs intact) {after : Source}
    (sought : source.seek = (.ok (), after)) : Follows source after (.ok ()) intact.seek := by
  unfold seek at sought
  dsimp only at sought
  by_cases fails : source.plan.seekFails (source.seeks + 1) = true
  · rw [if_pos fails] at sought
    cases sought
  · have serves : ¬intact.plan.seekFails (intact.seeks + 1) = true := by
      rw [← impairs.seeks]
      exact fun fails' => fails (impairs.seekFails _ fails')
    rw [if_neg fails] at sought
    cases sought
    unfold seek
    dsimp only
    rw [if_neg serves]
    refine ⟨rfl, { impairs with seeks := congrArg (· + 1) impairs.seeks }, ?_⟩
    rintro (⟨call, low, high, -⟩ | ⟨call, low, high, fault⟩)
    · exact absurd low (Nat.not_lt.mpr high)
    · have next : call = source.seeks + 1 := Nat.le_antisymm high low
      rw [next] at fault
      exact fails fault

/-- A length that is measured on a source is measured on a source that it impairs. -/
theorem measure_impaired (impairs : source.Impairs intact) {length : Nat} {after : Source}
    (measured : source.measure = (.ok length, after)) :
    Follows source after (.ok length) intact.measure := by
  unfold measure at measured ⊢
  cases sought : source.seek with
  | mk outcome middle =>
    rw [sought] at measured
    cases outcome with
    | error failure => cases measured
    | ok _ =>
      have follows := seek_impaired impairs sought
      cases sought' : intact.seek with
      | mk outcome' middle' =>
        rw [sought'] at follows
        cases follows.result
        cases measured
        exact ⟨congrArg Except.ok follows.impairs.length.symm, follows.impairs, follows.clear⟩

/-- Unless a call failed, a piece of a source is that of a source that it impairs. -/
theorem readPiece_impaired (impairs : source.Impairs intact) {length : Nat} {part : Part}
    {offset size : Nat} {result : Except DecodeError Bytes} {after : Source}
    (read : source.readPiece length part offset size = (result, after))
    (unbroken : Unbroken result) :
    Follows source after result (intact.readPiece length part offset size) := by
  rw [readPiece_eq] at read ⊢
  by_cases past : length < offset + size
  · rw [if_pos past] at read ⊢
    cases read
    exact ⟨rfl, impairs, not_struck_self _⟩
  · rw [if_neg past] at read ⊢
    cases sought : source.seek with
    | mk outcome middle =>
      rw [sought] at read
      cases outcome with
      | error failure =>
        cases read
        exact absurd rfl (unbroken failure)
      | ok _ =>
        have moved := source.seek_continues.of_eq sought
        have follows := seek_impaired impairs sought
        cases sought' : intact.seek with
        | mk outcome' middle' =>
          rw [sought'] at follows
          cases follows.result
          cases filled : middle.fill offset size with
          | mk outcome last =>
            dsimp only at read
            rw [filled] at read
            cases outcome with
            | error failure =>
              cases read
              exact absurd rfl (unbroken failure)
            | ok _ =>
              obtain ⟨follows', there⟩ := fill_impaired follows.impairs filled
              cases filled' : middle'.fill offset size with
              | mk outcome' last' =>
                rw [filled'] at follows'
                cases follows'.result
                cases read
                dsimp only
                rw [filled']
                have same := follows.impairs.extract there
                have whole := follows.trans moved follows'
                exact ⟨congrArg Except.ok same.symm, whole.impairs, whole.clear⟩

end Source

end EventLog
