import EventLog.Bytes.Fields
import EventLog.Error

/-!
# Checks of fixed structures

The header of a file and its end of file record have all their fields at fixed offsets, and reading
one makes a list of checks: there are enough bytes, a signature is right, a size is right. The first
check that does not hold decides the error (`Checks.pass_eq_error_iff`). No two checks look at the
same byte, so that one changed byte fails the one check that looks at it (`Checks.first_altered`).
-/

namespace EventLog

/-- A check of the bytes of a fixed structure. -/
inductive Check where
  /-- The bytes are enough for a part at their front. -/
  | long (part : Part) (size : Nat)
  /-- Four bytes at an offset are a signature. -/
  | signed (part : Part) (offset : Nat) (signature : Bytes)
  /-- A word at an offset is a size. -/
  | sized (part : Part) (offset size : Nat)
  deriving DecidableEq, Repr

namespace Check

/-- The check holds of some bytes. -/
def Holds (bytes : Bytes) : Check → Prop
  | long _ size => size ≤ bytes.length
  | signed _ offset signature => bytes.slice offset 4 = signature
  | sized _ offset size => (bytes.word32 offset).toNat = size

instance decidableHolds (bytes : Bytes) : (check : Check) → Decidable (check.Holds bytes)
  | long _ size => inferInstanceAs (Decidable (size ≤ bytes.length))
  | signed _ offset signature => inferInstanceAs (Decidable (bytes.slice offset 4 = signature))
  | sized _ offset size => inferInstanceAs (Decidable ((bytes.word32 offset).toNat = size))

/-- The error for bytes of which the check does not hold. -/
def error (bytes : Bytes) : Check → DecodeError
  | long part size => .truncated part 0 size bytes.length
  | signed part offset signature => .signatureMismatch part signature (bytes.slice offset 4)
  | sized part offset size => .sizeMismatch part size (bytes.word32 offset).toNat

/-- The class of the error of a check. -/
def category : Check → Category
  | long .. => .bounds
  | signed .. => .signatureMismatch
  | sized .. => .sizeMismatch

/-- The error of a check is of its class, whatever the bytes are. -/
theorem category_error (check : Check) (bytes : Bytes) :
    (check.error bytes).category = check.category := by
  cases check <;> rfl

/-- What comes after the check if it holds, and its error if it does not. -/
def guard {α : Type} (bytes : Bytes) (check : Check) (rest : Except DecodeError α) :
    Except DecodeError α :=
  if check.Holds bytes then rest else .error (check.error bytes)

section Guard

variable {α : Type} {bytes : Bytes} {rest : Except DecodeError α} {part : Part} {offset size : Nat}
  {expected : Bytes}

/-- A check can be made by a test that says when it does not hold. -/
theorem guard_eq_ite {check : Check} {fails : Prop} [Decidable fails]
    (test : fails ↔ ¬check.Holds bytes) :
    check.guard bytes rest = if fails then .error (check.error bytes) else rest := by
  rw [guard]
  by_cases holds : check.Holds bytes
  · rw [if_pos holds, if_neg (mt test.mp (not_not_intro holds))]
  · rw [if_neg holds, if_pos (test.mpr holds)]

/-- Too few bytes are refused. -/
theorem guard_long : (long part size).guard bytes rest =
    if bytes.length < size then .error (.truncated part 0 size bytes.length) else rest :=
  guard_eq_ite Nat.not_le.symm

/-- A wrong signature is refused. -/
theorem guard_signed : (signed part offset expected).guard bytes rest =
    if bytes.slice offset 4 ≠ expected then
      .error (.signatureMismatch part expected (bytes.slice offset 4))
    else rest :=
  guard_eq_ite Iff.rfl

/-- A wrong size is refused. -/
theorem guard_sized : (sized part offset size).guard bytes rest =
    if (bytes.word32 offset).toNat ≠ size then
      .error (.sizeMismatch part size (bytes.word32 offset).toNat)
    else rest :=
  guard_eq_ite Iff.rfl

end Guard

/-- Where the four bytes stand that the check looks at, if it looks at any. -/
def place? : Check → Option Nat
  | long .. => none
  | signed _ offset _ | sized _ offset _ => some offset

/-- The check looks at the byte at an index. -/
def Covers (check : Check) (index : Nat) : Prop :=
  ∃ offset ∈ check.place?, offset ≤ index ∧ index < offset + 4

/-- No byte is looked at by both checks. -/
def Apart (first second : Check) : Prop :=
  ∀ one ∈ first.place?, ∀ other ∈ second.place?, one + 4 ≤ other ∨ other + 4 ≤ one

instance decidableApart : DecidableRel Apart := fun first second =>
  inferInstanceAs (Decidable (∀ one ∈ first.place?, ∀ other ∈ second.place?,
    one + 4 ≤ other ∨ other + 4 ≤ one))

/-- The check asks for no byte past a size. -/
def Fits (size : Nat) : Check → Prop
  | long _ least => least ≤ size
  | signed _ offset _ | sized _ offset _ => offset + 4 ≤ size

instance decidableFits (size : Nat) : (check : Check) → Decidable (check.Fits size)
  | long _ least => inferInstanceAs (Decidable (least ≤ size))
  | signed _ offset _ | sized _ offset _ => inferInstanceAs (Decidable (offset + 4 ≤ size))

/-- A check that does not look at a byte does not mind when it changes. -/
theorem holds_set {check : Check} {index : Nat} (uncovered : ¬check.Covers index) (bytes : Bytes)
    (byte : UInt8) : check.Holds (bytes.set index byte) ↔ check.Holds bytes := by
  have outside {offset : Nat} (place : check.place? = some offset) :
      index < offset ∨ offset + 4 ≤ index := by
    rcases Nat.lt_or_ge index offset with before | starts
    · exact .inl before
    · rcases Nat.lt_or_ge index (offset + 4) with stops | after
      · exact absurd ⟨offset, place, starts, stops⟩ uncovered
      · exact .inr after
  cases check with
  | long part size => rw [Holds, Holds, List.length_set]
  | signed part offset signature => rw [Holds, Holds, Bytes.slice_set_outside (outside rfl)]
  | sized part offset size => rw [Holds, Holds, Bytes.word32_set_outside (outside rfl)]

/-- A check that holds does not hold any more when a byte changes that it looks at. -/
theorem not_holds_set {check : Check} {bytes : Bytes} {index : Nat} {byte : UInt8}
    (holds : check.Holds bytes) (fits : check.Fits bytes.length) (covers : check.Covers index)
    (changes : bytes[index]? ≠ some byte) : ¬check.Holds (bytes.set index byte) := by
  obtain ⟨offset, place, starts, stops⟩ := covers
  cases check with
  | long part size => cases place
  | signed part first signature =>
    cases place
    have room : offset + 4 ≤ bytes.length := fits
    intro still
    exact Bytes.slice_set_inside starts stops (by omega) changes (still.trans holds.symm)
  | sized part first size =>
    cases place
    intro still
    exact Bytes.word32_set_inside starts stops fits changes
      (UInt32.toNat_inj.mp (still.trans holds.symm))

/-- A check sees all that it asks for in a front part that it fits. -/
theorem holds_take {check : Check} {size : Nat} (fits : check.Fits size) (bytes : Bytes) :
    check.Holds (bytes.take size) ↔ check.Holds bytes := by
  cases check with
  | long part least =>
    have small : least ≤ size := fits
    rw [Holds, Holds, List.length_take]
    omega
  | signed part offset signature => rw [Holds, Holds, Bytes.slice_take fits]
  | sized part offset expected => rw [Holds, Holds, Bytes.word32_take fits]

/-- The error for a front part is the one for all bytes. -/
theorem error_take {check : Check} {bytes : Bytes} {size : Nat} (fits : check.Fits size)
    (fails : ¬check.Holds bytes) : check.error (bytes.take size) = check.error bytes := by
  cases check with
  | long part least =>
    have small : least ≤ size := fits
    have short : bytes.length < least := Nat.lt_of_not_le fails
    rw [List.take_of_length_le (by omega)]
  | signed part offset signature => rw [error, error, Bytes.slice_take fits]
  | sized part offset expected => rw [error, error, Bytes.word32_take fits]

end Check

/-- The checks of a fixed structure, in the order in which they are made. -/
structure Checks where
  /-- How many bytes the structure takes. -/
  size : Nat
  /-- The checks. -/
  list : List Check
  /-- No check asks for more than the structure. -/
  fits : ∀ check ∈ list, check.Fits size
  /-- No byte is looked at by two checks. -/
  apart : list.Pairwise Check.Apart

namespace Checks

variable {checks : Checks} {bytes : Bytes}

/-- The check is the first of all that does not hold. -/
def First (checks : Checks) (bytes : Bytes) (check : Check) : Prop :=
  ∃ before after, checks.list = before ++ check :: after ∧
    (∀ earlier ∈ before, earlier.Holds bytes) ∧ ¬check.Holds bytes

/-- The value if all checks hold, and the error of the first that does not otherwise. -/
def pass {α : Type} (checks : Checks) (bytes : Bytes) (value : α) : Except DecodeError α :=
  match checks.list.find? fun check => decide ¬check.Holds bytes with
  | some check => .error (check.error bytes)
  | none => .ok value

/-- The checks are made one after the other. -/
theorem pass_eq_foldr {α : Type} (checks : Checks) (bytes : Bytes) (value : α) :
    checks.pass bytes value = checks.list.foldr (Check.guard bytes) (.ok value) := by
  unfold pass
  induction checks.list with
  | nil => rfl
  | cons check rest ih =>
    rw [List.foldr_cons, ← ih, List.find?_cons, Check.guard]
    by_cases holds : check.Holds bytes
    · rw [if_pos holds, decide_eq_false (not_not_intro holds)]
    · rw [if_neg holds, decide_eq_true holds]

/-- All checks hold if the value is let through. -/
theorem pass_eq_ok_iff {α : Type} {value result : α} :
    checks.pass bytes value = .ok result ↔
      (∀ check ∈ checks.list, check.Holds bytes) ∧ result = value := by
  unfold pass
  cases found : checks.list.find? fun check => decide ¬check.Holds bytes with
  | some check =>
    have failing := List.find?_some found
    have listed := List.mem_of_find?_eq_some found
    exact ⟨nofun, fun h => absurd (h.1 check listed) (of_decide_eq_true failing)⟩
  | none =>
    simp only [List.find?_eq_none, decide_eq_true_eq, Decidable.not_not] at found
    rw [Except.ok.injEq, eq_comm]
    exact ⟨fun same => ⟨found, same⟩, fun h => h.2⟩

/-- The error is that of the first check that does not hold. -/
theorem pass_eq_error_iff {α : Type} {value : α} {error : DecodeError} :
    checks.pass bytes value = .error error ↔
      ∃ check, checks.First bytes check ∧ error = check.error bytes := by
  have first (check : Check) : checks.First bytes check ↔
      (checks.list.find? fun check => decide ¬check.Holds bytes) = some check := by
    simp only [First, List.find?_eq_some_iff_append, decide_eq_true_eq, Bool.not_eq_eq_eq_not,
      Bool.not_true, decide_eq_false_iff_not, Decidable.not_not]
    constructor
    · rintro ⟨before, after, split, hold, fails⟩
      exact ⟨fails, before, after, split, hold⟩
    · rintro ⟨fails, before, after, split, hold⟩
      exact ⟨before, after, split, hold, fails⟩
  simp only [first, pass]
  cases checks.list.find? fun check => decide ¬check.Holds bytes with
  | some check =>
    simp only [Except.error.injEq, Option.some.injEq, exists_eq_left']
    exact eq_comm
  | none => exact ⟨nofun, fun h => nomatch h.choose_spec.1⟩

/-- The first check that does not hold of the front part does not hold of all bytes either, and is
the first there. -/
theorem first_take {check : Check} :
    checks.First (bytes.take checks.size) check ↔ checks.First bytes check := by
  have same {other : Check} (listed : other ∈ checks.list) :
      other.Holds (bytes.take checks.size) ↔ other.Holds bytes :=
    Check.holds_take (checks.fits other listed) bytes
  unfold First
  refine exists_congr fun before => exists_congr fun after => and_congr_right fun split => ?_
  have earlier : ∀ other ∈ before, (other.Holds (bytes.take checks.size) ↔ other.Holds bytes) :=
    fun other member => same (split ▸ List.mem_append_left _ member)
  have last := same (split ▸ List.mem_append_right _ List.mem_cons_self)
  exact and_congr (forall₂_congr earlier) (not_congr last)

/-- After the change of a byte, the check that looks at it is the first that does not hold, if all
checks held before. -/
theorem first_altered (held : ∀ check ∈ checks.list, check.Holds bytes)
    (whole : checks.size ≤ bytes.length) {check : Check} (listed : check ∈ checks.list)
    {index : Nat} (covers : check.Covers index) {byte : UInt8} (changes : bytes[index]? ≠ some byte) :
    checks.First (bytes.set index byte) check := by
  obtain ⟨before, after, split⟩ := List.append_of_mem listed
  have fits : check.Fits bytes.length := by
    have small := checks.fits check listed
    cases check <;> exact Nat.le_trans small whole
  refine ⟨before, after, split, ?_, Check.not_holds_set (held check listed) fits covers changes⟩
  intro earlier member
  have apart : earlier.Apart check := by
    have pairwise := checks.apart
    rw [split, List.pairwise_append] at pairwise
    exact pairwise.2.2 earlier member check List.mem_cons_self
  have uncovered : ¬earlier.Covers index := by
    rintro ⟨one, place, starts, stops⟩
    obtain ⟨other, place', starts', stops'⟩ := covers
    have := apart one place other place'
    omega
  rw [Check.holds_set uncovered]
  exact held earlier (split ▸ List.mem_append_left _ member)

end Checks

end EventLog
