import EventLog.Text.CodeUnits

/-!
# Paired surrogates

A surrogate stands for half a character, and means something only beside its other half. `Paired`
says of all units at once, by their places, that no surrogate is alone; `paired_iff` that these are
just the units that spell characters, although the decoder goes through them from the front and
takes one or two at a time.
-/

namespace EventLog

namespace CodeUnits

/-- No surrogate stands alone. -/
structure Paired (units : CodeUnits) : Prop where
  /-- Each first half is followed by a second half. -/
  high : ∀ i u, units[i]? = some u → isHigh u = true →
    ∃ v, units[i + 1]? = some v ∧ isLow v = true
  /-- Each second half follows a first half. -/
  low : ∀ i v, units[i]? = some v → isLow v = true →
    ∃ j u, i = j + 1 ∧ units[j]? = some u ∧ isHigh u = true

/-- A first half is no second half. -/
theorem isLow_eq_false {u : UInt16} (high : isHigh u = true) : isLow u = false := by
  simp only [isHigh, isLow, Bool.and_eq_true, Bool.and_eq_false_iff, decide_eq_true_eq,
    decide_eq_false_iff_not, UInt16.le_iff_toNat_le, UInt16.lt_iff_toNat_lt,
    UInt16.reduceToNat] at high ⊢
  omega

/-- A unit that is no surrogate needs no other half. -/
theorem paired_single {u : UInt16} (high : isHigh u = false) (low : isLow u = false) :
    Paired [u] where
  high i v here half := by
    rw [List.getElem?_singleton] at here
    split at here
    · cases here
      exact absurd half (by rw [high]; exact nofun)
    · cases here
  low i v here half := by
    rw [List.getElem?_singleton] at here
    split at here
    · cases here
      exact absurd half (by rw [low]; exact nofun)
    · cases here

/-- A first half and a second half need nothing else. -/
theorem paired_pair {u v : UInt16} (high : isHigh u = true) (low : isLow v = true) :
    Paired [u, v] where
  high i w here half := by
    match i, here with
    | 0, _ => exact ⟨v, rfl, low⟩
    | 1, here =>
      cases here
      rw [isLow_eq_false half] at low
      cases low
  low i w here half := by
    match i, here with
    | 0, here =>
      cases here
      rw [isLow_eq_false high] at half
      cases half
    | 1, _ => exact ⟨0, u, rfl, rfl, high⟩

/-- Paired units do not need what follows them, nor does that need them. -/
theorem paired_append_iff {front : CodeUnits} (whole : Paired front) (rest : CodeUnits) :
    Paired (front ++ rest) ↔ Paired rest := by
  have later (i : Nat) : (front ++ rest)[front.length + i]? = rest[i]? := by
    rw [List.getElem?_append_right (Nat.le_add_right _ _), Nat.add_sub_cancel_left]
  constructor
  · intro paired
    refine ⟨?_, ?_⟩
    · intro i u here half
      obtain ⟨v, next, other⟩ := paired.high (front.length + i) u ((later i).trans here) half
      rw [Nat.add_assoc, later] at next
      exact ⟨v, next, other⟩
    · intro i v here half
      obtain ⟨j, u, same, before, other⟩ :=
        paired.low (front.length + i) v ((later i).trans here) half
      by_cases inside : j < front.length
      · -- A first half at the end of the front would have no second half there.
        rw [List.getElem?_append_left inside] at before
        obtain ⟨w, next, -⟩ := whole.high j u before other
        obtain ⟨room, -⟩ := List.getElem?_eq_some_iff.mp next
        omega
      · obtain ⟨k, rfl⟩ := Nat.exists_eq_add_of_le (Nat.le_of_not_lt inside)
        rw [later] at before
        exact ⟨k, u, by omega, before, other⟩
  · intro paired
    refine ⟨?_, ?_⟩
    · intro i u here half
      by_cases inside : i < front.length
      · rw [List.getElem?_append_left inside] at here
        obtain ⟨v, next, other⟩ := whole.high i u here half
        obtain ⟨room, -⟩ := List.getElem?_eq_some_iff.mp next
        exact ⟨v, (List.getElem?_append_left room).trans next, other⟩
      · obtain ⟨k, rfl⟩ := Nat.exists_eq_add_of_le (Nat.le_of_not_lt inside)
        rw [later] at here
        obtain ⟨v, next, other⟩ := paired.high k u here half
        exact ⟨v, by rw [Nat.add_assoc, later, next], other⟩
    · intro i v here half
      by_cases inside : i < front.length
      · rw [List.getElem?_append_left inside] at here
        obtain ⟨j, u, rfl, before, other⟩ := whole.low i v here half
        exact ⟨j, u, rfl, (List.getElem?_append_left (by omega)).trans before, other⟩
      · obtain ⟨k, rfl⟩ := Nat.exists_eq_add_of_le (Nat.le_of_not_lt inside)
        rw [later] at here
        obtain ⟨j, u, rfl, before, other⟩ := paired.low k v here half
        exact ⟨front.length + j, u, by omega, (later j).trans before, other⟩

/-- Units can be decoded just if no surrogate stands alone. -/
theorem paired_iff {units : CodeUnits} : Paired units ↔ (decode units).isSome = true := by
  fun_induction decode units with
  | case1 =>
    refine iff_of_true ⟨?_, ?_⟩ rfl <;>
    · intro i u here
      cases here
  | case2 u high =>
    refine iff_of_false ?_ Bool.false_ne_true
    intro paired
    obtain ⟨v, next, -⟩ := paired.high 0 u rfl high
    cases next
  | case3 u high v rest low ih =>
    have split := paired_append_iff (paired_pair high low) rest
    rw [List.cons_append, List.singleton_append] at split
    rw [split, ih, Option.isSome_map]
  | case4 u high v rest low =>
    refine iff_of_false ?_ Bool.false_ne_true
    intro paired
    obtain ⟨w, next, other⟩ := paired.high 0 u rfl high
    cases next
    exact low other
  | case5 u rest high low =>
    refine iff_of_false ?_ Bool.false_ne_true
    intro paired
    obtain ⟨_, _, before, -⟩ := paired.low 0 u rfl low
    cases before
  | case6 u rest high low ih =>
    have split := paired_append_iff
      (paired_single (eq_false_of_ne_true high) (eq_false_of_ne_true low)) rest
    rw [List.singleton_append] at split
    rw [split, ih, Option.isSome_map]

end CodeUnits

end EventLog
