import EventLog.StringTable

/-!
# Where the strings of a table stand

One pass over the units of a table finds where each string starts and ends in its bytes: a string
ends after a zero unit, and the next one starts there. `slices_ranges` says that the bytes between
are those of the strings that splitting the units gives.
-/

namespace EventLog.StringTable

/-- Where the strings start and stop that a pass finds in the units from `index` on, if the string
that it is in starts at `start`. -/
def rangesFrom (start index : Nat) : CodeUnits → List (Nat × Nat)
  | [] => []
  | u :: units =>
    if u = 0 then (start, index * 2 + 2) :: rangesFrom (index * 2 + 2) (index + 1) units
    else rangesFrom start (index + 1) units

/-- Where the strings start and stop in the bytes of these units. -/
def ranges (units : CodeUnits) : List (Nat × Nat) := rangesFrom 0 0 units

/-- The bytes of a range. -/
def inRange (bytes : Bytes) (range : Nat × Nat) : Bytes :=
  bytes.slice range.1 (range.2 - range.1)

/-- A pass that has gone through whole strings, and through some units of the next one, finds the
strings that are left. -/
theorem slices_rangesFrom {front : Bytes} {started units : CodeUnits} {start index : Nat}
    (starts : front.length = start) (at_index : start + 2 * started.length = 2 * index)
    (whole : 0 ∉ started) :
    (rangesFrom start index units).map
        (inRange (front ++ (started.toBytes ++ CodeUnits.toBytes units))) =
      (ofUnits (started ++ units)).entries.map encodeEntry := by
  induction units generalizing front started start index with
  | nil =>
    rw [List.append_nil, ofUnits_of_zero_not_mem whole]
    rfl
  | cons u units ih =>
    by_cases zero : u = 0
    · subst zero
      have moved : front ++ (started.toBytes ++ CodeUnits.toBytes (0 :: units)) =
          front ++ (encodeEntry started ++ CodeUnits.toBytes units) := by
        rw [encodeEntry, CodeUnits.toBytes_append, List.append_assoc]
        rfl
      have here : inRange (front ++ (encodeEntry started ++ CodeUnits.toBytes units))
          (start, index * 2 + 2) = encodeEntry started := by
        have size : index * 2 + 2 - start = (encodeEntry started).length := by
          rw [length_encodeEntry]
          omega
        rw [inRange, size]
        exact Bytes.slice_between starts _ _
      have next : (front ++ encodeEntry started).length = index * 2 + 2 := by
        rw [List.length_append, length_encodeEntry]
        omega
      have fresh : index * 2 + 2 + 2 * List.length ([] : CodeUnits) = 2 * (index + 1) := by
        rw [List.length_nil]
        omega
      have later := ih next fresh List.not_mem_nil
      have empty : CodeUnits.toBytes [] = [] := rfl
      rw [empty, List.nil_append, List.nil_append, List.append_assoc] at later
      rw [ofUnits_append_zero whole, rangesFrom, if_pos rfl, List.map_cons, List.map_cons, moved,
        here, later]
    · have moved : front ++ (started.toBytes ++ CodeUnits.toBytes (u :: units)) =
          front ++ (CodeUnits.toBytes (started ++ [u]) ++ CodeUnits.toBytes units) := by
        rw [CodeUnits.toBytes_append, List.append_assoc]
        rfl
      have longer : 0 ∉ started ++ [u] := by
        rw [List.mem_append, List.mem_singleton, not_or]
        exact ⟨whole, fun same => zero same.symm⟩
      have later : start + 2 * (started ++ [u]).length = 2 * (index + 1) := by
        rw [List.length_append, List.length_singleton]
        omega
      rw [rangesFrom, if_neg zero, moved, List.append_cons started u units]
      exact ih starts later longer

/-- The bytes of the ranges are those of the strings. -/
theorem slices_ranges {bytes : Bytes} (even : bytes.length % 2 = 0) :
    (ranges (CodeUnits.ofBytes bytes)).map (inRange bytes) =
      (ofUnits (CodeUnits.ofBytes bytes)).entries.map encodeEntry := by
  have found : (rangesFrom 0 0 (CodeUnits.ofBytes bytes)).map
        (inRange ([] ++ (CodeUnits.toBytes [] ++ CodeUnits.toBytes (CodeUnits.ofBytes bytes)))) =
      (ofUnits ([] ++ CodeUnits.ofBytes bytes)).entries.map encodeEntry :=
    slices_rangesFrom rfl rfl List.not_mem_nil
  have empty : CodeUnits.toBytes [] = [] := rfl
  rw [empty, List.nil_append, List.nil_append, CodeUnits.toBytes_ofBytes even] at found
  exact found

/-- The units of the ranges, read as text, are the strings. -/
theorem textUnits_ranges {bytes : Bytes} (even : bytes.length % 2 = 0) :
    (ranges (CodeUnits.ofBytes bytes)).map
        (fun range => CodeUnits.textUnits (inRange bytes range)) =
      (ofUnits (CodeUnits.ofBytes bytes)).entries := by
  have each : ∀ entry ∈ (ofUnits (CodeUnits.ofBytes bytes)).entries,
      CodeUnits.textUnits (encodeEntry entry) = id entry := by
    intro entry member
    exact (CodeUnits.terminated ((zero_not_mem_ofUnits _).1 entry member)).text
  calc (ranges (CodeUnits.ofBytes bytes)).map
        (fun range => CodeUnits.textUnits (inRange bytes range))
      = ((ranges (CodeUnits.ofBytes bytes)).map (inRange bytes)).map CodeUnits.textUnits := by
        rw [List.map_map]
        rfl
    _ = ((ofUnits (CodeUnits.ofBytes bytes)).entries.map encodeEntry).map CodeUnits.textUnits := by
        rw [slices_ranges even]
    _ = (ofUnits (CodeUnits.ofBytes bytes)).entries.map id := by
        rw [List.map_map]
        exact List.map_congr_left each
    _ = (ofUnits (CodeUnits.ofBytes bytes)).entries := List.map_id _

end EventLog.StringTable
