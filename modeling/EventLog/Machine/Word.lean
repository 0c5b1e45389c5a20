import EventLog.Error

/-!
# A machine whose words have 64 bits

A machine computes offsets and sizes in words of 64 bits. It stops, with nothing to show for it, at
a sum or a product that does not fit, at a difference below zero and at a slice that is not within
what it is taken of. The operations here say `none` where the machine stops. `Decoding` is a decoder
on such a machine: it can stop, or end with what it decoded or why it could not.
-/

namespace EventLog.Machine

/-- The sum, if it fits into a word. -/
def add (a b : Nat) : Option Nat := if a + b < UInt64.size then some (a + b) else none

/-- The difference, if it is not below zero. -/
def sub (a b : Nat) : Option Nat := if b ≤ a then some (a - b) else none

/-- The product, if it fits into a word. -/
def mul (a b : Nat) : Option Nat := if a * b < UInt64.size then some (a * b) else none

/-- The sum, or the greatest word if it does not fit. -/
def saturatingAdd (a b : Nat) : Nat := min (a + b) (UInt64.size - 1)

/-- How many of `length` places lie from `start` up to `stop`, if these are in order and within. -/
def window (length start stop : Nat) : Option Nat :=
  if start ≤ stop ∧ stop ≤ length then some (stop - start) else none

/-- The part of a list from `start` up to `stop`, if these are in order and within the list. -/
def slice {α : Type} (list : List α) (start stop : Nat) : Option (List α) :=
  (window list.length start stop).map fun size => (list.drop start).take size

/-- How many words there are, as arithmetic needs it. -/
theorem words_eq : UInt64.size = 18446744073709551616 := rfl

/-- A sum that fits is the sum. -/
theorem add_eq {a b : Nat} (fits : a + b < UInt64.size) : add a b = some (a + b) := if_pos fits

/-- A difference that is not below zero is the difference. -/
theorem sub_eq {a b : Nat} (le : b ≤ a) : sub a b = some (a - b) := if_pos le

/-- A product that fits is the product. -/
theorem mul_eq {a b : Nat} (fits : a * b < UInt64.size) : mul a b = some (a * b) := if_pos fits

/-- A window that is in order and within is as long as the distance. -/
theorem window_eq {length start stop : Nat} (order : start ≤ stop) (within : stop ≤ length) :
    window length start stop = some (stop - start) := if_pos ⟨order, within⟩

/-- A slice that is in order and within is the bytes between. -/
theorem slice_eq {bytes : Bytes} {start stop : Nat} (order : start ≤ stop)
    (within : stop ≤ bytes.length) :
    slice bytes start stop = some (bytes.slice start (stop - start)) := by
  rw [slice, window_eq order within]
  rfl

/-- What is computed for each element of a list, if no element makes the machine stop. -/
theorem mapM_eq {α β : Type} {m : Type → Type} [Monad m] [LawfulMonad m] {list : List α}
    {compute : α → m β} {value : α → β} (each : ∀ a ∈ list, compute a = pure (value a)) :
    list.mapM compute = pure (list.map value) := by
  induction list with
  | nil => exact List.mapM_nil
  | cons a rest ih =>
    have later := ih fun b member => each b (List.mem_cons_of_mem a member)
    rw [List.mapM_cons, each a List.mem_cons_self, later, pure_bind, pure_bind, List.map_cons]

/-- A decoder on the machine: nothing if the machine stopped, else what the decoder ends with. -/
abbrev Decoding (α : Type) : Type := ExceptT DecodeError Option α

namespace Decoding

variable {α β : Type}

/-- A decoder that ends with a result, without a stop. -/
def ends (result : Except DecodeError α) : Decoding α := ExceptT.mk (some result)

/-- A decoder that goes on with what the machine computes, or stops with it. -/
def compute (value : Option α) : Decoding α := ExceptT.mk (value.map .ok)

/-- What the machine computed is gone on with. -/
theorem compute_some (value : α) : compute (some value) = ends (.ok value) := rfl

/-- A decoder goes on with what was decoded. -/
theorem ends_ok_bind (value : α) (next : α → Decoding β) : ends (.ok value) >>= next = next value :=
  rfl

/-- A decoder that could not decode does not go on. -/
theorem ends_error_bind (error : DecodeError) (next : α → Decoding β) :
    ends (.error error) >>= next = ends (.error error) := rfl

/-- What was decoded is gone on with. -/
theorem ok_bind (value : α) (next : α → Except DecodeError β) :
    Except.ok value >>= next = next value := rfl

/-- A decoder goes on with what was made of what was decoded. -/
theorem ends_map_bind {γ : Type} (result : Except DecodeError α) (f : α → γ)
    (next : γ → Decoding β) :
    ends (result.map f) >>= next = ends result >>= fun value => next (f value) := by
  cases result <;> rfl

/-- What is made of what was decoded. -/
theorem map_ends (result : Except DecodeError α) (f : α → β) :
    f <$> ends result = ends (result.map f) := by
  cases result <;> rfl

/-- What is delivered at once is what the decoder ends with. -/
theorem pure_eq (value : α) : (pure value : Decoding α) = ends (.ok value) := rfl

/-- Fails unless a size is the expected one. -/
def ensureSize (part : Part) (expected found : Nat) : Decoding Unit :=
  ends (if found ≠ expected then .error (.sizeMismatch part expected found) else .ok ())

/-- Fails unless a signature is the expected one. -/
def ensureSignature (part : Part) (expected found : Bytes) : Decoding Unit :=
  ends (if found ≠ expected then .error (.signatureMismatch part expected found) else .ok ())

/-- A decoder goes on only if a size is the expected one. -/
theorem ensureSize_bind {part : Part} {expected found : Nat} {next : Unit → Decoding α} :
    ensureSize part expected found >>= next =
      if found ≠ expected then ends (.error (.sizeMismatch part expected found)) else next () := by
  unfold ensureSize
  split <;> rfl

/-- A decoder goes on only if a signature is the expected one. -/
theorem ensureSignature_bind {part : Part} {expected found : Bytes} {next : Unit → Decoding α} :
    ensureSignature part expected found >>= next =
      if found ≠ expected then ends (.error (.signatureMismatch part expected found))
      else next () := by
  unfold ensureSignature
  split <;> rfl

end Decoding

end EventLog.Machine
