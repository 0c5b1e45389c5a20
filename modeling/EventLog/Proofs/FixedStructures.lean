import EventLog.Check
import EventLog.Header
import EventLog.Sentinel
import EventLog.Ring.Filled

/-!
# Fixed structures are read from their images alone

The file header and the end of file record are read from the bytes that they are written as and from
no others, whatever follows. Other bytes are refused with the error of the first check that does not
hold, in the order of each structure, and one changed byte of a signature or a size is enough
(`fixed_structures_exact`).
-/

namespace EventLog

/-- A decoder of a fixed structure that makes the given checks and reads what is written by a given
encoder. -/
structure Exact {α : Type} (checks : Checks) (encode : α → Bytes)
    (decode : Bytes → Except DecodeError α) : Prop where
  /-- Bytes are refused with the error of the first check that does not hold. -/
  refuses : ∀ bytes error, decode bytes = .error error ↔
    ∃ check, checks.First bytes check ∧ error = check.error bytes
  /-- A value is read from the bytes that it is written as, whatever follows, and from no others. -/
  accepts : ∀ bytes value, decode bytes = .ok value ↔ encode value <+: bytes
  /-- Bytes past the structure have no influence. -/
  front : ∀ bytes, decode (bytes.take checks.size) = decode bytes
  /-- When one byte changes of a signature or a size, bytes that were accepted are refused because
  of that signature or size, with an error of its class. -/
  altered : ∀ bytes value, decode bytes = .ok value → ∀ check ∈ checks.list, ∀ index,
    check.Covers index → ∀ byte, bytes[index]? ≠ some byte →
      decode (bytes.set index byte) = .error (check.error (bytes.set index byte)) ∧
        (check.error (bytes.set index byte)).category = check.category

/-- A decoder is exact if it lets through what passes its checks and reads images and no other
bytes, and if all images take as many bytes as the checks ask for. -/
theorem Exact.of_pass {α : Type} {checks : Checks} {encode : α → Bytes}
    {decode : Bytes → Except DecodeError α} {ofFields : Bytes → α}
    (passes : ∀ bytes, decode bytes = checks.pass bytes (ofFields bytes))
    (accepts : ∀ bytes value, decode bytes = .ok value ↔ encode value <+: bytes)
    (length : ∀ value, (encode value).length = checks.size) : Exact checks encode decode where
  refuses bytes error := by rw [passes, Checks.pass_eq_error_iff]
  accepts := accepts
  front bytes := by
    cases read : decode bytes with
    | ok value =>
      rw [accepts] at read ⊢
      exact List.prefix_take_iff.mpr ⟨read, Nat.le_of_eq (length value)⟩
    | error error =>
      rw [passes, Checks.pass_eq_error_iff] at read ⊢
      obtain ⟨check, first, rfl⟩ := read
      obtain ⟨before, after, split, -, fails⟩ := id first
      have fits := checks.fits check (split ▸ List.mem_append_right _ List.mem_cons_self)
      exact ⟨check, Checks.first_take.mpr first, (Check.error_take fits fails).symm⟩
  altered bytes value accepted check listed index covers byte changes := by
    have whole : checks.size ≤ bytes.length := by
      rw [← length value]
      exact ((accepts bytes value).mp accepted).length_le
    have held := accepted
    rw [passes, Checks.pass_eq_ok_iff] at held
    refine ⟨?_, check.category_error _⟩
    rw [passes, Checks.pass_eq_error_iff]
    exact ⟨check, Checks.first_altered held.1 whole listed covers changes, rfl⟩

namespace Header

/-- The checks of a file header: its length, its signature, and its sizes. -/
def checks : Checks where
  size := size
  list := [.long .header size, .signed .headerSignature 4 logSignature, .sized .headerSize 0 size,
    .sized .headerSizeCopy 44 size]
  fits := by decide
  apart := by decide

/-- Reading a header makes its checks in order. -/
theorem decode_eq_pass (bytes : Bytes) : decode bytes = checks.pass bytes (ofFields bytes) := by
  rw [Checks.pass_eq_foldr]
  simp only [decode, checks, List.foldr_cons, List.foldr_nil, Check.guard_long, Check.guard_signed,
    Check.guard_sized]

/-- A header is read from the bytes that it is written as, whatever follows, and from no others. -/
theorem decode_eq_ok_iff_encode {bytes : Bytes} {header : Header} :
    decode bytes = .ok header ↔ header.encode <+: bytes := by
  rw [decode_eq_ok_iff]
  refine Bytes.iff_prefix_of_long (fun read => header.length_encode ▸ read.1.long) fun long => ?_
  rw [header.length_encode] at long
  -- Long enough bytes hold the image just if each word of it stands at its offset.
  have enough : 48 ≤ bytes.length := long
  have signature : logSignature.length = 4 := rfl
  have sized {offset : Nat} (room : offset + 4 ≤ bytes.length) :
      bytes.slice offset 4 = Bytes.ofNat 4 size ↔ (bytes.word32 offset).toNat = size :=
    Bytes.slice_eq_ofNat_iff room (by decide)
  rw [Bytes.prefix_iff_prefix_drop]
  simp (disch := omega) only [encode, List.append_assoc, List.nil_prefix, and_true,
    Bytes.append_prefix_drop_iff (Bytes.length_ofNat 4 _),
    Bytes.append_prefix_drop_iff (Bytes.length_ofWord32 _),
    Bytes.append_prefix_drop_iff signature, Nat.reduceAdd, Bytes.slice_eq_ofWord32_iff, sized]
  constructor
  · rintro ⟨valid, rfl⟩
    exact ⟨valid.shown, valid.signed, rfl, rfl, rfl, rfl, rfl, rfl, rfl, rfl, rfl,
      valid.repeated⟩
  · rintro ⟨shown, signed, major, minor, first, last, next, oldest, most, flags, kept, repeated⟩
    refine ⟨⟨long, signed, shown, repeated⟩, ?_⟩
    rw [ofFields, ← major, ← minor, ← first, ← last, ← next, ← oldest, ← most, ← flags, ← kept]

end Header

namespace Sentinel

/-- The checks of an end of file record: its leading size before its length, then its signatures in
order, and its trailing size. -/
def checks : Checks where
  size := size
  list := [.long .sentinelSize 4, .sized .sentinelSize 0 size, .long .sentinel size] ++
    [1, 2, 3, 4].map (fun position =>
      .signed (.sentinelSignature position) (4 * position) (signature position)) ++
    [.sized .sentinelSizeCopy 36 size]
  fits := by decide
  apart := by decide

/-- Reading an end of file record makes its checks in order. -/
theorem decode_eq_pass (bytes : Bytes) : decode bytes = checks.pass bytes (ofFields bytes) := by
  -- The checks of the signatures stop at the lowest position whose signature is wrong.
  have signatures (positions : List Nat) (rest : Except DecodeError Sentinel) :
      (positions.map fun position => Check.signed (.sentinelSignature position) (4 * position)
        (signature position)).foldr (Check.guard bytes) rest =
      (positions.find? fun position => signatureIn bytes position != signature position).elim rest
        fun position => .error (.signatureMismatch (.sentinelSignature position)
          (signature position) (signatureIn bytes position)) := by
    induction positions with
    | nil => rfl
    | cons position positions ih =>
      rw [List.map_cons, List.foldr_cons, ih, List.find?_cons, Check.guard_signed, ← signatureIn]
      by_cases right : signatureIn bytes position = signature position
      · rw [if_neg (not_not_intro right), bne_eq_false_iff_eq.mpr right]
      · rw [if_pos right, bne_iff_ne.mpr right]
        rfl
  rw [Checks.pass_eq_foldr]
  simp only [decode, checks, wrongSignature?, List.foldr_append, signatures, List.foldr_cons,
    List.foldr_nil, Check.guard_long, Check.guard_sized]
  cases [1, 2, 3, 4].find? fun position => signatureIn bytes position != signature position <;> rfl

/-- An end of file record is read from the bytes that it is written as, whatever follows, and from
no others. -/
theorem decode_eq_ok_iff_encode {bytes : Bytes} {sentinel : Sentinel} :
    decode bytes = .ok sentinel ↔ sentinel.encode <+: bytes := by
  rw [decode_eq_ok_iff]
  refine Bytes.iff_prefix_of_long (fun read => sentinel.length_encode ▸ read.1) fun long => ?_
  rw [sentinel.length_encode] at long
  have enough : 40 ≤ bytes.length := long
  have signed (position : Nat) : (signature position).length = 4 := List.length_replicate
  have sized {offset : Nat} (room : offset + 4 ≤ bytes.length) :
      bytes.slice offset 4 = Bytes.ofNat 4 size ↔ (bytes.word32 offset).toNat = size :=
    Bytes.slice_eq_ofNat_iff room (by decide)
  rw [Bytes.prefix_iff_prefix_drop]
  simp (disch := omega) only [encode, List.append_assoc, List.nil_prefix, and_true,
    Bytes.append_prefix_drop_iff (Bytes.length_ofNat 4 _),
    Bytes.append_prefix_drop_iff (Bytes.length_ofWord32 _),
    Bytes.append_prefix_drop_iff (signed _), Nat.reduceAdd, Bytes.slice_eq_ofWord32_iff, sized]
  simp only [signatureIn, List.forall_mem_cons, Nat.reduceMul]
  constructor
  · rintro ⟨-, shown, ⟨one, two, three, four, -⟩, repeated, rfl⟩
    exact ⟨shown, one, two, three, four, rfl, rfl, rfl, rfl, repeated⟩
  · rintro ⟨shown, one, two, three, four, first, last, next, oldest, repeated⟩
    refine ⟨long, shown, ⟨one, two, three, four, List.forall_mem_nil _⟩, repeated, ?_⟩
    rw [ofFields, ← first, ← last, ← next, ← oldest]

end Sentinel

/-- The file header and the end of file record are read exactly: bytes that hold one at their front
give back what was written, all others give the error of the first check that does not hold, bytes
behind the structure do not matter, and no changed byte of a signature or a size goes unnoticed. -/
theorem fixed_structures_exact :
    Exact Header.checks Header.encode Header.decode ∧
      Exact Sentinel.checks Sentinel.encode Sentinel.decode :=
  ⟨.of_pass Header.decode_eq_pass (fun _ _ => Header.decode_eq_ok_iff_encode) Header.length_encode,
    .of_pass Sentinel.decode_eq_pass (fun _ _ => Sentinel.decode_eq_ok_iff_encode)
      Sentinel.length_encode⟩

end EventLog
