import EventLog.Error

/-!
# Security identifiers

A security identifier has a revision, a 48-bit authority that is stored with its most significant
byte first, and a counted list of 32-bit sub-authorities.
-/

namespace EventLog

/-- A security identifier. -/
structure Sid where
  /-- The revision of the format. -/
  revision : UInt8
  /-- The authority that issued the identifier. -/
  authority : BitVec 48
  /-- The path below the authority. -/
  subAuthorities : List UInt32
  deriving DecidableEq, Repr

namespace Sid

/-- Reads a security identifier from the front of the bytes. The fields in front of the list are
read one by one, so that the first one that is missing is named. -/
def decode (bytes : Bytes) : Except DecodeError Sid :=
  if bytes.length < 1 then .error (.truncated .sidRevision 0 1 bytes.length)
  else if bytes.length < 2 then .error (.truncated .sidCount 1 1 (bytes.length - 1))
  else if bytes.length < 8 then .error (.truncated .sidAuthority 2 6 (bytes.length - 2))
  else
    let count := (bytes.slice 1 1).littleEndian
    if bytes.length < 8 + 4 * count then
      .error (.truncated .sidSubAuthorities 8 (4 * count) (bytes.length - 8))
    else
      .ok { revision := .ofNat (bytes.slice 0 1).littleEndian
            authority := .ofNat 48 (bytes.slice 2 6).bigEndian
            subAuthorities := (List.range count).map fun i => bytes.word32 (8 + 4 * i) }

/-- The bytes are as many as the identifier at their front takes. -/
def Whole (bytes : Bytes) : Prop :=
  8 ≤ bytes.length ∧ 8 + 4 * (bytes.slice 1 1).littleEndian ≤ bytes.length

/-- Whole bytes can be read, and others lack some part. -/
theorem decode_cases (bytes : Bytes) :
    (Whole bytes ∧ ∃ sid, decode bytes = .ok sid) ∨
      (¬Whole bytes ∧ ∃ part offset need available,
        decode bytes = .error (.truncated part offset need available)) := by
  unfold decode Whole
  by_cases front : bytes.length < 8
  · refine .inr ⟨by omega, ?_⟩
    by_cases one : bytes.length < 1
    · exact ⟨_, _, _, _, if_pos one⟩
    · by_cases two : bytes.length < 2
      · exact ⟨_, _, _, _, by rw [if_neg one, if_pos two]⟩
      · exact ⟨_, _, _, _, by rw [if_neg one, if_neg two, if_pos front]⟩
  · rw [if_neg (by omega), if_neg (by omega), if_neg front]
    dsimp only
    by_cases short : bytes.length < 8 + 4 * (bytes.slice 1 1).littleEndian
    · exact .inr ⟨by omega, _, _, _, _, if_pos short⟩
    · exact .inl ⟨by omega, _, if_neg short⟩

/-- An identifier can be read just if its bytes are whole. -/
theorem whole_iff {bytes : Bytes} : Whole bytes ↔ ∃ sid, decode bytes = .ok sid := by
  rcases decode_cases bytes with ⟨whole, reads⟩ | ⟨short, _, _, _, _, fails⟩
  · exact iff_of_true whole reads
  · rw [fails]
    exact iff_of_false short nofun

/-- The bytes of a security identifier with at most 255 sub-authorities. -/
def encode (sid : Sid) : Bytes :=
  sid.revision :: UInt8.ofNat sid.subAuthorities.length ::
    (Bytes.ofNat 6 sid.authority.toNat).reverse ++ sid.subAuthorities.flatMap Bytes.ofWord32

/-- The text of a security identifier, such as `S-1-5-18`. -/
def text (sid : Sid) : String :=
  "-".intercalate ("S" :: toString sid.revision.toNat :: toString sid.authority.toNat ::
    sid.subAuthorities.map fun word => toString word.toNat)

end Sid

end EventLog
