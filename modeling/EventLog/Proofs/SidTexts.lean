import EventLog.Bytes.Fields
import EventLog.Sid

/-!
# Security identifiers are told apart by their texts

A security identifier is read from the bytes that it is written as and from no others, whatever
follows (`decode_eq_ok_iff`). Its text can be read back (`read?_text`), so that two identifiers have
the same text only if they are written as the same bytes (`text_identifies`).
-/

namespace EventLog.Sid

variable {bytes : Bytes} {sid : Sid}

/-- How many sub-authorities the bytes announce. -/
def announced (bytes : Bytes) : Nat := (bytes.slice 1 1).littleEndian

/-- How many bytes the identifier at the front of the bytes takes. -/
def extent (bytes : Bytes) : Nat := 8 + 4 * announced bytes

/-- A byte announces less than 256 sub-authorities. -/
theorem announced_lt (there : 1 < bytes.length) : announced bytes < 256 := by
  have most := Bytes.littleEndian_lt (bytes.slice 1 1)
  rw [Bytes.length_slice, Nat.min_eq_left (by omega)] at most
  exact most

/-- The fields of an identifier at their offsets. -/
def ofFields (bytes : Bytes) : Sid where
  revision := .ofNat (bytes.slice 0 1).littleEndian
  authority := .ofNat 48 (bytes.slice 2 6).bigEndian
  subAuthorities := (List.range (announced bytes)).map fun i => bytes.word32 (8 + 4 * i)

/-- The authority is the number that its six bytes hold. -/
theorem authority_ofFields (there : 8 ≤ bytes.length) :
    (ofFields bytes).authority.toNat = (bytes.slice 2 6).bigEndian := by
  have most := Bytes.littleEndian_lt (bytes.slice 2 6).reverse
  rw [List.length_reverse, Bytes.length_slice, Nat.min_eq_left (by omega)] at most
  rw [ofFields, BitVec.toNat_ofNat]
  exact Nat.mod_eq_of_lt most

/-- Whole bytes are read field by field. -/
theorem decode_of_whole (whole : Whole bytes) : decode bytes = .ok (ofFields bytes) := by
  obtain ⟨front, room⟩ := whole
  unfold decode
  rw [if_neg (by omega), if_neg (by omega), if_neg (by omega)]
  dsimp only
  rw [if_neg (by omega)]
  rfl

/-- An identifier takes eight bytes and four for each sub-authority. -/
theorem length_encode (sid : Sid) : sid.encode.length = 8 + 4 * sid.subAuthorities.length := by
  have words : (sid.subAuthorities.flatMap Bytes.ofWord32).length =
      4 * sid.subAuthorities.length := by
    induction sid.subAuthorities with
    | nil => rfl
    | cons word words ih =>
      rw [List.flatMap_cons, List.length_append, Bytes.length_ofWord32, ih, List.length_cons]
      omega
  rw [encode, List.length_append, List.length_cons, List.length_cons, List.length_reverse,
    Bytes.length_ofNat, words]

/-- An identifier stands at the front of bytes if its fields are those at their offsets. -/
theorem encode_prefix_iff (few : sid.subAuthorities.length ≤ 255)
    (room : 8 + 4 * sid.subAuthorities.length ≤ bytes.length) :
    sid.encode <+: bytes ↔ announced bytes = sid.subAuthorities.length ∧ sid = ofFields bytes := by
  have spelled : sid.encode <+: bytes ↔
      [sid.revision] ++ ([UInt8.ofNat sid.subAuthorities.length] ++
        ((Bytes.ofNat 6 sid.authority.toNat).reverse ++
          sid.subAuthorities.flatMap Bytes.ofWord32)) <+: bytes.drop 0 := by
    rw [List.drop_zero]
    rfl
  have width : (Bytes.ofNat 6 sid.authority.toNat).reverse.length = 6 := by
    rw [List.length_reverse, Bytes.length_ofNat]
  have small : sid.authority.toNat < Bytes.capacity 6 := sid.authority.isLt
  rw [spelled, Bytes.append_prefix_drop_iff List.length_singleton,
    Bytes.append_prefix_drop_iff List.length_singleton, Bytes.append_prefix_drop_iff width,
    Bytes.words_prefix_drop_iff (by omega), Bytes.slice_eq_singleton_iff (by omega),
    Bytes.slice_eq_singleton_iff (by omega), Bytes.slice_eq_reverse_ofNat_iff (by omega) small]
  simp only [Nat.reduceAdd]
  constructor
  · rintro ⟨revision, count, authority, words⟩
    have same : announced bytes = sid.subAuthorities.length := by
      have numbers := congrArg UInt8.toNat count
      have least : (bytes.slice 1 1).littleEndian < UInt8.size := announced_lt (by omega)
      rw [UInt8.toNat_ofNat_of_lt' (Nat.lt_succ_of_le few), UInt8.toNat_ofNat_of_lt' least]
        at numbers
      exact numbers.symm
    refine ⟨same, ?_⟩
    have number : BitVec.ofNat 48 (bytes.slice 2 6).bigEndian = sid.authority := by
      rw [authority, BitVec.ofNat_toNat, BitVec.setWidth_eq]
    rw [ofFields, same, ← words, ← revision, number]
  · rintro ⟨count, same⟩
    have authority := @authority_ofFields bytes (by omega)
    rw [← same] at authority
    have words := congrArg Sid.subAuthorities same
    rw [ofFields, count] at words
    exact ⟨congrArg Sid.revision same, congrArg UInt8.ofNat count.symm, authority.symm, words⟩

/-- An identifier is read from the bytes that it is written as, whatever follows, and from no
others; it has no more sub-authorities than a byte can count. -/
theorem decode_eq_ok_iff :
    decode bytes = .ok sid ↔ sid.subAuthorities.length ≤ 255 ∧ sid.encode <+: bytes := by
  constructor
  · intro read
    have whole : Whole bytes := whole_iff.mpr ⟨sid, read⟩
    rw [decode_of_whole whole, Except.ok.injEq] at read
    have count : announced bytes = sid.subAuthorities.length := by
      rw [← read, ofFields, List.length_map, List.length_range]
    have room : 8 + 4 * announced bytes ≤ bytes.length := whole.2
    have few : announced bytes < 256 := announced_lt (by omega)
    exact ⟨by omega, (encode_prefix_iff (by omega) (by omega)).mpr ⟨count, read.symm⟩⟩
  · rintro ⟨few, image⟩
    have room := image.length_le
    rw [length_encode] at room
    obtain ⟨count, same⟩ := (encode_prefix_iff few room).mp image
    have whole : Whole bytes := ⟨by omega, by rw [announced] at count; omega⟩
    rw [decode_of_whole whole, ← same]

/-- The bytes that an identifier was read from are, as far as it goes, those that it is written
as. -/
theorem take_extent (read : decode bytes = .ok sid) : bytes.take (extent bytes) = sid.encode := by
  obtain ⟨few, image⟩ := decode_eq_ok_iff.mp read
  have room := image.length_le
  rw [length_encode] at room
  have count := ((encode_prefix_iff few room).mp image).1
  rw [extent, count, ← length_encode]
  exact (List.prefix_iff_eq_take.mp image).symm

/-- Identifiers that can be read are written as different bytes. -/
theorem encode_inj {other : Sid} (few : sid.subAuthorities.length ≤ 255)
    (few' : other.subAuthorities.length ≤ 255) : sid.encode = other.encode ↔ sid = other := by
  constructor
  · intro same
    have first : decode sid.encode = .ok sid := decode_eq_ok_iff.mpr ⟨few, List.prefix_rfl⟩
    have second : decode other.encode = .ok other := decode_eq_ok_iff.mpr ⟨few', List.prefix_rfl⟩
    rw [same, second] at first
    exact (Except.ok.inj first).symm
  · exact congrArg encode

/-- The number that decimal digits write; nothing else will do, and neither will no digits. -/
def readDecimal? (digits : List Char) : Option Nat :=
  if digits ≠ [] ∧ digits.all Char.isDigit then some (Nat.ofDigitChars 10 digits 0) else none

/-- A number is read back from the digits that it is written in. -/
theorem readDecimal?_toDigits (number : Nat) :
    readDecimal? (Nat.toDigits 10 number) = some number := by
  have digits : (Nat.toDigits 10 number).all Char.isDigit = true :=
    List.all_eq_true.mpr fun c member => Nat.isDigit_of_mem_toDigits (by decide) (by decide) member
  rw [readDecimal?, if_pos ⟨Nat.toDigits_ne_nil, digits⟩,
    Nat.ofDigitChars_toDigits (by decide) (by decide)]

/-- Reads an identifier from its text. -/
def read? (text : String) : Option Sid :=
  match text.toList.splitOn '-' with
  | ['S'] :: revision :: authority :: path => do
    let revision ← readDecimal? revision
    let authority ← readDecimal? authority
    let path ← path.mapM readDecimal?
    return ⟨.ofNat revision, .ofNat 48 authority, path.map .ofNat⟩
  | _ => none

/-- The numbers that an identifier consists of. -/
def numbers (sid : Sid) : List Nat :=
  sid.revision.toNat :: sid.authority.toNat :: sid.subAuthorities.map UInt32.toNat

/-- The parts of the text of an identifier: a letter, and its numbers in decimal digits. -/
def textParts (sid : Sid) : List (List Char) := ['S'] :: sid.numbers.map (Nat.toDigits 10)

/-- The text of an identifier is its parts with a hyphen between. -/
theorem toList_text (sid : Sid) : sid.text.toList = ['-'].intercalate sid.textParts := by
  have digits (n : Nat) : (toString n).toList = Nat.toDigits 10 n := by
    rw [← String.toList_ofList (l := Nat.toDigits 10 n), ← Nat.repr_eq_ofList_toDigits]
    rfl
  have hyphen : "-".toList = ['-'] := rfl
  have letter : "S".toList = ['S'] := rfl
  simp only [text, String.toList_intercalate, List.map_cons, List.map_map, Function.comp_def,
    digits, hyphen, letter, textParts, numbers]

/-- No part of the text holds a hyphen. -/
theorem hyphen_not_mem {part : List Char} (member : part ∈ textParts sid) : '-' ∉ part := by
  rcases List.mem_cons.mp member with rfl | member
  · decide
  · obtain ⟨number, -, rfl⟩ := List.mem_map.mp member
    intro hyphen
    exact absurd (Nat.isDigit_of_mem_toDigits (by decide) (by decide) hyphen) (by decide)

/-- An identifier is read back from its text. -/
theorem read?_text (sid : Sid) : read? sid.text = some sid := by
  have parts : sid.text.toList.splitOn '-' = sid.textParts := by
    rw [toList_text, List.splitOn_intercalate '-' (fun _ => hyphen_not_mem) (List.cons_ne_nil _ _)]
  have path : ((sid.subAuthorities.map UInt32.toNat).map (Nat.toDigits 10)).mapM readDecimal? =
      some (sid.subAuthorities.map UInt32.toNat) := by
    rw [List.map_map]
    induction sid.subAuthorities with
    | nil => rfl
    | cons word words ih =>
      rw [List.map_cons, List.mapM_cons, Function.comp_apply, readDecimal?_toDigits, ih]
      rfl
  have words : (sid.subAuthorities.map UInt32.toNat).map UInt32.ofNat = sid.subAuthorities := by
    simp only [List.map_map, Function.comp_def, UInt32.ofNat_toNat, List.map_id']
  rw [read?, parts]
  simp only [textParts, numbers, List.map_cons, readDecimal?_toDigits, path, bind, Option.bind,
    pure, words, UInt8.ofNat_toNat, BitVec.ofNat_toNat, BitVec.setWidth_eq]

/-- Different identifiers have different texts. -/
theorem text_inj {other : Sid} : sid.text = other.text ↔ sid = other := by
  constructor
  · intro same
    have back := read?_text sid
    rw [same, read?_text] at back
    exact (Option.some.inj back).symm
  · exact congrArg text

/-- What a security identifier that was read says about its bytes. -/
structure ReadFrom (sid : Sid) (bytes : Bytes) : Prop where
  /-- The first byte is the revision. -/
  revision : bytes[0]? = some sid.revision
  /-- The second byte is the number of the sub-authorities. -/
  count : bytes[1]? = some (.ofNat sid.subAuthorities.length)
  /-- The next six bytes are the authority, most significant byte first. -/
  authority : sid.authority.toNat = (bytes.slice 2 6).bigEndian
  /-- The sub-authorities are the words from the eighth byte on, least significant byte first. -/
  subAuthorities : ∀ i < sid.subAuthorities.length,
    sid.subAuthorities[i]? = some (bytes.word32 (8 + 4 * i))
  /-- These are the bytes that the identifier is written as; the later ones do not matter. -/
  front : bytes.take (extent bytes) = sid.encode

/-- An identifier that was read says what its bytes say. -/
theorem readFrom_of_decode (read : decode bytes = .ok sid) : ReadFrom sid bytes := by
  obtain ⟨few, image⟩ := decode_eq_ok_iff.mp read
  have room := image.length_le
  rw [length_encode] at room
  obtain ⟨count, same⟩ := (encode_prefix_iff few room).mp image
  obtain ⟨rest, joined⟩ := id image
  exact {
    revision := by
      rw [← joined]
      rfl
    count := by
      rw [← joined]
      rfl
    authority := by
      rw [same]
      exact authority_ofFields (by omega)
    subAuthorities := by
      intro i within
      have words := congrArg Sid.subAuthorities same
      rw [ofFields, count] at words
      rw [words, List.getElem?_map, List.getElem?_range within]
      rfl
    front := take_extent read }

/-- An identifier is read just from bytes that are whole, and says what they say; one that a byte
can count the sub-authorities of is read back from what it is written as, and each from its text.
Of two that were read, the texts are the same just if the bytes are, as far as each identifier
goes. -/
theorem text_identifies :
    (∀ bytes, (∃ sid, decode bytes = .ok sid) ↔ Whole bytes) ∧
      (∀ bytes sid, decode bytes = .ok sid → ReadFrom sid bytes) ∧
      (∀ sid rest, sid.subAuthorities.length ≤ 255 → decode (sid.encode ++ rest) = .ok sid) ∧
      (∀ sid, read? sid.text = some sid) ∧
      ∀ bytes other first second, decode bytes = .ok first → decode other = .ok second →
        (first.text = second.text ↔ bytes.take (extent bytes) = other.take (extent other)) := by
  refine ⟨fun _ => whole_iff.symm, fun _ _ => readFrom_of_decode, ?_, read?_text, ?_⟩
  · intro sid rest few
    exact decode_eq_ok_iff.mpr ⟨few, List.prefix_append _ rest⟩
  · intro bytes other first second read read'
    rw [take_extent read, take_extent read', text_inj,
      encode_inj (decode_eq_ok_iff.mp read).1 (decode_eq_ok_iff.mp read').1]

/-- The identifier of the system itself. -/
def localSystem : Sid := ⟨1, 5, [18]⟩

/-- The identifier of a user of a domain. -/
def domainUser : Sid := ⟨1, 5, [21, 1255293742, 527248014, 312360114, 1001]⟩

/-- Two identifiers, one of them with another byte behind it, are read and told apart by their texts
and by their bytes. -/
theorem accounts_told_apart :
    decode (localSystem.encode ++ [7]) = .ok localSystem ∧
      ReadFrom localSystem (localSystem.encode ++ [7]) ∧
      decode domainUser.encode = .ok domainUser ∧
      read? "S-1-5-18" = some localSystem ∧ localSystem.text ≠ domainUser.text := by
  obtain ⟨-, tells, reads, readsText, same⟩ := text_identifies
  have system : decode (localSystem.encode ++ [7]) = .ok localSystem := reads _ _ (by decide)
  have user : decode (domainUser.encode ++ []) = .ok domainUser := reads _ _ (by decide)
  have text : localSystem.text = "S-1-5-18" := by decide
  refine ⟨system, tells _ _ system, user, ?_, ?_⟩
  · rw [← text]
    exact readsText localSystem
  · rw [ne_eq, same _ _ _ _ system user]
    decide

end EventLog.Sid
