import EventLog.Error

/-!
# UTF-16 text in byte strings

Text in a log is a sequence of 16-bit code units that a zero unit ends. `ofBytes` takes the units
out of a byte string, `cut?` finds the end of a text, and `decode` pairs surrogates into
characters; `encode` and `toBytes` go the other way. `decode_encode` says that decoding undoes
encoding, and `encode_of_decode` that a decoded text has no other spelling. Units that are all ASCII
are read without a look for surrogates, which makes no difference (`text_eq_pairedText`).
-/

namespace EventLog

/-- A sequence of 16-bit code units. -/
abbrev CodeUnits := List UInt16

namespace CodeUnits

/-- The little-endian code units of a byte string; an odd last byte is dropped. -/
def ofBytes : Bytes → CodeUnits
  | low :: high :: rest => UInt16.ofNat (low.toNat + 256 * high.toNat) :: ofBytes rest
  | _ => []

/-- The bytes of code units, two for each, least significant first. -/
def toBytes (units : CodeUnits) : Bytes := units.flatMap Bytes.ofWord16

/-- Every two bytes are a unit. -/
theorem length_ofBytes (bytes : Bytes) : (ofBytes bytes).length = bytes.length / 2 := by
  fun_induction ofBytes bytes with
  | case1 low high rest ih =>
    simp only [List.length_cons, ih]
    omega
  | case2 bytes short =>
    match bytes, short with
    | [], _ => rfl
    | [_], _ => simp
    | low :: high :: rest, short => exact absurd rfl (short low high rest)

/-- Taking the units out of the bytes that they were written to gives them back. -/
@[simp] theorem ofBytes_toBytes_append (units : CodeUnits) (rest : Bytes) :
    ofBytes (units.toBytes ++ rest) = units ++ ofBytes rest := by
  induction units with
  | nil => rfl
  | cons u units ih =>
    have hu : u.toNat < 65536 := u.toNat_lt
    have low : u.toNat % 256 + 256 * (u.toNat / 256 % 256) = u.toNat := by omega
    have ih' : ofBytes (units.flatMap Bytes.ofWord16 ++ rest) = units ++ ofBytes rest := ih
    simp [toBytes, Bytes.ofWord16, Bytes.ofNat, ofBytes, low, ih']

/-- Code units take two bytes each. -/
@[simp] theorem length_toBytes (units : CodeUnits) : units.toBytes.length = 2 * units.length := by
  induction units with
  | nil => rfl
  | cons u units ih =>
    have ih' : (units.flatMap Bytes.ofWord16).length = 2 * units.length := ih
    simp [toBytes, Bytes.ofWord16, ih', Nat.mul_add, Nat.add_comm]

/-- The bytes of a unit are the two that it was read from. -/
theorem ofWord16_ofNat (low high : UInt8) :
    Bytes.ofWord16 (UInt16.ofNat (low.toNat + 256 * high.toNat)) = [low, high] := by
  have room : 0 + 2 ≤ [low, high].length := Nat.le_refl 2
  exact Bytes.ofWord16_word16 room

/-- The bytes of units are those of the first and then those of the others. -/
theorem toBytes_cons (u : UInt16) (units : CodeUnits) :
    toBytes (u :: units) = Bytes.ofWord16 u ++ toBytes units := rfl

/-- The bytes of units in two parts are those of the first and then those of the second. -/
theorem toBytes_append (first second : CodeUnits) :
    toBytes (first ++ second) = toBytes first ++ toBytes second := List.flatMap_append

/-- Units stand in front of others in a byte string just if their bytes stand at its front. -/
theorem ofBytes_eq_append_iff {bytes : Bytes} {units rest : CodeUnits} :
    ofBytes bytes = units ++ rest ↔
      ∃ tail, bytes = units.toBytes ++ tail ∧ ofBytes tail = rest := by
  constructor
  · intro stands
    induction units generalizing bytes with
    | nil => exact ⟨bytes, rfl, stands⟩
    | cons u units ih =>
      match bytes, stands with
      | low :: high :: bytes, stands =>
        obtain ⟨rfl, later⟩ := List.cons.inj stands
        obtain ⟨tail, rfl, last⟩ := ih later
        refine ⟨tail, ?_, last⟩
        rw [toBytes_cons, ofWord16_ofNat]
        rfl
  · rintro ⟨tail, rfl, rfl⟩
    exact ofBytes_toBytes_append units tail

/-- An even number of bytes are the bytes of the units taken out of them. -/
theorem toBytes_ofBytes {bytes : Bytes} (even : bytes.length % 2 = 0) :
    (ofBytes bytes).toBytes = bytes := by
  fun_induction ofBytes bytes with
  | case1 low high rest ih =>
    rw [List.length_cons, List.length_cons, Nat.add_assoc, Nat.add_mod_right] at even
    rw [toBytes_cons, ofWord16_ofNat, ih even]
    rfl
  | case2 bytes short =>
    match bytes, short with
    | [], _ => rfl
    | [_], _ => cases even
    | low :: high :: rest, short => exact absurd rfl (short low high rest)

/-- The text at the front: all units before the first zero unit. -/
def untilZero (units : CodeUnits) : CodeUnits := units.takeWhile (· ≠ 0)

/-- The units of the text at the front of a byte string: those before the first zero unit, or all of
them if there is none. -/
def textUnits (bytes : Bytes) : CodeUnits := (ofBytes bytes).untilZero

/-- Units without a zero unit all pass for text. -/
theorem untilZero_append {text : CodeUnits} (whole : 0 ∉ text) (rest : CodeUnits) :
    untilZero (text ++ rest) = text ++ untilZero rest := by
  have something : ∀ u ∈ text, decide (u ≠ 0) = true := by
    intro u member
    rw [decide_eq_true_eq]
    rintro rfl
    exact whole member
  exact List.takeWhile_append_of_pos something

/-- A zero unit ends the text before it. -/
theorem untilZero_append_zero {text : CodeUnits} (whole : 0 ∉ text) (rest : CodeUnits) :
    untilZero (text ++ 0 :: rest) = text := by
  rw [untilZero_append whole, untilZero, List.takeWhile_cons_of_neg (by decide), List.append_nil]

/-- Splits at the first zero unit, into the text before it and the units after it. -/
def cut? : CodeUnits → Option (CodeUnits × CodeUnits)
  | [] => none
  | u :: rest =>
    if u = 0 then some ([], rest)
    else (cut? rest).map fun (text, after) => (u :: text, after)

/-- What is cut apart joins, with a zero unit between, to what was there; the text has none. -/
theorem cut?_eq_some_iff {units text after : CodeUnits} :
    units.cut? = some (text, after) ↔ units = text ++ 0 :: after ∧ 0 ∉ text := by
  induction units generalizing text with
  | nil => simp [cut?]
  | cons u rest ih =>
    by_cases hu : u = 0
    · subst hu
      cases text with
      | nil => simp [cut?, eq_comm]
      | cons t text =>
        simp only [cut?, if_pos, Option.some.injEq, Prod.mk.injEq, List.cons_append, List.cons.injEq,
          List.mem_cons, not_or]
        constructor
        · simp
        · rintro ⟨⟨rfl, -⟩, h, -⟩
          exact absurd rfl h
    · cases text with
      | nil => simp [cut?, hu]
      | cons t text =>
        simp only [cut?, if_neg hu, Option.map_eq_some_iff, Prod.exists, Prod.mk.injEq,
          List.cons_append, List.cons.injEq, List.mem_cons, not_or]
        constructor
        · rintro ⟨a, b, h, ⟨rfl, rfl⟩, rfl⟩
          exact ⟨⟨rfl, (ih.mp h).1⟩, fun h0 => hu h0.symm, (ih.mp h).2⟩
        · rintro ⟨⟨rfl, h⟩, -, h0⟩
          exact ⟨text, after, ih.mpr ⟨h, h0⟩, ⟨rfl, rfl⟩, rfl⟩

/-- The unit is the first half of a surrogate pair. -/
def isHigh (u : UInt16) : Bool := 0xD800 ≤ u && u < 0xDC00

/-- The unit is the second half of a surrogate pair. -/
def isLow (u : UInt16) : Bool := 0xDC00 ≤ u && u < 0xE000

/-- The character that a surrogate pair stands for. -/
def join (high low : UInt16) : Char :=
  Char.ofNat (0x10000 + (high.toNat - 0xD800) * 0x400 + (low.toNat - 0xDC00))

/-- The characters that the units spell; an unpaired surrogate spells nothing. -/
def decode : CodeUnits → Option (List Char)
  | [] => some []
  | u :: rest =>
    if isHigh u then
      match rest with
      | [] => none
      | v :: rest => if isLow v then (decode rest).map (join u v :: ·) else none
    else if isLow u then none
    else (decode rest).map (Char.ofNat u.toNat :: ·)

/-- The units of a character: one in the basic plane, a surrogate pair beyond. -/
def ofChar (c : Char) : CodeUnits :=
  if c.toNat < 0x10000 then [UInt16.ofNat c.toNat]
  else [UInt16.ofNat (0xD800 + (c.toNat - 0x10000) / 0x400),
    UInt16.ofNat (0xDC00 + (c.toNat - 0x10000) % 0x400)]

/-- The code units that spell the characters. -/
def encode (text : List Char) : CodeUnits := text.flatMap ofChar

/-- A unit that is no surrogate spells the character of its number. -/
theorem decode_cons {u : UInt16} (high : isHigh u = false) (low : isLow u = false)
    (rest : CodeUnits) : decode (u :: rest) = (decode rest).map (Char.ofNat u.toNat :: ·) := by
  rw [decode.eq_def]
  simp only [high, low, Bool.false_eq_true, if_false]

/-- A surrogate pair spells one character. -/
theorem decode_pair {u v : UInt16} (high : isHigh u = true) (low : isLow v = true)
    (rest : CodeUnits) : decode (u :: v :: rest) = (decode rest).map (join u v :: ·) := by
  rw [decode, if_pos high]
  simp only [low, if_true]

/-- The number of a character is a scalar value. -/
theorem toNat_isScalar (c : Char) : c.toNat < 0xD800 ∨ 0xDFFF < c.toNat ∧ c.toNat < 0x110000 := by
  have h := c.valid
  simp only [UInt32.isValidChar, Nat.isValidChar] at h
  exact h

/-- What the units of a character, followed by others, decode to. -/
theorem decode_ofChar_append (c : Char) (rest : CodeUnits) :
    decode (ofChar c ++ rest) = (decode rest).map (c :: ·) := by
  have hc := toNat_isScalar c
  by_cases small : c.toNat < 0x10000
  · have hu : (UInt16.ofNat c.toNat).toNat = c.toNat := by
      simp only [UInt16.toNat_ofNat']
      omega
    have high : isHigh (UInt16.ofNat c.toNat) = false := by
      simp only [isHigh, Bool.and_eq_false_iff, decide_eq_false_iff_not, UInt16.le_iff_toNat_le,
        UInt16.lt_iff_toNat_lt, hu, UInt16.reduceToNat]
      omega
    have low : isLow (UInt16.ofNat c.toNat) = false := by
      simp only [isLow, Bool.and_eq_false_iff, decide_eq_false_iff_not, UInt16.le_iff_toNat_le,
        UInt16.lt_iff_toNat_lt, hu, UInt16.reduceToNat]
      omega
    rw [ofChar, if_pos small, List.singleton_append, decode_cons high low, hu, Char.ofNat_toNat]
  · have hh : (UInt16.ofNat (0xD800 + (c.toNat - 0x10000) / 0x400)).toNat =
        0xD800 + (c.toNat - 0x10000) / 0x400 := by
      simp only [UInt16.toNat_ofNat']
      omega
    have hl : (UInt16.ofNat (0xDC00 + (c.toNat - 0x10000) % 0x400)).toNat =
        0xDC00 + (c.toNat - 0x10000) % 0x400 := by
      simp only [UInt16.toNat_ofNat']
      omega
    have high : isHigh (UInt16.ofNat (0xD800 + (c.toNat - 0x10000) / 0x400)) = true := by
      simp only [isHigh, Bool.and_eq_true, decide_eq_true_eq, UInt16.le_iff_toNat_le,
        UInt16.lt_iff_toNat_lt, hh, UInt16.reduceToNat]
      omega
    have low : isLow (UInt16.ofNat (0xDC00 + (c.toNat - 0x10000) % 0x400)) = true := by
      simp only [isLow, Bool.and_eq_true, decide_eq_true_eq, UInt16.le_iff_toNat_le,
        UInt16.lt_iff_toNat_lt, hl, UInt16.reduceToNat]
      omega
    have joined : join (UInt16.ofNat (0xD800 + (c.toNat - 0x10000) / 0x400))
        (UInt16.ofNat (0xDC00 + (c.toNat - 0x10000) % 0x400)) = c := by
      have whole : 0x10000 + (0xD800 + (c.toNat - 0x10000) / 0x400 - 0xD800) * 0x400 +
          (0xDC00 + (c.toNat - 0x10000) % 0x400 - 0xDC00) = c.toNat := by omega
      rw [join, hh, hl, whole, Char.ofNat_toNat]
    rw [ofChar, if_neg small, List.cons_append, List.singleton_append, decode_pair high low, joined]

/-- Decoding undoes encoding. -/
@[simp] theorem decode_encode (text : List Char) : decode (encode text) = some text := by
  induction text with
  | nil => rfl
  | cons c text ih =>
    have ih' : decode (text.flatMap ofChar) = some text := ih
    rw [encode, List.flatMap_cons, decode_ofChar_append, ih']
    rfl

/-- Only the zero character has a zero unit. -/
theorem zero_not_mem_ofChar {c : Char} (some : c ≠ Char.ofNat 0) : 0 ∉ ofChar c := by
  have bounds := toNat_isScalar c
  have positive : c.toNat ≠ 0 := by
    intro zero
    exact some (by rw [← zero, Char.ofNat_toNat])
  have unit {n : Nat} (low : 0 < n) (high : n < 65536) : 0 ≠ UInt16.ofNat n := by
    intro zero
    have value := congrArg UInt16.toNat zero
    rw [UInt16.toNat_ofNat_of_lt' high] at value
    exact absurd value (Nat.ne_of_lt low)
  unfold ofChar
  split
  · rw [List.mem_singleton]
    exact unit (by omega) (by omega)
  · rw [List.mem_cons, List.mem_singleton, not_or]
    exact ⟨unit (by omega) (by omega), unit (by omega) (by omega)⟩

/-- Characters without a zero character are spelled without a zero unit. -/
theorem zero_not_mem_encode {text : List Char} (whole : Char.ofNat 0 ∉ text) :
    0 ∉ encode text := by
  intro member
  obtain ⟨c, present, zero⟩ := List.mem_flatMap.mp member
  have some : c ≠ Char.ofNat 0 := by
    intro same
    rw [same] at present
    exact whole present
  exact zero_not_mem_ofChar some zero

/-- The number of the character of a scalar value is that value. -/
theorem toNat_ofNat {n : Nat} (valid : n.isValidChar) : (Char.ofNat n).toNat = n := by
  rw [Char.ofNat, dif_pos valid]
  rfl

/-- A unit that is no surrogate is the one unit of its character. -/
theorem ofChar_ofNat {u : UInt16} (high : isHigh u = false) (low : isLow u = false) :
    ofChar (Char.ofNat u.toNat) = [u] := by
  have hu : u.toNat < 65536 := u.toNat_lt
  simp only [isHigh, isLow, Bool.and_eq_false_iff, decide_eq_false_iff_not,
    UInt16.le_iff_toNat_le, UInt16.lt_iff_toNat_lt, UInt16.reduceToNat] at high low
  have valid : Nat.isValidChar u.toNat := by
    simp only [Nat.isValidChar]
    omega
  have hc : (Char.ofNat u.toNat).toNat = u.toNat := toNat_ofNat valid
  rw [ofChar, hc, if_pos hu, UInt16.ofNat_toNat]

/-- A surrogate pair is the pair of units of its character. -/
theorem ofChar_join {u v : UInt16} (high : isHigh u = true) (low : isLow v = true) :
    ofChar (join u v) = [u, v] := by
  simp only [isHigh, isLow, Bool.and_eq_true, decide_eq_true_eq, UInt16.le_iff_toNat_le,
    UInt16.lt_iff_toNat_lt, UInt16.reduceToNat] at high low
  have valid : Nat.isValidChar
      (0x10000 + (u.toNat - 0xD800) * 0x400 + (v.toNat - 0xDC00)) := by
    simp only [Nat.isValidChar]
    omega
  have hc : (join u v).toNat = 0x10000 + (u.toNat - 0xD800) * 0x400 + (v.toNat - 0xDC00) :=
    toNat_ofNat valid
  have first : 0xD800 + ((join u v).toNat - 0x10000) / 0x400 = u.toNat := by omega
  have second : 0xDC00 + ((join u v).toNat - 0x10000) % 0x400 = v.toNat := by omega
  rw [ofChar, if_neg (by omega), first, second, UInt16.ofNat_toNat, UInt16.ofNat_toNat]

/-- A text that units spell has no other spelling. -/
theorem encode_of_decode {units : CodeUnits} {text : List Char} (h : decode units = some text) :
    encode text = units := by
  fun_induction decode units generalizing text with
  | case1 => simp_all [encode]
  | case2 => simp at h
  | case3 u high v rest low ih =>
    obtain ⟨tail, htail, rfl⟩ := Option.map_eq_some_iff.mp h
    have ih' : tail.flatMap ofChar = rest := ih htail
    rw [encode, List.flatMap_cons, ofChar_join high low, ih']
    rfl
  | case4 => simp at h
  | case5 => simp at h
  | case6 u rest high low ih =>
    obtain ⟨tail, htail, rfl⟩ := Option.map_eq_some_iff.mp h
    have ih' : tail.flatMap ofChar = rest := ih htail
    rw [encode, List.flatMap_cons, ofChar_ofNat (by simpa using high) (by simpa using low), ih']
    rfl

/-- All units are ASCII. -/
def isAscii (units : CodeUnits) : Bool := units.all (· ≤ 0x7F)

/-- The text of ASCII units, a character for the low byte of each. -/
def asciiText (units : CodeUnits) : String :=
  String.ofList (units.map fun u => Char.ofNat u.toUInt8.toNat)

/-- The text that units spell with surrogates paired; an unpaired one is an error of the named
part. -/
def pairedText (part : Part) (units : CodeUnits) : Except DecodeError String :=
  match units.decode with
  | some chars => .ok (String.ofList chars)
  | none => .error (.invalidText part)

/-- The text that the units spell; an unpaired surrogate is an error of the named part. ASCII units
are taken one by one, without a look for surrogates. -/
def text (part : Part) (units : CodeUnits) : Except DecodeError String :=
  if units.isAscii then .ok units.asciiText else units.pairedText part

/-- An ASCII unit is no surrogate, and its low byte is all of it. -/
theorem ascii_unit {u : UInt16} (ascii : u ≤ 0x7F) :
    isHigh u = false ∧ isLow u = false ∧ u.toUInt8.toNat = u.toNat := by
  simp only [UInt16.le_iff_toNat_le, UInt16.reduceToNat] at ascii
  refine ⟨?_, ?_, ?_⟩
  · simp only [isHigh, Bool.and_eq_false_iff, decide_eq_false_iff_not, UInt16.le_iff_toNat_le,
      UInt16.lt_iff_toNat_lt, UInt16.reduceToNat]
    omega
  · simp only [isLow, Bool.and_eq_false_iff, decide_eq_false_iff_not, UInt16.le_iff_toNat_le,
      UInt16.lt_iff_toNat_lt, UInt16.reduceToNat]
    omega
  · rw [UInt16.toNat_toUInt8]
    omega

/-- ASCII units spell a character each. -/
theorem decode_of_isAscii {units : CodeUnits} (ascii : units.isAscii = true) :
    decode units = some (units.map fun u => Char.ofNat u.toUInt8.toNat) := by
  induction units with
  | nil => rfl
  | cons u units ih =>
    simp only [isAscii, List.all_cons, Bool.and_eq_true, decide_eq_true_eq] at ascii
    obtain ⟨high, low, byte⟩ := ascii_unit ascii.1
    rw [decode_cons high low, ih ascii.2, List.map_cons, byte]
    rfl

/-- Taking ASCII units one by one gives what pairing surrogates gives. -/
theorem text_eq_pairedText (part : Part) (units : CodeUnits) :
    units.text part = units.pairedText part := by
  unfold text
  split
  · rename_i ascii
    rw [pairedText, decode_of_isAscii ascii]
    rfl
  · rfl

/-- The units that spell a text are read as that text. -/
theorem text_encode (part : Part) (text : String) :
    CodeUnits.text part (encode text.toList) = .ok text := by
  rw [text_eq_pairedText, pairedText, decode_encode]
  dsimp only
  rw [String.ofList_toList]

/-- The units spell some text: every surrogate has its other half next to it. -/
def IsText (units : CodeUnits) : Prop := ∃ text : List Char, encode text = units

/-- Units are read as a text just if they spell it. -/
theorem text_eq_ok_iff {part : Part} {units : CodeUnits} {text : String} :
    units.text part = .ok text ↔ encode text.toList = units := by
  constructor
  · intro read
    rw [text_eq_pairedText, pairedText] at read
    cases decoded : units.decode with
    | none =>
      rw [decoded] at read
      cases read
    | some chars =>
      rw [decoded] at read
      cases read
      rw [String.toList_ofList]
      exact encode_of_decode decoded
  · rintro rfl
    exact text_encode part text

/-- Units can be read just if they spell some text. -/
theorem isText_iff {part : Part} {units : CodeUnits} :
    units.IsText ↔ ∃ text, units.text part = .ok text := by
  constructor
  · rintro ⟨chars, rfl⟩
    refine ⟨String.ofList chars, text_eq_ok_iff.mpr ?_⟩
    rw [String.toList_ofList]
  · rintro ⟨text, read⟩
    exact ⟨text.toList, text_eq_ok_iff.mp read⟩

/-- Units that cannot be read spell no text, and the error says which part they are. -/
theorem text_eq_error {part : Part} {units : CodeUnits} {error : DecodeError}
    (failed : units.text part = .error error) : ¬units.IsText ∧ error = .invalidText part := by
  constructor
  · intro whole
    obtain ⟨text, read⟩ : ∃ text, units.text part = .ok text := isText_iff.mp whole
    rw [read] at failed
    cases failed
  · rw [text_eq_pairedText, pairedText] at failed
    cases decoded : units.decode with
    | none =>
      rw [decoded] at failed
      exact (Except.error.inj failed).symm
    | some chars =>
      rw [decoded] at failed
      cases failed

/-- How many bytes the text takes in UTF-8, with the zero byte that ends it. -/
def utf8Size (part : Part) (units : CodeUnits) : Except DecodeError Nat :=
  (units.text part).map (·.utf8ByteSize + 1)

/-- How many units the text takes, with the zero unit that ends it. -/
def utf16Size (units : CodeUnits) : Nat := units.length + 1

/-- The bytes are those of units and of a zero unit that ends them. -/
structure Terminated (bytes : Bytes) (units : CodeUnits) : Prop where
  /-- Nothing else is there. -/
  exact : toBytes (units ++ [0]) = bytes
  /-- The units that are there end with the zero unit. -/
  stands : ofBytes bytes = units ++ [0]
  /-- That zero unit is the only one. -/
  whole : 0 ∉ units
  /-- Read as text, the bytes are the units. -/
  text : textUnits bytes = units
  /-- The size in UTF-16 is half the number of bytes. -/
  half : units.utf16Size * 2 = bytes.length

/-- Units without a zero unit can be ended by one. -/
theorem terminated {units : CodeUnits} (whole : 0 ∉ units) :
    Terminated (toBytes (units ++ [0])) units := by
  have stands : ofBytes (toBytes (units ++ [0])) = units ++ [0] := by
    have back := ofBytes_toBytes_append (units ++ [0]) []
    rw [List.append_nil] at back
    exact back.trans (List.append_nil _)
  refine ⟨rfl, stands, whole, ?_, ?_⟩
  · rw [textUnits, stands, untilZero_append_zero whole]
  · rw [length_toBytes, List.length_append, List.length_singleton, utf16Size, Nat.mul_comm]

end CodeUnits

end EventLog
