import EventLog.Charset.CharTable
import EventLog.Charset.JapaneseRows

/-!
# The Japanese double-byte set

Bytes up to 0x80 stand for themselves and 0xA1 to 0xDF for half-width kana; the other bytes, without
0xA0 and the last three, lead a pair. The pairs of a lead byte make up two rows of 94. Pairs led by
0xF0 to 0xF9 are left to users and read as private characters. A trail that makes no pair is read
again.
-/

namespace EventLog.Charset.Japanese

/-- The characters by number. -/
def table : CharTable := .ofRows 94 rows

/-- The numbers under which characters are written: one of the two vendor areas, of which the other
repeats the characters, is left out. -/
def numbers : Std.HashMap Nat Nat :=
  table.numbers fun number => !(8272 ≤ number && number ≤ 8835)

/-- The byte leads a pair. -/
def isLead (b : UInt8) : Bool := (0x81 ≤ b && b ≤ 0x9F) || (0xE0 ≤ b && b ≤ 0xFC)

/-- The place of a trail byte after its lead byte, from 0 to 187. -/
def place? (trail : UInt8) : Option Nat :=
  if 0x40 ≤ trail ∧ trail ≤ 0x7E then some (trail.toNat - 0x40)
  else if 0x80 ≤ trail ∧ trail ≤ 0xFC then some (trail.toNat - 0x41)
  else none

/-- The character of a pair. -/
def pair? (lead trail : UInt8) : Option Char :=
  (place? trail).bind fun place =>
    if 0xF0 ≤ lead ∧ lead ≤ 0xF9 then
      some (Char.ofNat (0xE000 + 188 * (lead.toNat - 0xF0) + place))
    else table.get? (188 * (lead.toNat - if lead < 0xA0 then 0x81 else 0xC1) + place)

/-- The pair of a number. -/
def pairOf (number : Nat) : Bytes :=
  let lead := number / 188
  let place := number % 188
  [UInt8.ofNat (lead + if lead < 0x1F then 0x81 else 0xC1),
    UInt8.ofNat (place + if place < 0x3F then 0x40 else 0x41)]

/-- The set. -/
def charset : Charset where
  next b rest :=
    if b ≤ 0x80 then ([Char.ofNat b.toNat], 0)
    else if 0xA1 ≤ b ∧ b ≤ 0xDF then ([Char.ofNat (0xFF61 + (b.toNat - 0xA1))], 0)
    else
      match (if isLead b then rest.head?.bind (pair? b) else none) with
      | some c => ([c], 1)
      | none => ([replacement], 0)
  encodeChar? c :=
    if c.toNat ≤ 0x80 then some [UInt8.ofNat c.toNat]
    else if c.toNat = 0xA5 then some [0x5C]
    else if c.toNat = 0x203E then some [0x7E]
    else if 0xFF61 ≤ c.toNat ∧ c.toNat ≤ 0xFF9F then some [UInt8.ofNat (c.toNat - 0xFF61 + 0xA1)]
    else (numbers[c.toNat]?).map pairOf

end EventLog.Charset.Japanese
