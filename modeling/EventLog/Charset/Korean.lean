import EventLog.Charset.CharTable
import EventLog.Charset.KoreanRows

/-!
# The Korean double-byte set

Bytes below 0x80 are ASCII and all others but 0x80 and 0xFF lead a pair. A trail that makes no pair
is read again if it is ASCII, and dropped with its lead byte if not.
-/

namespace EventLog.Charset.Korean

/-- The characters by number. -/
def table : CharTable := .ofRows 190 rows

/-- The numbers of the characters. -/
def numbers : Std.HashMap Nat Nat := table.numbers fun _ => true

/-- The character of a pair. -/
def pair? (lead trail : UInt8) : Option Char :=
  if 0x41 ≤ trail ∧ trail ≤ 0xFE then
    table.get? (190 * (lead.toNat - 0x81) + (trail.toNat - 0x41))
  else none

/-- The pair of a number. -/
def pairOf (number : Nat) : Bytes :=
  [UInt8.ofNat (0x81 + number / 190), UInt8.ofNat (0x41 + number % 190)]

/-- What a lead byte and the bytes after it stand for. -/
def pair (lead : UInt8) : Bytes → List Char × Nat
  | [] => ([replacement], 0)
  | trail :: _ =>
    match pair? lead trail with
    | some c => ([c], 1)
    | none => ([replacement], if trail < 0x80 then 0 else 1)

/-- The set. -/
def charset : Charset where
  next b rest :=
    if b < 0x80 then ([Char.ofNat b.toNat], 0)
    else if 0x81 ≤ b ∧ b ≤ 0xFE then pair b rest
    else ([replacement], 0)
  encodeChar? c :=
    if c.toNat < 0x80 then some [UInt8.ofNat c.toNat] else (numbers[c.toNat]?).map pairOf

end EventLog.Charset.Korean
