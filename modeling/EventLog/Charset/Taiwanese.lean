import EventLog.Charset.CharTable
import EventLog.Charset.TaiwaneseRows

/-!
# The traditional Chinese double-byte set

Bytes below 0x80 are ASCII and all others but 0x80 and 0xFF lead a pair. Four pairs stand for a letter
with a combining mark. A character is written as the lowest of its pairs, except that pairs led by
0x81 to 0xA0, a supplement of Hong Kong, are read but not written: a character that has one cannot be
written even where it has a higher pair. A trail that makes no pair is read again if it is ASCII, and
dropped with its lead byte if not.
-/

namespace EventLog.Charset.Taiwanese

/-- The characters by number, without those that stand for two. -/
def table : CharTable := .ofRows 157 rows

/-- The place of a trail byte after its lead byte, from 0 to 156. -/
def place? (trail : UInt8) : Option Nat :=
  if 0x40 ≤ trail ∧ trail ≤ 0x7E then some (trail.toNat - 0x40)
  else if 0xA1 ≤ trail ∧ trail ≤ 0xFE then some (trail.toNat - 0x62)
  else none

/-- The letter with its mark that has a number: an E with circumflex, and a macron or a caron. -/
def marked? (number : Nat) : Option (List Char) :=
  if number = 1133 then some ['\u00ca', '\u0304']
  else if number = 1135 then some ['\u00ca', '\u030c']
  else if number = 1164 then some ['\u00ea', '\u0304']
  else if number = 1166 then some ['\u00ea', '\u030c']
  else none

/-- The characters of a pair. -/
def pair? (lead trail : UInt8) : Option (List Char) :=
  (place? trail).bind fun place =>
    let number := 157 * (lead.toNat - 0x81) + place
    (marked? number).or ((table.get? number).map fun c => [c])

/-- The numbers of the characters, the lowest of several. -/
def numbers : Std.HashMap Nat Nat := table.numbers fun _ => true

/-- The number of the first pair that may be written. -/
def firstWritten : Nat := 5024

/-- The pair of a number. -/
def pairOf (number : Nat) : Bytes :=
  let place := number % 157
  [UInt8.ofNat (0x81 + number / 157), UInt8.ofNat (place + if place < 0x3F then 0x40 else 0x62)]

/-- The pair of a character, if its lowest one may be written. -/
def written? (c : Char) : Option Bytes :=
  (numbers[c.toNat]?).bind fun number => if number < firstWritten then none else some (pairOf number)

/-- What a lead byte and the bytes after it stand for. -/
def pair (lead : UInt8) : Bytes → List Char × Nat
  | [] => ([replacement], 0)
  | trail :: _ =>
    match pair? lead trail with
    | some chars => (chars, 1)
    | none => ([replacement], if trail < 0x80 then 0 else 1)

/-- The set. -/
def charset : Charset where
  next b rest :=
    if b < 0x80 then ([Char.ofNat b.toNat], 0)
    else if 0x81 ≤ b ∧ b ≤ 0xFE then pair b rest
    else ([replacement], 0)
  encodeChar? c :=
    if c.toNat < 0x80 then some [UInt8.ofNat c.toNat] else written? c

end EventLog.Charset.Taiwanese
