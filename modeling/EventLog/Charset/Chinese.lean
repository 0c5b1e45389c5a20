import EventLog.Charset.CharTable
import EventLog.Charset.ChineseRows

/-!
# The simplified Chinese set

Bytes up to 0x7F are ASCII, 0x80 is the euro sign, and all others but 0xFF lead a pair or a group of
four. Every pair has a character, where the three areas that are left to users hold private
characters; one place in them holds a second ideographic space instead, so that the private
character U+E5E5 cannot be written at all. A group of four, in which the second and the fourth byte
are digits, numbers the characters that have no pair. Groups are read, but only ASCII, the euro sign
and pairs are written.
-/

namespace EventLog.Charset.Chinese

/-- The characters of the pairs by number, without the private characters in the areas of users. -/
def table : CharTable := .ofRows 190 rows

/-- The place of a trail byte after its lead byte, from 0 to 189. -/
def place? (trail : UInt8) : Option Nat :=
  if 0x40 ≤ trail ∧ trail ≤ 0x7E then some (trail.toNat - 0x40)
  else if 0x80 ≤ trail ∧ trail ≤ 0xFE then some (trail.toNat - 0x41)
  else none

/-- The private character of a pair in one of the three areas of users, by the row of the lead byte
and the place of the trail byte. -/
def userChar? (row place : Nat) : Option Char :=
  if 32 ≤ row ∧ row ≤ 38 ∧ place < 96 then some (Char.ofNat (0xE4C6 + 96 * (row - 32) + place))
  else if 41 ≤ row ∧ row ≤ 46 ∧ 96 ≤ place then
    some (Char.ofNat (0xE000 + 94 * (row - 41) + (place - 96)))
  else if 119 ≤ row ∧ row ≤ 125 ∧ 96 ≤ place then
    some (Char.ofNat (0xE234 + 94 * (row - 119) + (place - 96)))
  else none

/-- The character of the pair with a number. -/
def pairChar? (number : Nat) : Option Char :=
  (table.get? number).or (userChar? (number / 190) (number % 190))

/-- The character of a pair. -/
def pair? (lead trail : UInt8) : Option Char :=
  (place? trail).bind fun place => pairChar? (190 * (lead.toNat - 0x81) + place)

/-- The numbers of the characters that have a pair, the lowest of several. -/
def numbers : Std.HashMap Nat Nat :=
  (List.range (126 * 190)).foldl (fun map number =>
    match pairChar? number with
    | some c => map.insertIfNew c.toNat number
    | none => map) ∅

/-- The pair of a number. -/
def pairOf (number : Nat) : Bytes :=
  let place := number % 190
  [UInt8.ofNat (0x81 + number / 190), UInt8.ofNat (place + if place < 0x3F then 0x40 else 0x41)]

/-- The private character whose place is taken by an ideographic space. -/
def displaced : Nat := 0xE5E5

/-- The characters of the basic plane beyond ASCII that have no pair, in order and without the
displaced one: the first 39420 groups of four number them. -/
def unpaired : Array Char :=
  ((List.range 0xFF80).filterMap fun i =>
    let n := 0x80 + i
    if 0xD800 ≤ n ∧ n ≤ 0xDFFF ∨ n = displaced ∨ numbers.contains n then none
    else some (Char.ofNat n)).toArray

/-- The character of the group of four with a number: one of the basic plane without a pair, or from
189000 on one of the planes above. -/
def groupChar? (number : Nat) : Option Char :=
  if number < 189000 then unpaired[number]?
  else if number < 189000 + 0x100000 then some (Char.ofNat (0x10000 + (number - 189000)))
  else none

/-- The number of a group of four. -/
def groupNumber (first second third fourth : UInt8) : Nat :=
  12600 * (first.toNat - 0x81) + 1260 * (second.toNat - 0x30) + 10 * (third.toNat - 0x81) +
    (fourth.toNat - 0x30)

/-- The byte is an ASCII digit. -/
def isDigit (b : UInt8) : Bool := 0x30 ≤ b && b ≤ 0x39

/-- The byte may stand first in a pair, and first or third in a group of four. -/
def isLead (b : UInt8) : Bool := 0x81 ≤ b && b ≤ 0xFE

/-- What a lead byte and the bytes after it stand for. A group that breaks off is invalid as far as
its lead byte goes and read again from there; one that the text ends in is invalid as a whole. -/
def group (lead : UInt8) : Bytes → List Char × Nat
  | [] => ([replacement], 0)
  | second :: rest =>
    if isDigit second then
      match rest with
      | [] => ([replacement], 1)
      | third :: rest =>
        if isLead third then
          match rest with
          | [] => ([replacement], 2)
          | fourth :: _ =>
            match (if isDigit fourth then groupChar? (groupNumber lead second third fourth)
              else none) with
            | some c => ([c], 3)
            | none => ([replacement], 0)
        else ([replacement], 0)
    else
      match pair? lead second with
      | some c => ([c], 1)
      | none => ([replacement], 0)

/-- The set. -/
def charset : Charset where
  next b rest :=
    if b < 0x80 then ([Char.ofNat b.toNat], 0)
    else if b = 0x80 then ([Char.ofNat 0x20AC], 0)
    else if isLead b then group b rest
    else ([replacement], 0)
  encodeChar? c :=
    if c.toNat < 0x80 then some [UInt8.ofNat c.toNat]
    else if c.toNat = 0x20AC then some [0x80]
    else (numbers[c.toNat]?).map pairOf

end EventLog.Charset.Chinese
