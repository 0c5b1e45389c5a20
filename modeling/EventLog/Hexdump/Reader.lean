import EventLog.Hexdump

/-!
# Reading hexdumps

A hexdump is read without the data that it shows: its lines are cut at the line breaks (`linesOf`),
and a line into its address, which ends at the colon, a field of fixed width with the bytes in
hexadecimal, and the column of characters. Numbers and bytes are read from digits of either case.
-/

namespace EventLog

namespace Hex

/-- The number that digits write that follow a number already read; anything but digits is
refused. -/
def readNumberFrom? (value : Nat) : List Char → Option Nat
  | [] => some value
  | c :: rest =>
    match digitValue? c with
    | some digit => readNumberFrom? (16 * value + digit) rest
    | none => none

/-- The number that digits write, most significant first. -/
def readNumber? (digits : List Char) : Option Nat := readNumberFrom? 0 digits

/-- A decimal digit or one of the letters `a` to `f`. -/
def IsLowerDigit (c : Char) : Prop := ('0' ≤ c ∧ c ≤ '9') ∨ ('a' ≤ c ∧ c ≤ 'f')

instance (c : Char) : Decidable (IsLowerDigit c) := inferInstanceAs (Decidable (_ ∨ _))

end Hex

namespace Hexdump

/-- The lines of a text, without the line breaks that end them; a last line need not be ended. -/
def linesOf : List Char → List (List Char)
  | [] => []
  | c :: rest =>
    if c = '\n' then [] :: linesOf rest
    else
      match linesOf rest with
      | [] => [[c]]
      | line :: lines => (c :: line) :: lines

/-- How many characters the bytes of a line take in hexadecimal: three for each place and one more
in the middle. -/
def fieldWidth : Nat := 49

/-- What comes before the colon of a line. -/
def addressOf (line : List Char) : List Char := line.takeWhile (· != ':')

/-- What comes after the colon of a line. -/
def afterColon (line : List Char) : List Char := (line.dropWhile (· != ':')).drop 1

/-- The bytes of a line in hexadecimal. -/
def fieldOf (line : List Char) : List Char := (afterColon line).take fieldWidth

/-- What comes after the bytes of a line: the column of characters, with what frames it. -/
def columnOf (line : List Char) : List Char := (afterColon line).drop fieldWidth

/-- Where in the field of a line a byte stands. -/
def placeOf (index : Nat) : Nat := 3 * index + if 8 ≤ index then 1 else 0

/-- What stands at the place of a byte: a blank and its two digits, or three blanks if the line has
no such byte. -/
def pairOf : Option UInt8 → List Char
  | some b => ' ' :: Hex.byte .lower b
  | none => [' ', ' ', ' ']

/-- A character stands for a byte: it is the byte if that is printable ASCII, and else a dot. -/
def StandsFor (c : Char) (b : UInt8) : Prop :=
  if 0x20 ≤ b.toNat ∧ b.toNat ≤ 0x7E then c.toNat = b.toNat else c = '.'

/-- The data that a hexdump shows: the pairs of digits in the fields of all its lines, in order. -/
def read? (text : List Char) : Option Bytes :=
  Hex.readBytes? (((linesOf text).flatMap fieldOf).filter (· != ' '))

end Hexdump

end EventLog
