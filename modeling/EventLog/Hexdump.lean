import EventLog.Bytes
import EventLog.Hex

/-!
# Hexdumps

Binary data as lines of sixteen bytes: the address, the bytes in hexadecimal with a wider gap in
the middle, and the bytes as characters. A short last line is padded, so that the character column
of all lines starts at the same distance from the colon.
-/

namespace EventLog.Hexdump

/-- How many bytes a full line shows. -/
def lineLength : Nat := 16

/-- Cuts data into lines; only the last may be short, and none is empty. -/
def rows (data : Bytes) : List Bytes :=
  if data.isEmpty then [] else data.take lineLength :: rows (data.drop lineLength)
termination_by data.length
decreasing_by
  rename_i h
  have : 0 < data.length := by
    cases data with
    | nil => simp at h
    | cons => simp
  simp only [List.length_drop, lineLength]
  omega

/-- The place of one byte in a line: a blank and two digits, or three blanks past the data. The
ninth place has one more blank in front. -/
def cell (row : Bytes) (place : Nat) : List Char :=
  (if place = 8 then [' '] else []) ++
    match row[place]? with
    | some b => ' ' :: Hex.byte .lower b
    | none => [' ', ' ', ' ']

/-- The byte as a character: itself if it is printable ASCII, and a dot if not. -/
def glyph (b : UInt8) : Char :=
  if 0x20 ≤ b.toNat ∧ b.toNat ≤ 0x7E then Char.ofNat b.toNat else '.'

/-- One line: address, sixteen places, and the characters between bars. -/
def line (address : Nat) (row : Bytes) : List Char :=
  Hex.number .lower 8 address ++ ':' :: (List.range lineLength).flatMap (cell row) ++
    [' ', ' ', '|'] ++ row.map glyph ++ ['|', '\n']

/-- The lines of the data, with addresses that count from `start`. -/
def lines (data : Bytes) (start : Nat) : List (List Char) :=
  (rows data).mapIdx fun i row => line (start + lineLength * i) row

/-- The hexdump of the data, with addresses that count from `start`. -/
def render (data : Bytes) (start : Nat) : String := String.ofList (lines data start).flatten

end EventLog.Hexdump
