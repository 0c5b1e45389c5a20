import EventLog.Charset.CharTable
import EventLog.Charset.UpperHalf

/-!
# Single-byte sets over ASCII

The sets whose lower half is ASCII and whose upper half is a table of 128 characters. A byte from
0x80 to 0x9F without a character of its own is the control character of the same number; any other
byte without a character is invalid.
-/

namespace EventLog.Charset.UpperHalf

/-- The table of the upper half, numbered from zero, with control characters filled in. -/
def table (half : UpperHalf) : CharTable :=
  let low := CharTable.ofRows 32 [half.controls]
  let high := CharTable.ofRows 96 [half.letters]
  ⟨((List.range 32).map fun i => (low.get? i).getD (Char.ofNat (0x80 + i))).toArray ++ high.chars⟩

/-- The set with this upper half. -/
def charset (half : UpperHalf) : Charset :=
  let table := half.table
  let numbers := table.numbers fun _ => true
  singleByte
    (fun b => if b < 0x80 then some (Char.ofNat b.toNat) else table.get? (b.toNat - 0x80))
    fun c =>
      if c.toNat < 0x80 then some (UInt8.ofNat c.toNat)
      else (numbers[c.toNat]?).map fun number => UInt8.ofNat (0x80 + number)

end EventLog.Charset.UpperHalf
