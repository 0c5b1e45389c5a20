/-!
# Hexadecimal text

Bytes and words in base sixteen, with lower-case or upper-case digits. Every byte has two digits;
a word has a least number of digits and grows as needed.
-/

namespace EventLog.Hex

/-- Whether the digits above nine are `a` to `f` or `A` to `F`. -/
inductive Letters where
  /-- `a` to `f`. -/
  | lower
  /-- `A` to `F`. -/
  | upper
  deriving DecidableEq, Repr

/-- The digit for a value below sixteen. -/
def digit (letters : Letters) (value : Nat) : Char :=
  if value < 10 then Char.ofNat (48 + value)
  else match letters with
    | .lower => Char.ofNat (87 + value)
    | .upper => Char.ofNat (55 + value)

/-- The value of a hexadecimal digit, of either case. -/
def digitValue? (c : Char) : Option Nat :=
  if '0' ≤ c ∧ c ≤ '9' then some (c.toNat - 48)
  else if 'a' ≤ c ∧ c ≤ 'f' then some (c.toNat - 87)
  else if 'A' ≤ c ∧ c ≤ 'F' then some (c.toNat - 55)
  else none

/-- Reading a digit that was written gives its value back. -/
theorem digitValue?_digit (letters : Letters) {value : Nat} (h : value < 16) :
    digitValue? (digit letters value) = some value := by
  cases letters <;> revert value <;> decide

/-- A hexadecimal digit is below sixteen. -/
theorem lt_of_digitValue? {c : Char} {value : Nat} (reads : digitValue? c = some value) :
    value < 16 := by
  have bound {low high : Char} {offset : Nat} (within : low ≤ c ∧ c ≤ high)
      (small : high.toNat < offset + 16) (here : some (c.toNat - offset) = some value) :
      value < 16 := by
    have below : c.toNat ≤ high.toNat := within.2
    obtain rfl := Option.some.inj here
    omega
  unfold digitValue? at reads
  split at reads
  · exact bound ‹_› (by decide) reads
  split at reads
  · exact bound ‹_› (by decide) reads
  split at reads
  · exact bound ‹_› (by decide) reads
  · cases reads

/-- The two digits of a byte. -/
def byte (letters : Letters) (b : UInt8) : List Char :=
  [digit letters (b.toNat / 16), digit letters (b.toNat % 16)]

/-- The digits of a byte string, two for every byte. -/
def bytes (letters : Letters) (data : List UInt8) : List Char := data.flatMap (byte letters)

/-- Reads digits back in pairs; anything but pairs of digits is refused. -/
def readBytes? : List Char → Option (List UInt8)
  | [] => some []
  | [_] => none
  | high :: low :: rest =>
    match digitValue? high, digitValue? low, readBytes? rest with
    | some h, some l, some data => some (UInt8.ofNat (16 * h + l) :: data)
    | _, _, _ => none

/-- Reading the digits of a byte string gives the string back. -/
theorem readBytes?_bytes (letters : Letters) (data : List UInt8) :
    readBytes? (bytes letters data) = some data := by
  induction data with
  | nil => rfl
  | cons b rest ih =>
    have hb : b.toNat < 256 := b.toNat_lt
    have high := digitValue?_digit letters (show b.toNat / 16 < 16 by omega)
    have low := digitValue?_digit letters (show b.toNat % 16 < 16 by omega)
    have whole : 16 * (b.toNat / 16) + b.toNat % 16 = b.toNat := by omega
    have ih' : readBytes? (rest.flatMap (byte letters)) = some rest := ih
    simp [bytes, byte, readBytes?, high, low, ih', whole]

/-- The digits of a number, most significant first, with zeros in front up to `width` digits. -/
def number (letters : Letters) (width n : Nat) : List Char :=
  let digits := (Nat.toDigits 16 n).map fun c => digit letters ((digitValue? c).getD 0)
  List.replicate (width - digits.length) '0' ++ digits

/-- The text of a number as `0x` and at least `width` lower-case digits. -/
def literal (width n : Nat) : String := "0x" ++ String.ofList (number .lower width n)

end EventLog.Hex
