import EventLog.Bytes

/-!
# Character sets

A character set reads characters off the front of a byte string and writes single characters. Both
directions work without state: `decode` reads character by character and replaces what has no
meaning, `encode?` writes character by character and refuses a text with a character that the set
lacks.
-/

namespace EventLog

/-- A character set in which narrow strings are written. -/
structure Charset where
  /-- What stands at the front of a byte string, which is given as its first byte and the others:
  the characters, and how many of the other bytes belong to them. -/
  next : UInt8 → Bytes → List Char × Nat
  /-- The bytes of a character, if the set has it. -/
  encodeChar? : Char → Option Bytes

namespace Charset

/-- What stands for bytes without a meaning. -/
def replacement : Char := Char.ofNat 0xFFFD

/-- The characters of a byte string; bytes without a meaning are replaced. -/
def decode (charset : Charset) : Bytes → List Char
  | [] => []
  | b :: rest =>
    (charset.next b rest).1 ++ decode charset (rest.drop (charset.next b rest).2)
termination_by bytes => bytes.length
decreasing_by
  simp only [List.length_drop, List.length_cons]
  omega

/-- The bytes of a text, if the set has all of its characters. -/
def encode? (charset : Charset) (text : List Char) : Option Bytes :=
  (text.mapM charset.encodeChar?).map List.flatten

/-- A set in which every byte is read by itself. -/
def singleByte (meaning : UInt8 → Option Char) (byteOf? : Char → Option UInt8) : Charset where
  next b _ := ([(meaning b).getD replacement], 0)
  encodeChar? c := (byteOf? c).map fun b => [b]

/-- The 128 characters of ASCII. -/
def ascii : Charset :=
  singleByte (fun b => if b < 0x80 then some (Char.ofNat b.toNat) else none)
    fun c => if c.toNat < 0x80 then some (UInt8.ofNat c.toNat) else none

/-- ISO 8859-1, in which every byte is the number of its character. -/
def latin1 : Charset :=
  singleByte (fun b => some (Char.ofNat b.toNat))
    fun c => if c.toNat < 0x100 then some (UInt8.ofNat c.toNat) else none

end Charset

end EventLog
