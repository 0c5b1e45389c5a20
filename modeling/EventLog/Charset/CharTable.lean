import EventLog.Charset
import Std.Data.HashMap

/-!
# Tables of numbered characters

The large character sets number their characters row by row; the bytes of a character are computed
from its number. A table knows the character of a number and, for the numbers that may be written,
the number of a character.
-/

namespace EventLog.Charset

/-- Characters by number; U+FFFD stands at a number without a character. -/
structure CharTable where
  /-- The characters in the order of their numbers. -/
  chars : Array Char

namespace CharTable

/-- The table of rows that have `width` places each; a short row is filled up. -/
def ofRows (width : Nat) (rows : List String) : CharTable where
  chars := rows.foldl (fun chars row =>
    chars ++ ((row.toList ++ List.replicate width replacement).take width).toArray) #[]

/-- The character with a number. -/
def get? (table : CharTable) (number : Nat) : Option Char :=
  match table.chars[number]? with
  | some c => if c = replacement then none else some c
  | none => none

/-- The numbers of the characters by code point, for the numbers that `keep` admits. Of several
numbers a character has the lowest one. -/
def numbers (table : CharTable) (keep : Nat → Bool) : Std.HashMap Nat Nat :=
  (List.range table.chars.size).foldl (fun map number =>
    match table.get? number with
    | some c => if keep number then map.insertIfNew c.toNat number else map
    | none => map) ∅

end CharTable

end EventLog.Charset
