/-!
# Points in time

A log counts time in seconds since the start of 1970, in 32 bits. `Date.ofDay` finds the day in the
Gregorian calendar by counting from the first of March of year zero, so that the leap day is the
last of its year; `text` writes the moment in universal time.
-/

namespace EventLog

/-- A day of the Gregorian calendar. -/
structure Date where
  /-- The year. -/
  year : Nat
  /-- The month, from one. -/
  month : Nat
  /-- The day of the month, from one. -/
  day : Nat
  deriving DecidableEq, Repr

/-- The day that is `n` days after the first of January 1970. -/
def Date.ofDay (n : Nat) : Date :=
  let days := n + 719468
  let cycle := days / 146097
  let inCycle := days % 146097
  let inCycleYear := (inCycle - inCycle / 1460 + inCycle / 36524 - inCycle / 146096) / 365
  let inYear := inCycle - (365 * inCycleYear + inCycleYear / 4 - inCycleYear / 100)
  let marchMonth := (5 * inYear + 2) / 153
  let day := inYear - (153 * marchMonth + 2) / 5 + 1
  let month := if marchMonth < 10 then marchMonth + 3 else marchMonth - 9
  let year := inCycleYear + 400 * cycle + (if month ≤ 2 then 1 else 0)
  ⟨year, month, day⟩

/-- A number in decimal with zeros in front up to `width` digits. -/
def padded (width n : Nat) : String :=
  let digits := Nat.toDigits 10 n
  String.ofList (List.replicate (width - digits.length) '0' ++ digits)

/-- A moment, in seconds since the start of 1970 in universal time. -/
abbrev Timestamp := UInt32

/-- The text of a moment, such as `2010-11-11T01:10:17Z`. -/
def Timestamp.text (t : Timestamp) : String :=
  let seconds := t.toNat
  let date := Date.ofDay (seconds / 86400)
  let time := seconds % 86400
  padded 4 date.year ++ "-" ++ padded 2 date.month ++ "-" ++ padded 2 date.day ++ "T" ++
    padded 2 (time / 3600) ++ ":" ++ padded 2 (time / 60 % 60) ++ ":" ++ padded 2 (time % 60) ++
    "Z"

end EventLog
