import EventLog.Hex

/-!
# Event identifiers and event kinds

An event identifier packs a severity, two marks, a facility and a code into 32 bits. The kind of an
event is a set of five flags in 16 bits, of which real logs set one.
-/

namespace EventLog

/-- How grave an event is. -/
inductive Severity where
  /-- All went well. -/
  | success
  /-- Something worth knowing. -/
  | informational
  /-- Something that may go wrong. -/
  | warning
  /-- Something that went wrong. -/
  | error
  deriving DecidableEq, Repr

/-- The name of a severity. -/
def Severity.name : Severity → String
  | success => "Success"
  | informational => "Informational"
  | warning => "Warning"
  | error => "Error"

/-- The 32-bit identifier of an event. -/
structure EventId where
  /-- All 32 bits. -/
  value : UInt32
  deriving DecidableEq, Repr

namespace EventId

/-- The code of the event: bits 0 to 15. -/
def code (id : EventId) : Nat := id.value.toNat % 0x10000

/-- The facility that reports the event: bits 16 to 27. -/
def facility (id : EventId) : Nat := id.value.toNat / 0x10000 % 0x1000

/-- All that stands above the code: bits 16 to 31. -/
def qualifiers (id : EventId) : Nat := id.value.toNat / 0x10000

/-- Bit 28, which no event should set. -/
def isReserved (id : EventId) : Bool := id.value.toNat.testBit 28

/-- Bit 29, which marks codes that are not the system's own. -/
def isCustomer (id : EventId) : Bool := id.value.toNat.testBit 29

/-- The severity: bits 30 and 31. -/
def severity (id : EventId) : Severity :=
  match id.value.toNat / 0x40000000 with
  | 0 => .success
  | 1 => .informational
  | 2 => .warning
  | _ => .error

/-- A listing of the identifier and its parts, for diagnostics. -/
def describe (id : EventId) : String :=
  "EventIdentifier \x7b value: " ++ Hex.literal 8 id.value.toNat ++ ", code: " ++
    toString id.code ++ ", facility: " ++ toString id.facility ++ ", customer: " ++
    toString id.isCustomer ++ ", severity: " ++ id.severity.name ++ " \x7d"

end EventId

/-- The kind of an event, a set of flags. -/
structure EventKind where
  /-- The flags, kept as they are stored. -/
  bits : UInt16
  deriving DecidableEq, Repr

namespace EventKind

/-- The known flags: the number of the bit and the name. -/
def flags : List (Nat × String) :=
  [(0, "Error"), (1, "Warning"), (2, "Information"), (3, "Audit Success"), (4, "Audit Failure")]

/-- The bits that no known flag explains. -/
def unknown (kind : EventKind) : Nat := kind.bits.toNat / 32 * 32

/-- The names of the flags that are set, and the unknown bits as one number. -/
def names (kind : EventKind) : List String :=
  (flags.filter fun (bit, _) => kind.bits.toNat.testBit bit).map Prod.snd ++
    if kind.unknown = 0 then [] else [Hex.literal 4 kind.unknown]

/-- The text of a kind; an event without flags reports success. -/
def text (kind : EventKind) : String :=
  if kind.bits = 0 then "Success" else " | ".intercalate kind.names

end EventKind

end EventLog
