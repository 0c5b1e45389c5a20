import EventLog.Hex

/-!
# JSON values and their texts

Values with objects that keep the order of their members, and the two texts of a value: the compact
one, and an indented one with one member or element a line. Quotes, backslashes and control
characters of a string are escaped; all other characters stand for themselves.
-/

namespace EventLog

/-- A JSON value without fractions. -/
inductive Json where
  /-- The absent value. -/
  | null
  /-- A number that is a natural number. -/
  | number (n : Nat)
  /-- A string. -/
  | string (text : String)
  /-- A list of values. -/
  | array (elements : List Json)
  /-- Members with a name each, in order. -/
  | object (members : List (String × Json))
  deriving Repr

namespace Json

/-- A character within a string: a short escape where JSON has one, the number for any other control
character, and else the character itself. -/
def escapeChar (c : Char) : List Char :=
  if c = '"' then ['\\', '"']
  else if c = '\\' then ['\\', '\\']
  else if c.toNat = 0x08 then ['\\', 'b']
  else if c.toNat = 0x09 then ['\\', 't']
  else if c.toNat = 0x0A then ['\\', 'n']
  else if c.toNat = 0x0C then ['\\', 'f']
  else if c.toNat = 0x0D then ['\\', 'r']
  else if c.toNat < 0x20 then '\\' :: 'u' :: Hex.number .lower 4 c.toNat
  else [c]

/-- A string between quotes. -/
def quote (text : String) : String :=
  String.ofList ('"' :: text.toList.flatMap escapeChar ++ ['"'])

/-- The digits of a number. -/
def digits (n : Nat) : String := String.ofList (Nat.toDigits 10 n)

/-- A line break and the indentation of a depth. -/
def newline (depth : Nat) : String := String.ofList ('\n' :: List.replicate (2 * depth) ' ')

mutual

/-- The text of a value without any blanks. -/
def compact : Json → String
  | null => "null"
  | number n => digits n
  | string text => quote text
  | array elements => "[" ++ compactElements elements ++ "]"
  | object members => "\x7b" ++ compactMembers members ++ "\x7d"

/-- The elements of an array, with commas between them. -/
def compactElements : List Json → String
  | [] => ""
  | [value] => compact value
  | value :: rest => compact value ++ "," ++ compactElements rest

/-- The members of an object, with commas between them. -/
def compactMembers : List (String × Json) → String
  | [] => ""
  | [(name, value)] => quote name ++ ":" ++ compact value
  | (name, value) :: rest => quote name ++ ":" ++ compact value ++ "," ++ compactMembers rest

end

mutual

/-- The text of a value at a depth, with a line for every member and element. An array or object
that holds nothing stays on its line. -/
def indented (depth : Nat) : Json → String
  | null => "null"
  | number n => digits n
  | string text => quote text
  | array elements =>
    if elements.isEmpty then "[]"
    else "[" ++ indentedElements (depth + 1) elements ++ newline depth ++ "]"
  | object members =>
    if members.isEmpty then "\x7b\x7d"
    else "\x7b" ++ indentedMembers (depth + 1) members ++ newline depth ++ "\x7d"

/-- The elements of an array, each on a line of its own. -/
def indentedElements (depth : Nat) : List Json → String
  | [] => ""
  | [value] => newline depth ++ indented depth value
  | value :: rest =>
    newline depth ++ indented depth value ++ "," ++ indentedElements depth rest

/-- The members of an object, each on a line of its own. -/
def indentedMembers (depth : Nat) : List (String × Json) → String
  | [] => ""
  | [(name, value)] => newline depth ++ quote name ++ ": " ++ indented depth value
  | (name, value) :: rest =>
    newline depth ++ quote name ++ ": " ++ indented depth value ++ "," ++
      indentedMembers depth rest

end

/-- The text of a value, indented or compact. -/
def render (indent : Bool) (value : Json) : String :=
  if indent then value.indented 0 else value.compact

end Json

end EventLog
