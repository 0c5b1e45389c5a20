import EventLog.Json
import EventLog.Text.CodeUnits

/-!
# Reading JSON

A strict reader for JSON texts of values without fractions. It takes a text character by character
and keeps the arrays and objects that are open on a stack, so that every text has one reading at
most. Blanks are allowed around values, names and marks and nowhere else; a number has no zero in
front; a comma is followed by a value or a member; and a string holds no control character. The
characters of a string are collected as code units, because an escape gives one unit, and a pair of
surrogates takes two escapes.
-/

namespace EventLog.Json

/-- An array or object that is open. -/
inductive Frame where
  /-- An array with the elements so far, the last one first. -/
  | array (elements : List Json)
  /-- An object with the members so far, the last one first. -/
  | object (members : List (String × Json))
  /-- An object with a member whose value is still to come. -/
  | member (members : List (String × Json)) (name : String)

/-- What the reader waits for or is in the middle of. -/
inductive Mode where
  /-- A value is to come. -/
  | value
  /-- A name is to come. -/
  | name
  /-- The colon after a name is to come. -/
  | colon
  /-- A comma or the end of an array or object is to come. -/
  | separator
  /-- The whole value has been read. -/
  | done (value : Json)
  /-- A string with the units so far. -/
  | string (units : CodeUnits)
  /-- A string after a backslash. -/
  | escape (units : CodeUnits)
  /-- The number of a unit, with so many digits to come. -/
  | hex (units : CodeUnits) (left sum : Nat)
  /-- A number with the value of the digits so far. -/
  | number (n : Nat)
  /-- A word with the letters to come. -/
  | word (letters : List Char) (value : Json)

/-- How far a text has been read. -/
structure State where
  /-- What is to come. -/
  mode : Mode
  /-- What is open, the innermost first. -/
  stack : List Frame

/-- The character may stand between values, names and marks. -/
def isBlank (c : Char) : Bool := c == ' ' || c == '\n' || c == '\t' || c == '\r'

/-- Puts a value that was read in its place. -/
def deliver (value : Json) : List Frame → Option State
  | [] => some ⟨.done value, []⟩
  | .array elements :: stack => some ⟨.separator, .array (value :: elements) :: stack⟩
  | .member members name :: stack => some ⟨.separator, .object ((name, value) :: members) :: stack⟩
  | .object _ :: _ => none

/-- Puts a string that was read in its place, which may be that of a name. -/
def deliverText (text : String) : List Frame → Option State
  | .object members :: stack => some ⟨.colon, .member members text :: stack⟩
  | stack => deliver (.string text) stack

/-- Takes the first character of a value. An array may end here only as long as it is empty. -/
def takeValue (stack : List Frame) (c : Char) : Option State :=
  if isBlank c then some ⟨.value, stack⟩
  else if c = '"' then some ⟨.string [], stack⟩
  else if c = '[' then some ⟨.value, .array [] :: stack⟩
  else if c = '\x7b' then some ⟨.name, .object [] :: stack⟩
  else if c.isDigit then some ⟨.number (c.toNat - 48), stack⟩
  else if c = 'n' then some ⟨.word ['u', 'l', 'l'] .null, stack⟩
  else if c = ']' then
    match stack with
    | .array [] :: outer => deliver (.array []) outer
    | _ => none
  else none

/-- Takes the quote in front of a name. An object may end here only as long as it is empty. -/
def takeName (stack : List Frame) (c : Char) : Option State :=
  if isBlank c then some ⟨.name, stack⟩
  else if c = '"' then some ⟨.string [], stack⟩
  else if c = '\x7d' then
    match stack with
    | .object [] :: outer => deliver (.object []) outer
    | _ => none
  else none

/-- Takes the colon after a name. -/
def takeColon (stack : List Frame) (c : Char) : Option State :=
  if isBlank c then some ⟨.colon, stack⟩
  else if c = ':' then some ⟨.value, stack⟩
  else none

/-- Takes what follows an element or a member. -/
def takeSeparator (stack : List Frame) (c : Char) : Option State :=
  if isBlank c then some ⟨.separator, stack⟩
  else
    match stack with
    | .array elements :: outer =>
      if c = ',' then some ⟨.value, stack⟩
      else if c = ']' then deliver (.array elements.reverse) outer
      else none
    | .object members :: outer =>
      if c = ',' then some ⟨.name, stack⟩
      else if c = '\x7d' then deliver (.object members.reverse) outer
      else none
    | _ => none

/-- Takes a character within a string; the closing quote is taken if the units spell a text. -/
def takeString (units : CodeUnits) (stack : List Frame) (c : Char) : Option State :=
  if c = '"' then
    units.decode.bind fun text => deliverText (String.ofList text) stack
  else if c = '\\' then some ⟨.escape units, stack⟩
  else if c.toNat < 0x20 then none
  else some ⟨.string (units ++ CodeUnits.ofChar c), stack⟩

/-- The character that a letter after a backslash stands for. -/
def unescape? (c : Char) : Option Char :=
  match c with
  | '"' => some '"'
  | '\\' => some '\\'
  | '/' => some '/'
  | 'b' => some (Char.ofNat 0x08)
  | 't' => some (Char.ofNat 0x09)
  | 'n' => some (Char.ofNat 0x0A)
  | 'f' => some (Char.ofNat 0x0C)
  | 'r' => some (Char.ofNat 0x0D)
  | _ => none

/-- Takes the character after a backslash. -/
def takeEscape (units : CodeUnits) (stack : List Frame) (c : Char) : Option State :=
  if c = 'u' then some ⟨.hex units 4 0, stack⟩
  else (unescape? c).map fun plain => ⟨.string (units ++ CodeUnits.ofChar plain), stack⟩

/-- Takes a digit of the number of a unit. -/
def takeHex (units : CodeUnits) (left sum : Nat) (stack : List Frame) (c : Char) :
    Option State :=
  (Hex.digitValue? c).map fun digit =>
    if left ≤ 1 then ⟨.string (units ++ [UInt16.ofNat (16 * sum + digit)]), stack⟩
    else ⟨.hex units (left - 1) (16 * sum + digit), stack⟩

/-- Takes a letter of a word. -/
def takeWord (letters : List Char) (value : Json) (stack : List Frame) (c : Char) :
    Option State :=
  match letters with
  | [] => none
  | letter :: rest =>
    if c ≠ letter then none
    else if rest.isEmpty then deliver value stack
    else some ⟨.word rest value, stack⟩

/-- Takes a character, unless a number is being read. -/
def take (c : Char) (state : State) : Option State :=
  match state.mode with
  | .value => takeValue state.stack c
  | .name => takeName state.stack c
  | .colon => takeColon state.stack c
  | .separator => takeSeparator state.stack c
  | .done value => if isBlank c then some ⟨.done value, state.stack⟩ else none
  | .string units => takeString units state.stack c
  | .escape units => takeEscape units state.stack c
  | .hex units left sum => takeHex units left sum state.stack c
  | .number _ => none
  | .word letters value => takeWord letters value state.stack c

/-- Takes a character. A number goes on with digits, unless it is zero, and is over before anything
else. -/
def step (state : State) (c : Char) : Option State :=
  match state.mode with
  | .number n =>
    if c.isDigit then
      if n = 0 then none else some ⟨.number (10 * n + (c.toNat - 48)), state.stack⟩
    else (deliver (.number n) state.stack).bind (take c)
  | _ => take c state

/-- Delivers a number that the end of the text ends. -/
def settle (state : State) : Option State :=
  match state.mode with
  | .number n => deliver (.number n) state.stack
  | _ => some state

/-- Reads on from a state to the end of the text. -/
def run (state : State) : List Char → Option State
  | [] => settle state
  | c :: text => (step state c).bind fun next => run next text

/-- The value, once all of it has been read. -/
def finish (state : State) : Option Json :=
  match state.mode with
  | .done value => some value
  | _ => none

/-- Reads a text that is one value, with blanks around it. -/
def read (text : String) : Option Json := (run ⟨.value, []⟩ text.toList).bind finish

/-- The value of a member of an object. -/
def member? (value : Json) (name : String) : Option Json :=
  match value with
  | .object members => members.lookup name
  | _ => none

/-- The value that a path of names leads to. -/
def at? (value : Json) (path : List String) : Option Json := path.foldlM member? value

end EventLog.Json
