import EventLog.Error

/-!
# Writing XML

A document is written tag by tag. With indentation every tag starts a new line at its depth, except
the very first one and a tag that directly follows text: so no blank is ever added next to a text. A
writer may have a limit on the bytes that it takes; a write that would pass it fails.
-/

namespace EventLog.Xml

/-- A piece of a document. -/
inductive Piece where
  /-- A start tag with its attributes. -/
  | start (name : String) (attributes : List (String × String))
  /-- A tag of an element without content. -/
  | empty (name : String) (attributes : List (String × String))
  /-- The text of an element. -/
  | text (content : String)
  /-- An end tag. -/
  | stop (name : String)
  deriving DecidableEq, Repr

/-- A character within text or an attribute: markup characters and quotes become references. -/
def escapeChar (c : Char) : List Char :=
  if c = '<' then "&lt;".toList
  else if c = '>' then "&gt;".toList
  else if c = '&' then "&amp;".toList
  else if c = '\'' then "&apos;".toList
  else if c = '"' then "&quot;".toList
  else [c]

/-- Text with its markup characters and quotes as references. -/
def escape (text : String) : String := String.ofList (text.toList.flatMap escapeChar)

/-- The attributes of a tag, each with a blank in front. -/
def attributesText (attributes : List (String × String)) : String :=
  String.join (attributes.map fun (name, value) => " " ++ name ++ "=\"" ++ escape value ++ "\"")

/-- The text of a piece by itself. -/
def Piece.render : Piece → String
  | start name attributes => "<" ++ name ++ attributesText attributes ++ ">"
  | empty name attributes => "<" ++ name ++ attributesText attributes ++ "/>"
  | text content => escape content
  | stop name => "</" ++ name ++ ">"

/-- A document that is being written. -/
structure Writer where
  /-- Whether tags are put on lines of their own. -/
  indent : Bool
  /-- How many bytes the target takes, if there is a limit. -/
  limit : Option Nat
  /-- How many elements are open. -/
  depth : Nat
  /-- Whether the next tag starts a new line. -/
  breakNext : Bool
  /-- All that was written. -/
  written : String
  deriving DecidableEq, Repr

namespace Writer

/-- A writer at the start of a document. -/
def new (indent : Bool) (limit : Option Nat) : Writer where
  indent := indent
  limit := limit
  depth := 0
  breakNext := false
  written := ""

/-- The text that the target's refusal has. -/
def refusal : String := "write failed"

/-- Hands text to the target. -/
def put (writer : Writer) (text : String) : Except RenderError Writer :=
  let written := writer.written ++ text
  match writer.limit with
  | some limit =>
    if limit < written.utf8ByteSize then .error (.output refusal)
    else .ok { writer with written }
  | none => .ok { writer with written }

/-- The line break and the blanks in front of a tag. -/
def lead (writer : Writer) (depth : Nat) : String :=
  if writer.indent && writer.breakNext then
    String.ofList ('\n' :: List.replicate (2 * depth) ' ')
  else ""

/-- Writes one piece. -/
def write (writer : Writer) (piece : Piece) : Except RenderError Writer :=
  match piece with
  | .start .. => do
    let writer ← writer.put (writer.lead writer.depth ++ piece.render)
    return { writer with depth := writer.depth + 1, breakNext := true }
  | .empty .. => do
    let writer ← writer.put (writer.lead writer.depth ++ piece.render)
    return { writer with breakNext := true }
  | .text _ => do
    let writer ← writer.put piece.render
    return { writer with breakNext := false }
  | .stop _ => do
    let depth := writer.depth - 1
    let writer ← writer.put (writer.lead depth ++ piece.render)
    return { writer with depth, breakNext := true }

/-- Writes pieces in order, up to the first that the target refuses. -/
def writeAll (writer : Writer) (pieces : List Piece) : Except RenderError Writer :=
  pieces.foldlM write writer

end Writer

end EventLog.Xml
