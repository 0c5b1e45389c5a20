import EventLog.Hex
import EventLog.Xml

/-!
# Reading XML

The reader knows elements with attributes, text and references, and nothing else of XML. It splits a
document at its angle brackets into tags and the text after each of them, undoes the references, and
puts the elements together from the last tag to the first: an end tag opens an element to the left,
and the start tag of the same name closes it. Blank text that stands directly inside a container is
left out, as is blank text around the document; all other text is kept as it is.
-/

namespace EventLog.Xml

/-- A part of a document. -/
inductive Node where
  /-- An element with what stands in it. -/
  | element (name : String) (attributes : List (String × String)) (children : List Node)
  /-- The text between two tags; it may be empty. -/
  | text (content : String)

/-- A tag. -/
inductive Tag where
  /-- A start tag. -/
  | start (name : String) (attributes : List (String × String))
  /-- A tag of an element without content. -/
  | empty (name : String) (attributes : List (String × String))
  /-- An end tag. -/
  | stop (name : String)

/-- Cuts characters at delimiters: what stands before the first one, and every delimiter with what
stands between it and the next. -/
def cut (delimiter : Char → Bool) : List Char → List Char × List (Char × List Char)
  | [] => ([], [])
  | c :: rest =>
    let (front, pieces) := cut delimiter rest
    if delimiter c then ([], (c, front) :: pieces) else (c :: front, pieces)

/-- Characters that are no delimiters stand before the first one. -/
theorem cut_append {delimiter : Char → Bool} {text : List Char}
    (free : ∀ c ∈ text, delimiter c = false) (rest : List Char) :
    cut delimiter (text ++ rest) = (text ++ (cut delimiter rest).1, (cut delimiter rest).2) := by
  induction text with
  | nil => rfl
  | cons c text ih =>
    have here := free c List.mem_cons_self
    rw [List.cons_append, cut, ih fun x member => free x (List.mem_cons_of_mem _ member)]
    dsimp only
    rw [here, if_neg Bool.false_ne_true]
    rfl

/-- A delimiter is cut off. -/
theorem cut_delimiter {delimiter : Char → Bool} {c : Char} (splits : delimiter c = true)
    (rest : List Char) :
    cut delimiter (c :: rest) = ([], (c, (cut delimiter rest).1) :: (cut delimiter rest).2) := by
  rw [cut]
  dsimp only
  rw [splits, if_pos rfl]

/-- The number that digits to a base stand for. -/
def numeral? (base : Nat) (digits : List Char) : Option Nat :=
  if digits.isEmpty then none
  else digits.foldlM (fun value c => (Hex.digitValue? c).bind fun digit =>
    if digit < base then some (base * value + digit) else none) 0

/-- The character with a code. -/
def character? (code : Nat) : Option Char :=
  if code.isValidChar then some (Char.ofNat code) else none

/-- The character that a reference stands for, by its name or its code. -/
def reference? (name : List Char) : Option Char :=
  if name = "lt".toList then some '<'
  else if name = "gt".toList then some '>'
  else if name = "amp".toList then some '&'
  else if name = "apos".toList then some '\''
  else if name = "quot".toList then some '"'
  else match name with
    | '#' :: 'x' :: digits => (numeral? 16 digits).bind character?
    | '#' :: digits => (numeral? 10 digits).bind character?
    | _ => none

/-- What follows an ampersand: the name of a reference, a semicolon and other characters. -/
def expand? (piece : List Char) : Option (List Char) :=
  match piece.dropWhile (· != ';') with
  | [] => none
  | _ :: rest => (reference? (piece.takeWhile (· != ';'))).map (· :: rest)

/-- Characters with their references undone. -/
def unescape? (text : List Char) : Option (List Char) :=
  let (front, pieces) := cut (· == '&') text
  (pieces.mapM fun piece => expand? piece.2).map fun parts => front ++ parts.flatten

/-- A character that starts no reference is read as itself. -/
theorem unescape?_cons {c : Char} (plain : (c == '&') = false) (text : List Char) :
    unescape? (c :: text) = (unescape? text).map (c :: ·) := by
  have cuts : cut (· == '&') (c :: text) =
      (c :: (cut (· == '&') text).1, (cut (· == '&') text).2) := by
    rw [cut]
    dsimp only
    rw [plain, if_neg Bool.false_ne_true]
  rw [unescape?, unescape?, cuts]
  dsimp only
  cases (cut (· == '&') text).2.mapM fun piece => expand? piece.2 with
  | none => rfl
  | some parts => rfl

/-- A reference is read as the character that it stands for. -/
theorem unescape?_reference (name : List Char) (c : Char) (refers : reference? name = some c)
    (plain : ∀ x ∈ name, (x == '&') = false ∧ (x != ';') = true) (text : List Char) :
    unescape? ('&' :: (name ++ ';' :: text)) = (unescape? text).map (c :: ·) := by
  have free : ∀ x ∈ name ++ [';'], (x == '&') = false := by
    intro x member
    rcases List.mem_append.mp member with inside | last
    · exact (plain x inside).1
    · rw [List.mem_singleton.mp last]
      rfl
  have cuts : cut (· == '&') ('&' :: (name ++ ';' :: text)) =
      ([], ('&', name ++ ';' :: (cut (· == '&') text).1) :: (cut (· == '&') text).2) := by
    have later := cut_append free text
    rw [List.append_assoc, List.singleton_append] at later
    rw [cut_delimiter rfl, later, List.append_assoc, List.singleton_append]
  have expands (rest : List Char) : expand? (name ++ ';' :: rest) = some (c :: rest) := by
    have within : ∀ x ∈ name, (x != ';') = true := fun x member => (plain x member).2
    rw [expand?, List.dropWhile_append_of_pos within, List.takeWhile_append_of_pos within,
      List.dropWhile_cons_of_neg (by decide), List.takeWhile_cons_of_neg (by decide),
      List.append_nil, refers]
    rfl
  rw [unescape?, unescape?, cuts]
  dsimp only
  rw [List.mapM_cons, expands]
  cases (cut (· == '&') text).2.mapM fun piece => expand? piece.2 with
  | none => rfl
  | some parts => rfl

/-- A character that was escaped is read as itself. -/
theorem unescape?_escapeChar (c : Char) (text : List Char) :
    unescape? (escapeChar c ++ text) = (unescape? text).map (c :: ·) := by
  unfold escapeChar
  by_cases less : c = '<'
  · subst less
    exact unescape?_reference ['l', 't'] '<' rfl (by simp) text
  rw [if_neg less]
  by_cases greater : c = '>'
  · subst greater
    exact unescape?_reference ['g', 't'] '>' rfl (by simp) text
  rw [if_neg greater]
  by_cases ampersand : c = '&'
  · subst ampersand
    exact unescape?_reference ['a', 'm', 'p'] '&' rfl (by simp) text
  rw [if_neg ampersand]
  by_cases apostrophe : c = '\''
  · subst apostrophe
    exact unescape?_reference ['a', 'p', 'o', 's'] '\'' rfl (by simp) text
  rw [if_neg apostrophe]
  by_cases quote : c = '"'
  · subst quote
    exact unescape?_reference ['q', 'u', 'o', 't'] '"' rfl (by simp) text
  rw [if_neg quote]
  exact unescape?_cons (beq_eq_false_iff_ne.mpr ampersand) text

/-- Text that was escaped is read as itself. -/
theorem unescape?_escape (text rest : List Char) :
    unescape? (text.flatMap escapeChar ++ rest) = (unescape? rest).map (text ++ ·) := by
  induction text with
  | nil => exact Option.map_id'.symm
  | cons c text ih =>
    rw [List.flatMap_cons, List.append_assoc, unescape?_escapeChar, ih, Option.map_map]
    rfl

/-- A character that was escaped has neither angle brackets nor quotes. -/
theorem escapeChar_plain (c : Char) : ∀ x ∈ escapeChar c, x ≠ '<' ∧ x ≠ '>' ∧ x ≠ '"' := by
  unfold escapeChar
  split
  · simp
  split
  · simp
  split
  · simp
  split
  · simp
  split
  · simp
  · intro x member
    rw [List.mem_singleton.mp member]
    refine ⟨?_, ?_, ?_⟩ <;> assumption

/-- Text that was escaped has neither angle brackets nor quotes. -/
theorem escape_plain (text : List Char) :
    ∀ x ∈ text.flatMap escapeChar, x ≠ '<' ∧ x ≠ '>' ∧ x ≠ '"' := by
  intro x member
  obtain ⟨c, -, within⟩ := List.mem_flatMap.mp member
  exact escapeChar_plain c x within

/-- The character may stand in a name. -/
def isNameChar (c : Char) : Bool := c.isAlphanum

/-- The text is a name. -/
def isName (name : String) : Bool := name != "" && name.toList.all isNameChar

/-- The name of an attribute, as it stands in front of its value: after a blank and before an equals
sign. -/
def attributeName? : List Char → Option String
  | ' ' :: rest =>
    let name := String.ofList (rest.takeWhile isNameChar)
    if isName name && rest.dropWhile isNameChar = ['='] then some name else none
  | _ => none

/-- The attributes of a tag, cut at their quotes, and whether a slash closes the tag after them. -/
def attributesFrom (front : List Char) :
    List (Char × List Char) → Option (List (String × String) × Bool)
  | [] => if front = [] then some ([], false) else if front = ['/'] then some ([], true) else none
  | [_] => none
  | (_, value) :: (_, after) :: rest => do
    let name ← attributeName? front
    let value ← unescape? value
    let (others, closed) ← attributesFrom after rest
    return ((name, String.ofList value) :: others, closed)

/-- The attributes of a tag, and whether a slash closes the tag after them. -/
def attributes? (text : List Char) : Option (List (String × String) × Bool) :=
  let (front, pieces) := cut (· == '"') text
  attributesFrom front pieces

/-- The tag that stands between two angle brackets. -/
def tag? (inside : List Char) : Option Tag :=
  match inside with
  | '/' :: name => if isName (String.ofList name) then some (.stop (String.ofList name)) else none
  | _ =>
    let name := String.ofList (inside.takeWhile isNameChar)
    if isName name then
      (attributes? (inside.dropWhile isNameChar)).map fun (attributes, closed) =>
        if closed then .empty name attributes else .start name attributes
    else none

/-- The character is blank. -/
def isBlankChar (c : Char) : Bool := c == ' ' || c == '\n' || c == '\t' || c == '\r'

/-- The part of a document is blank text. -/
def Node.isBlank : Node → Bool
  | text content => content.toList.all isBlankChar
  | element .. => false

/-- What counts of the parts that stand directly inside an element. -/
def contents (containers : List String) (name : String) (nodes : List Node) : List Node :=
  if name ∈ containers then nodes.filter (!·.isBlank) else nodes

/-- What was read of a document, from its end up to a tag. -/
structure Reading where
  /-- The text before the tag. -/
  text : String
  /-- The parts from the tag on that stand in the same element. -/
  nodes : List Node
  /-- The elements around them, from the inside out: the name of each, and the parts after it. -/
  outer : List (String × List Node)

/-- All parts that were read and stand in the same element. -/
def Reading.parts (reading : Reading) : List Node := .text reading.text :: reading.nodes

/-- What is read with the tag before it. -/
def Reading.withTag (containers : List String) (reading : Reading) : Tag → Option Reading
  | .start name attributes =>
    match reading.outer with
    | (last, after) :: outer =>
      if last = name then
        some ⟨"", .element name attributes (contents containers name reading.parts) :: after, outer⟩
      else none
    | [] => none
  | .empty name attributes => some ⟨"", .element name attributes [] :: reading.parts, reading.outer⟩
  | .stop name => some ⟨"", [], (name, reading.parts) :: reading.outer⟩

/-- Reads what was cut at angle brackets: tags, and the text after each of them. -/
def readTags (containers : List String) : List (Char × List Char) → Option Reading
  | [] => some ⟨"", [], []⟩
  | ('<', inside) :: ('>', after) :: rest => do
    let reading ← readTags containers rest
    let text ← unescape? after
    let tag ← tag? inside
    { reading with text := String.ofList text }.withTag containers tag
  | _ => none

/-- The character is an angle bracket. -/
def isBracket (c : Char) : Bool := c == '<' || c == '>'

/-- Reads characters: text up to the first tag, and then tags. -/
def readChars (containers : List String) (text : List Char) : Option Reading := do
  let (front, pieces) := cut isBracket text
  let reading ← readTags containers pieces
  let text ← unescape? front
  return { reading with text := String.ofList text }

/-- Reads a document, which is one element. -/
def read (containers : List String) (document : String) : Option Node :=
  match readChars containers document.toList with
  | some ⟨text, nodes, []⟩ =>
    match (Node.text text :: nodes).filter (!·.isBlank) with
    | [.element name attributes children] => some (.element name attributes children)
    | _ => none
  | _ => none

end EventLog.Xml
