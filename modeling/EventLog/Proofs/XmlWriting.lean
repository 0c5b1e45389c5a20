import EventLog.Proofs.XmlReading

/-!
# Writing what is read back

Pieces write a node if whatever a writer without a limit makes of them, with or without indentation,
is read as that node (`Writes`). Elements without content, elements with a text and containers of
such elements are written so (`writes_empty`, `writes_leaf`, `writes_branch`), and so is a whole
document (`Writes.read`). Indentation adds blank text directly inside containers only.
-/

namespace EventLog.Xml

variable {containers : List String} {name : String} {attributes : List (String × String)}

namespace Writer

variable (indent breakNext : Bool) (depth : Nat) (written : String)

/-- A start tag opens an element, and the next tag starts a new line. -/
theorem write_start :
    write ⟨indent, none, depth, breakNext, written⟩ (.start name attributes) =
      .ok ⟨indent, none, depth + 1, true, written ++
        (lead ⟨indent, none, depth, breakNext, written⟩ depth ++
          (Piece.start name attributes).render)⟩ := rfl

/-- After a tag of an element without content the next tag starts a new line. -/
theorem write_empty :
    write ⟨indent, none, depth, breakNext, written⟩ (.empty name attributes) =
      .ok ⟨indent, none, depth, true, written ++
        (lead ⟨indent, none, depth, breakNext, written⟩ depth ++
          (Piece.empty name attributes).render)⟩ := rfl

/-- Text stands alone, and so does the tag after it. -/
theorem write_text (content : String) :
    write ⟨indent, none, depth, breakNext, written⟩ (.text content) =
      .ok ⟨indent, none, depth, false, written ++ (Piece.text content).render⟩ := rfl

/-- An end tag closes an element, and the next tag starts a new line. -/
theorem write_stop :
    write ⟨indent, none, depth + 1, breakNext, written⟩ (.stop name) =
      .ok ⟨indent, none, depth, true, written ++
        (lead ⟨indent, none, depth + 1, breakNext, written⟩ depth ++
          (Piece.stop name).render)⟩ := rfl

/-- Pieces are written one after the other. -/
theorem writeAll_cons {writer after : Writer} {piece : Piece}
    (writes : writer.write piece = .ok after) (pieces : List Piece) :
    writer.writeAll (piece :: pieces) = after.writeAll pieces := by
  rw [writeAll, List.foldlM_cons, writes]
  rfl

/-- Pieces after pieces are written to what the first ones leave. -/
theorem writeAll_append {writer after : Writer} {first : List Piece}
    (writes : writer.writeAll first = .ok after) (second : List Piece) :
    writer.writeAll (first ++ second) = after.writeAll second := by
  rw [writeAll] at writes
  rw [writeAll, List.foldlM_append, writes]
  rfl

/-- What stands in front of a tag on a line of its own is blank. -/
theorem isBlankChar_of_mem_lead (writer : Writer) (depth : Nat) :
    ∀ c ∈ (writer.lead depth).toList, isBlankChar c = true := by
  intro c member
  unfold lead at member
  split at member
  · rw [String.toList_ofList] at member
    rcases List.mem_cons.mp member with rfl | blank
    · rfl
    · rw [List.eq_of_mem_replicate blank]
      rfl
  · cases member

/-- Nothing stands in front of the first tag, or of a tag after text. -/
theorem lead_straight (indent : Bool) (limit : Option Nat) (level depth : Nat) (written : String) :
    lead ⟨indent, limit, level, false, written⟩ depth = "" := by
  rw [lead, Bool.and_false, if_neg Bool.false_ne_true]

end Writer

/-- A character that is blank is not escaped. -/
theorem escapeChar_of_isBlankChar {c : Char} (blank : isBlankChar c = true) :
    escapeChar c = [c] := by
  simp only [isBlankChar, Bool.or_eq_true, beq_iff_eq] at blank
  rcases blank with ((rfl | rfl) | rfl) | rfl <;> rfl

/-- Blank text is not escaped. -/
theorem escape_of_isBlankChar {text : List Char} (blank : ∀ c ∈ text, isBlankChar c = true) :
    text.flatMap escapeChar = text := by
  induction text with
  | nil => rfl
  | cons c text ih =>
    rw [List.flatMap_cons, escapeChar_of_isBlankChar (blank c List.mem_cons_self),
      ih fun x member => blank x (List.mem_cons_of_mem _ member)]
    rfl

/-- Text that was written is read as itself, in front of other text. -/
theorem readChars_text {rest : List Char} {reading : Reading}
    (later : readChars containers rest = some reading) (content : String) :
    readChars containers ((Piece.text content).render.toList ++ rest) =
      some { reading with text := content ++ reading.text } := by
  rw [Piece.render, escape, String.toList_ofList, readChars_escape, later, Option.map_some,
    String.ofList_toList]

/-- Blank text is read as itself, in front of other text. -/
theorem readChars_blank {rest : List Char} {reading : Reading}
    (later : readChars containers rest = some reading) {content : String}
    (blank : ∀ c ∈ content.toList, isBlankChar c = true) :
    readChars containers (content.toList ++ rest) =
      some { reading with text := content ++ reading.text } := by
  rw [← escape_of_isBlankChar blank, readChars_escape, later, Option.map_some, String.ofList_toList]

/-- Pieces that a writer without a limit makes into something that is read as a node. -/
structure Writes (containers : List String) (pieces : List Piece) (node : Node) : Prop where
  /-- The node is no blank text. -/
  solid : node.isBlank = false
  /-- Whatever stands after it, what was written after the blank in front is read as the node, and
  the writer is as deep as it was. -/
  renders : ∀ indent depth breakNext written, ∃ rendered : String,
    Writer.writeAll ⟨indent, none, depth, breakNext, written⟩ pieces =
      .ok ⟨indent, none, depth, true, written ++
        (Writer.lead ⟨indent, none, depth, breakNext, written⟩ depth ++ rendered)⟩ ∧
    ∀ rest reading, readChars containers rest = some reading →
      readChars containers (rendered.toList ++ rest) =
        some ⟨"", node :: reading.parts, reading.outer⟩

/-- An element without content is written. -/
theorem writes_empty (named : isName name = true)
    (names : ∀ pair ∈ attributes, isName pair.1 = true) :
    Writes containers [.empty name attributes] (.element name attributes []) where
  solid := rfl
  renders _ _ _ _ :=
    ⟨(Piece.empty name attributes).render, Writer.writeAll_cons (Writer.write_empty ..) [],
      fun _ _ later => readChars_empty named names later⟩

/-- An element with a text is written, and its text is read as it is. -/
theorem writes_leaf (named : isName name = true)
    (names : ∀ pair ∈ attributes, isName pair.1 = true) (leaf : name ∉ containers)
    (content : String) :
    Writes containers [.start name attributes, .text content, .stop name]
      (.element name attributes [.text content]) where
  solid := rfl
  renders indent depth breakNext written := by
    refine ⟨(Piece.start name attributes).render ++
      ((Piece.text content).render ++ (Piece.stop name).render), ?_, ?_⟩
    · rw [Writer.writeAll_cons (Writer.write_start ..), Writer.writeAll_cons (Writer.write_text ..),
        Writer.writeAll_cons (Writer.write_stop ..), Writer.lead_straight,
        String.empty_append, String.append_assoc, String.append_assoc, String.append_assoc]
      rfl
    · intro rest reading later
      have stop := readChars_stop named later
      have text := readChars_text stop content
      have start := readChars_start named names text rfl
      rw [String.toList_append, String.toList_append, List.append_assoc, List.append_assoc, start,
        contents, if_neg leaf, Reading.parts, String.append_empty]

/-- What counts of parts that stand directly inside a container. -/
def counted (nodes : List Node) : List Node := nodes.filter (!·.isBlank)

/-- Blank text does not count. -/
theorem counted_text {content : String} (blank : ∀ c ∈ content.toList, isBlankChar c = true)
    (nodes : List Node) : counted (.text content :: nodes) = counted nodes := by
  have skipped : (Node.text content).isBlank = true := List.all_eq_true.mpr blank
  rw [counted, List.filter_cons_of_neg (by rw [skipped]; decide), counted]

/-- What is no blank text counts. -/
theorem counted_solid {node : Node} (solid : node.isBlank = false) (nodes : List Node) :
    counted (node :: nodes) = node :: counted nodes := by
  rw [counted, List.filter_cons_of_pos (by rw [solid]; decide), counted]

/-- Pieces that write one node after the other. -/
inductive WritesAll (containers : List String) : List Piece → List Node → Prop where
  /-- No pieces write no nodes. -/
  | nil : WritesAll containers [] []
  /-- Pieces write a node, and the pieces after them write the others. -/
  | cons {first later : List Piece} {node : Node} {nodes : List Node}
      (writes : Writes containers first node) (rest : WritesAll containers later nodes) :
      WritesAll containers (first ++ later) (node :: nodes)

/-- Nodes that are written one after the other are read one after the other, with nothing but blank
text between them. -/
theorem WritesAll.renders {pieces : List Piece} {nodes : List Node}
    (writes : WritesAll containers pieces nodes) (indent : Bool) (depth : Nat) (written : String) :
    ∃ rendered : String,
      Writer.writeAll ⟨indent, none, depth, true, written⟩ pieces =
        .ok ⟨indent, none, depth, true, written ++ rendered⟩ ∧
      ∀ rest reading, readChars containers rest = some reading →
        ∃ text others, readChars containers (rendered.toList ++ rest) =
            some ⟨text, others, reading.outer⟩ ∧
          counted (.text text :: others) = nodes ++ counted reading.parts := by
  induction writes generalizing written with
  | nil =>
    refine ⟨"", ?_, ?_⟩
    · rw [String.append_empty]
      rfl
    · intro rest reading later
      exact ⟨reading.text, reading.nodes, later, rfl⟩
  | @cons _ _ node _ here _ ih =>
    have blank := Writer.isBlankChar_of_mem_lead ⟨indent, none, depth, true, written⟩ depth
    obtain ⟨front, writes, reads⟩ := here.renders indent depth true written
    generalize Writer.lead ⟨indent, none, depth, true, written⟩ depth = lead at blank writes
    obtain ⟨back, writes', reads'⟩ := ih (written ++ (lead ++ front))
    refine ⟨lead ++ (front ++ back), ?_, ?_⟩
    · rw [Writer.writeAll_append writes, writes']
      simp only [String.append_assoc]
    · intro rest reading later
      obtain ⟨text, others, whole, counts⟩ := reads' rest reading later
      refine ⟨lead, node :: .text text :: others, ?_, ?_⟩
      · rw [String.toList_append, String.toList_append, List.append_assoc, List.append_assoc,
          readChars_blank (reads _ _ whole) blank, String.append_empty, Reading.parts]
      · rw [counted_text blank, counted_solid here.solid, counts]
        rfl

/-- A container is written, and of what stands in it nothing but blank text is left out. -/
theorem writes_branch (named : isName name = true)
    (names : ∀ pair ∈ attributes, isName pair.1 = true) (container : name ∈ containers)
    {pieces : List Piece} {nodes : List Node} (inside : WritesAll containers pieces nodes) :
    Writes containers (.start name attributes :: (pieces ++ [.stop name]))
      (.element name attributes nodes) where
  solid := rfl
  renders indent depth breakNext written := by
    generalize front : Writer.lead ⟨indent, none, depth, breakNext, written⟩ depth ++
      (Piece.start name attributes).render = opening
    obtain ⟨inner, writes, reads⟩ := inside.renders indent (depth + 1) (written ++ opening)
    have blank := Writer.isBlankChar_of_mem_lead
      ⟨indent, none, depth + 1, true, written ++ opening ++ inner⟩ depth
    generalize closing : Writer.lead ⟨indent, none, depth + 1, true, written ++ opening ++ inner⟩
      depth = lead at blank
    refine ⟨(Piece.start name attributes).render ++
      (inner ++ (lead ++ (Piece.stop name).render)), ?_, ?_⟩
    · rw [Writer.writeAll_cons (Writer.write_start ..), front, Writer.writeAll_append writes,
        Writer.writeAll_cons (Writer.write_stop ..), closing, ← front]
      simp only [String.append_assoc]
      rfl
    · intro rest reading later
      have stop := readChars_blank (readChars_stop named later) blank
      obtain ⟨text, others, whole, counts⟩ := reads _ _ stop
      have start := readChars_start named names whole rfl
      have within : contents containers name (Reading.parts ⟨text, others,
          (name, reading.parts) :: reading.outer⟩) = nodes := by
        rw [contents, if_pos container]
        refine counts.trans ?_
        rw [String.append_empty, Reading.parts, counted_text blank]
        exact List.append_nil _
      rw [String.toList_append, String.toList_append, String.toList_append, List.append_assoc,
        List.append_assoc, List.append_assoc, start, within]

/-- A document that was written is read as its node. -/
theorem Writes.read {pieces : List Piece} {children : List Node}
    (writes : Writes containers pieces (.element name attributes children)) (indent : Bool)
    {writer : Writer} (written : (Writer.new indent none).writeAll pieces = .ok writer) :
    Xml.read containers writer.written = some (.element name attributes children) := by
  obtain ⟨rendered, wrote, reads⟩ := writes.renders indent 0 false ""
  have last := reads [] ⟨"", [], []⟩ rfl
  rw [List.append_nil] at last
  rw [Writer.new, wrote, Writer.lead_straight, String.empty_append, String.empty_append] at written
  cases written
  rw [Xml.read, last]
  rfl

end EventLog.Xml
