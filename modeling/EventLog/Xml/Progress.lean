import EventLog.Xml

/-!
# How a document grows

What a piece adds to a document is up to the writer and the piece, and not to the target: `advance`
is the writer after a piece that the target took. Writing pieces leads there if the document fits
with them (`writeAll_fitting`), and else the target refuses one of them (`writeAll_excessive`). A
document grows in the same way after other text and towards another limit (`advanceAll_onto`).
-/

namespace EventLog.Xml

/-- The piece is a tag, and so the next tag starts a new line. -/
def Piece.isTag : Piece → Bool
  | start .. | empty .. | stop _ => true
  | text _ => false

/-- The target takes a text of this size, if there is a limit at all. -/
def fits (limit : Option Nat) (text : String) : Bool :=
  limit.all fun bytes => text.utf8ByteSize ≤ bytes

/-- What fits together with text after it fits without. -/
theorem fits_of_append {limit : Option Nat} {first second : String}
    (room : fits limit (first ++ second) = true) : fits limit first = true := by
  cases limit with
  | none => rfl
  | some bytes =>
    have room' : (first ++ second).utf8ByteSize ≤ bytes := of_decide_eq_true room
    rw [String.utf8ByteSize_append] at room'
    exact decide_eq_true (Nat.le_trans (Nat.le_add_right _ _) room')

namespace Writer

/-- What a piece adds to a document. -/
def added (writer : Writer) (piece : Piece) : String :=
  match piece with
  | .start .. | .empty .. => writer.lead writer.depth ++ piece.render
  | .text _ => piece.render
  | .stop _ => writer.lead (writer.depth - 1) ++ piece.render

/-- How many elements are open after a piece. -/
def depthAfter (writer : Writer) : Piece → Nat
  | .start .. => writer.depth + 1
  | .empty .. | .text _ => writer.depth
  | .stop _ => writer.depth - 1

/-- The writer after a piece that the target took. -/
def advance (writer : Writer) (piece : Piece) : Writer where
  indent := writer.indent
  limit := writer.limit
  depth := writer.depthAfter piece
  breakNext := piece.isTag
  written := writer.written ++ writer.added piece

/-- The writer after pieces that the target took. -/
def advanceAll (writer : Writer) (pieces : List Piece) : Writer := pieces.foldl advance writer

/-- Pieces after pieces. -/
theorem advanceAll_append (writer : Writer) (first second : List Piece) :
    writer.advanceAll (first ++ second) = (writer.advanceAll first).advanceAll second :=
  List.foldl_append

/-- Text that fits is handed to the target. -/
theorem put_fitting {writer : Writer} {text : String}
    (room : fits writer.limit (writer.written ++ text) = true) :
    writer.put text = .ok { writer with written := writer.written ++ text } := by
  unfold put
  cases limit : writer.limit with
  | none => rfl
  | some bytes =>
    rw [limit] at room
    exact if_neg (Nat.not_lt.mpr (of_decide_eq_true room))

/-- Text that does not fit is refused. -/
theorem put_excessive {writer : Writer} {text : String}
    (excess : fits writer.limit (writer.written ++ text) = false) :
    writer.put text = .error (.output refusal) := by
  unfold put
  cases limit : writer.limit with
  | none =>
    rw [limit] at excess
    cases excess
  | some bytes =>
    rw [limit] at excess
    exact if_pos (Nat.not_le.mp (of_decide_eq_false excess))

/-- A piece with which the document fits is written. -/
theorem write_fitting {writer : Writer} {piece : Piece}
    (room : fits writer.limit (writer.advance piece).written = true) :
    writer.write piece = .ok (writer.advance piece) := by
  have taken := put_fitting room
  cases piece <;> (rw [added] at taken; rw [write, taken]; rfl)

/-- A piece with which the document does not fit is refused. -/
theorem write_excessive {writer : Writer} {piece : Piece}
    (excess : fits writer.limit (writer.advance piece).written = false) :
    writer.write piece = .error (.output refusal) := by
  have refused := put_excessive excess
  cases piece <;> (rw [added] at refused; rw [write, refused]; rfl)

/-- A document only grows. -/
theorem exists_written_advanceAll (writer : Writer) (pieces : List Piece) :
    ∃ text, (writer.advanceAll pieces).written = writer.written ++ text := by
  induction pieces generalizing writer with
  | nil => exact ⟨"", String.append_empty.symm⟩
  | cons piece pieces ih =>
    obtain ⟨text, grows⟩ := ih (writer.advance piece)
    refine ⟨writer.added piece ++ text, ?_⟩
    rw [← String.append_assoc]
    exact grows

/-- The limit of the target stays. -/
theorem limit_advanceAll (writer : Writer) (pieces : List Piece) :
    (writer.advanceAll pieces).limit = writer.limit := by
  induction pieces generalizing writer with
  | nil => rfl
  | cons piece pieces ih => exact ih (writer.advance piece)

/-- Whether the document is indented stays. -/
theorem indent_advanceAll (writer : Writer) (pieces : List Piece) :
    (writer.advanceAll pieces).indent = writer.indent := by
  induction pieces generalizing writer with
  | nil => rfl
  | cons piece pieces ih => exact ih (writer.advance piece)

/-- Pieces with all of which the document fits are written. -/
theorem writeAll_fitting {writer : Writer} {pieces : List Piece}
    (room : fits writer.limit (writer.advanceAll pieces).written = true) :
    writer.writeAll pieces = .ok (writer.advanceAll pieces) := by
  induction pieces generalizing writer with
  | nil => rfl
  | cons piece pieces ih =>
    obtain ⟨text, grows⟩ := exists_written_advanceAll (writer.advance piece) pieces
    have whole : fits writer.limit ((writer.advance piece).written ++ text) = true := by
      rw [← grows]
      exact room
    rw [writeAll, List.foldlM_cons, write_fitting (fits_of_append whole)]
    exact ih room

/-- Pieces with all of which the document no longer fits are refused. -/
theorem writeAll_excessive {writer : Writer} {pieces : List Piece}
    (room : fits writer.limit writer.written = true)
    (excess : fits writer.limit (writer.advanceAll pieces).written = false) :
    writer.writeAll pieces = .error (.output refusal) := by
  induction pieces generalizing writer with
  | nil =>
    rw [advanceAll, List.foldl_nil, room] at excess
    cases excess
  | cons piece pieces ih =>
    rw [writeAll, List.foldlM_cons]
    cases first : fits writer.limit (writer.advance piece).written with
    | true =>
      rw [write_fitting first]
      exact ih first excess
    | false =>
      rw [write_excessive first]
      rfl

/-- Without a limit all pieces are written. -/
theorem writeAll_free {writer : Writer} (free : writer.limit = none) (pieces : List Piece) :
    writer.writeAll pieces = .ok (writer.advanceAll pieces) := by
  refine writeAll_fitting ?_
  rw [free]
  rfl

/-- The same writer after other text and with another limit. -/
def onto (writer : Writer) (limit : Option Nat) (before : String) : Writer :=
  { writer with limit, written := before ++ writer.written }

/-- A piece adds the same after other text and towards another limit. -/
theorem advance_onto (writer : Writer) (limit : Option Nat) (before : String) (piece : Piece) :
    (writer.onto limit before).advance piece = (writer.advance piece).onto limit before := by
  have added : (writer.onto limit before).added piece = writer.added piece := by
    cases piece <;> rfl
  have depth : (writer.onto limit before).depthAfter piece = writer.depthAfter piece := by
    cases piece <;> rfl
  simp only [advance, added, depth]
  simp only [onto, String.append_assoc]

/-- Pieces add the same after other text and towards another limit. -/
theorem advanceAll_onto (writer : Writer) (limit : Option Nat) (before : String)
    (pieces : List Piece) :
    (writer.onto limit before).advanceAll pieces =
      (writer.advanceAll pieces).onto limit before := by
  induction pieces generalizing writer with
  | nil => rfl
  | cons piece pieces ih =>
    have first := advance_onto writer limit before piece
    rw [advanceAll, List.foldl_cons, first]
    exact ih (writer.advance piece)

end Writer

end EventLog.Xml
