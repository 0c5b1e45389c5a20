import EventLog.Proofs.RecordXml
import EventLog.Record.Stream
import EventLog.Xml.Progress
import Mathlib.Data.List.Forall2

/-!
# Writing many records is rendering each of them

Records that render by themselves are written to one document as these texts one after the other,
with a line break between two of them if they are indented, and after each of them no element is
open. Towards a limit, the first record with which the document no longer fits is the one that the
target refuses (`stream_joins_documents`).
-/

namespace EventLog.Record

open Xml (Piece Writer fits fits_of_append)

variable {record : Record} {indent : Bool} {limit : Option Nat}

/-- Documents one after the other; indented ones stand on lines of their own. -/
def joined (indent : Bool) (documents : List String) : String :=
  if indent then "\n".intercalate documents else String.join documents

/-- What stands between documents and the next one. -/
def gap (indent : Bool) (documents : List String) : String :=
  if indent && !documents.isEmpty then "\n" else ""

/-- A document after others. -/
theorem joined_concat (indent : Bool) (documents : List String) (document : String) :
    joined indent (documents ++ [document]) =
      joined indent documents ++ gap indent documents ++ document := by
  unfold joined gap
  cases indent with
  | false => simp [String.join_append, String.join_cons]
  | true =>
    induction documents with
    | nil => simp
    | cons first rest ih =>
      cases rest with
      | nil => simp
      | cons second others =>
        simp only [List.cons_append, String.intercalate_cons_cons, if_true] at ih ⊢
        rw [ih]
        simp [String.append_assoc]

/-- The writer of a document that holds these documents and nothing else. -/
def resting (indent : Bool) (limit : Option Nat) (documents : List String) : Writer where
  indent := indent
  limit := limit
  depth := 0
  breakNext := !documents.isEmpty
  written := joined indent documents

/-- At first there is no document. -/
theorem resting_nil (indent : Bool) (limit : Option Nat) :
    resting indent limit [] = .new indent limit := by
  cases indent <;> rfl

/-- A start tag after documents is what it is by itself, after the line break that may be there. -/
theorem advance_resting (documents : List String) (name : String) :
    (resting indent limit documents).advance (.start name []) =
      ((Writer.new indent none).advance (.start name [])).onto limit
        (joined indent documents ++ gap indent documents) := by
  have lead : (resting indent limit documents).lead 0 = gap indent documents := by
    unfold Writer.lead gap
    rfl
  have alone : (Writer.new indent none).lead 0 = "" := Writer.lead_straight ..
  have depth : (resting indent limit documents).depth = 0 := rfl
  have depth' : (Writer.new indent none).depth = 0 := rfl
  have written : (Writer.new indent none).written = "" := rfl
  simp only [Writer.advance, Writer.added, Writer.onto, depth, depth', written, lead, alone,
    String.empty_append, String.append_assoc]
  rfl

/-- The pieces of a record that renders open with its start tag, and by themselves make up its text
and leave no element open. -/
theorem advanceAll_of_xmlText {document : String} (renders : record.xmlText indent = .ok document) :
    ∃ rest, record.pieces = .ok (.start "Event" [] :: rest, none) ∧
      (Writer.new indent none).advanceAll (.start "Event" [] :: rest) =
        ⟨indent, none, 0, true, document⟩ := by
  obtain ⟨pieces, writer, whole, wrote, rfl⟩ := xmlText_eq_ok_iff.mp renders
  obtain ⟨source, computer, sid, texts, -, -, -, -, parts⟩ := pieces_eq_ok whole
  have front : ∃ rest, pieces = .start "Event" [] :: rest := ⟨_, parts⟩
  obtain ⟨rest, rfl⟩ := front
  have writes := writes_event record source computer sid texts
  obtain ⟨rendered, ends, -⟩ := writes.renders indent 0 false ""
  rw [← parts] at ends
  have unlimited : (Writer.new indent none).limit = none := rfl
  have free := Writer.writeAll_free unlimited (.start "Event" [] :: rest)
  have last : writer = (Writer.new indent none).advanceAll (.start "Event" [] :: rest) :=
    Except.ok.inj (wrote.symm.trans free)
  have last' : writer = ⟨indent, none, 0, true, _⟩ := Except.ok.inj (wrote.symm.trans ends)
  refine ⟨rest, whole, ?_⟩
  rw [← last, last']

/-- The pieces of a record that renders add its text to documents. -/
theorem advanceAll_resting {document : String} {rest : List Piece}
    (alone : (Writer.new indent none).advanceAll (.start "Event" [] :: rest) =
      ⟨indent, none, 0, true, document⟩) (limit : Option Nat) (documents : List String) :
    (resting indent limit documents).advanceAll (.start "Event" [] :: rest) =
      resting indent limit (documents ++ [document]) := by
  have turned := Writer.advanceAll_onto ((Writer.new indent none).advance (.start "Event" []))
    limit (joined indent documents ++ gap indent documents) rest
  rw [Writer.advanceAll, List.foldl_cons] at alone
  rw [Writer.advanceAll, List.foldl_cons, advance_resting]
  refine turned.trans ?_
  rw [Writer.advanceAll, alone]
  have some : (documents ++ [document]).isEmpty = false := by
    cases documents <;> rfl
  simp only [Writer.onto, resting, joined_concat, some, Bool.not_false]

/-- Documents begin with the first ones. -/
theorem fits_joined_of_append {front back : List String}
    (room : fits limit (joined indent (front ++ back)) = true) :
    fits limit (joined indent front) = true := by
  induction back generalizing front with
  | nil =>
    rw [List.append_nil] at room
    exact room
  | cons document back ih =>
    have shorter : fits limit (joined indent (front ++ [document])) = true := by
      refine ih ?_
      rw [List.append_assoc, List.singleton_append]
      exact room
    rw [joined_concat, String.append_assoc] at shorter
    exact fits_of_append shorter

/-- A record whose text fits after documents is written after them. -/
theorem writeXml_fitting {document : String} (renders : record.xmlText indent = .ok document)
    {documents : List String}
    (room : fits limit (joined indent (documents ++ [document])) = true) :
    record.writeXml (resting indent limit documents) =
      (.ok (), resting indent limit (documents ++ [document])) := by
  obtain ⟨rest, whole, alone⟩ := advanceAll_of_xmlText renders
  have ends := advanceAll_resting alone limit documents
  have taken : (resting indent limit documents).writeAll (.start "Event" [] :: rest) =
      .ok (resting indent limit (documents ++ [document])) := by
    rw [← ends]
    refine Writer.writeAll_fitting ?_
    rw [ends]
    exact room
  rw [writeXml, whole]
  dsimp only
  rw [taken]

/-- A record whose text does not fit after documents is refused. -/
theorem writeXml_excessive {document : String} (renders : record.xmlText indent = .ok document)
    {documents : List String} (room : fits limit (joined indent documents) = true)
    (excess : fits limit (joined indent (documents ++ [document])) = false) :
    (record.writeXml (resting indent limit documents)).1 = .error (.output Writer.refusal) := by
  obtain ⟨rest, whole, alone⟩ := advanceAll_of_xmlText renders
  have ends := advanceAll_resting alone limit documents
  have refused : (resting indent limit documents).writeAll (.start "Event" [] :: rest) =
      .error (.output Writer.refusal) := by
    refine Writer.writeAll_excessive room ?_
    rw [ends]
    exact excess
  rw [writeXml, whole]
  dsimp only
  rw [refused]

section Streams

variable {records : List Record} {documents : List String}

/-- Records whose texts fit after documents are all written after them. -/
theorem stream_fitting
    (renders : List.Forall₂ (fun record document => record.xmlText indent = .ok document)
      records documents) {front : List String}
    (room : fits limit (joined indent (front ++ documents)) = true) :
    stream records (resting indent limit front) =
      ⟨List.replicate records.length (.ok ()),
        some (resting indent limit (front ++ documents))⟩ := by
  induction renders generalizing front with
  | nil =>
    rw [List.append_nil]
    rfl
  | @cons record document records documents here _ ih =>
    rw [← List.singleton_append, ← List.append_assoc] at room
    have first := writeXml_fitting here (fits_joined_of_append room)
    rw [stream, first]
    dsimp only
    rw [ih room, List.append_assoc, List.singleton_append, List.length_cons, List.replicate_succ]

/-- Of records whose texts do not all fit after documents, those before the first that does not fit
are written, and that one is refused. -/
theorem stream_excessive
    (renders : List.Forall₂ (fun record document => record.xmlText indent = .ok document)
      records documents) {front : List String}
    (room : fits limit (joined indent front) = true)
    (excess : fits limit (joined indent (front ++ documents)) = false) :
    ∃ index < records.length,
      fits limit (joined indent (front ++ documents.take index)) = true ∧
        fits limit (joined indent (front ++ documents.take (index + 1))) = false ∧
        stream records (resting indent limit front) =
          ⟨List.replicate index (.ok ()) ++ [.error (.output Writer.refusal)], none⟩ := by
  induction renders generalizing front with
  | nil =>
    rw [List.append_nil, room] at excess
    cases excess
  | @cons record document records documents here _ ih =>
    cases first : fits limit (joined indent (front ++ [document])) with
    | true =>
      rw [← List.singleton_append, ← List.append_assoc] at excess
      obtain ⟨index, within, fitting, excessive, ends⟩ := ih first excess
      refine ⟨index + 1, Nat.succ_lt_succ within, ?_, ?_, ?_⟩
      · rw [List.take_succ_cons, ← List.singleton_append, ← List.append_assoc]
        exact fitting
      · rw [List.take_succ_cons, ← List.singleton_append, ← List.append_assoc]
        exact excessive
      · rw [stream, writeXml_fitting here first]
        dsimp only
        rw [ends, List.replicate_succ, List.cons_append]
    | false =>
      refine ⟨0, Nat.succ_pos _, ?_, first, ?_⟩
      · rw [List.take_zero, List.append_nil]
        exact room
      · have refused := writeXml_excessive here room first
        rw [stream]
        generalize record.writeXml (resting indent limit front) = ending at refused
        obtain ⟨result, writer⟩ := ending
        cases refused
        rfl

/-- Records that render are written to one document as their texts, joined by a line break if they
are indented, and after each of them no element is open. If there is a limit that the document
would pass, the target refuses the first record with which it does, and takes those before. -/
theorem stream_joins_documents
    (renders : List.Forall₂ (fun record document => record.xmlText indent = .ok document)
      records documents) :
    (∀ limit count, fits limit (joined indent (documents.take count)) = true →
      stream (records.take count) (.new indent limit) =
        ⟨List.replicate (records.take count).length (.ok ()),
          some (resting indent limit (documents.take count))⟩) ∧
    ∀ limit, fits limit (joined indent documents) = false →
      ∃ index < records.length,
        fits limit (joined indent (documents.take index)) = true ∧
          fits limit (joined indent (documents.take (index + 1))) = false ∧
          stream records (.new indent limit) =
            ⟨List.replicate index (.ok ()) ++ [.error (.output Writer.refusal)], none⟩ := by
  refine ⟨?_, ?_⟩
  · intro limit count room
    have room' : fits limit (joined indent ([] ++ documents.take count)) = true := room
    rw [← resting_nil]
    exact stream_fitting (List.forall₂_take count renders) room'
  · intro limit excess
    have nothing : fits limit (joined indent []) = true := by
      cases limit <;> cases indent <;> rfl
    rw [← resting_nil]
    exact stream_excessive renders nothing excess

/-- A record without contents and one whose strings look like markup are written with a line break
between their texts. If the limit is one byte short of that, the second is refused. -/
theorem markup_streams : ∃ first second,
    (Session.plainRecord 7).xmlText true = .ok first ∧ markupRecord.xmlText true = .ok second ∧
    stream [Session.plainRecord 7, markupRecord] (.new true none) =
      ⟨[.ok (), .ok ()], some ⟨true, none, 0, true, first ++ "\n" ++ second⟩⟩ ∧
    stream [Session.plainRecord 7, markupRecord] (.new true (some 849)) =
      ⟨[.ok (), .error (.output Writer.refusal)], none⟩ := by
  have sizes : ((Session.plainRecord 7).xmlText true).toOption.map (·.utf8ByteSize) = some 363 ∧
      (markupRecord.xmlText true).toOption.map (·.utf8ByteSize) = some 486 := by decide +kernel
  obtain ⟨first, renders⟩ : ∃ first, (Session.plainRecord 7).xmlText true = .ok first := ⟨_, rfl⟩
  obtain ⟨second, renders'⟩ : ∃ second, markupRecord.xmlText true = .ok second := ⟨_, rfl⟩
  rw [renders, renders'] at sizes
  have short : first.utf8ByteSize = 363 := Option.some.inj sizes.1
  have long : second.utf8ByteSize = 486 := Option.some.inj sizes.2
  have alone : joined true [first] = first := rfl
  have both : joined true [first, second] = first ++ "\n" ++ second := rfl
  have last : resting true none [first, second] =
      ⟨true, none, 0, true, first ++ "\n" ++ second⟩ := rfl
  have newline : "\n".utf8ByteSize = 1 := rfl
  obtain ⟨free, limited⟩ := stream_joins_documents (.cons renders (.cons renders' .nil))
  have fitting : fits (some 849) (joined true [first]) = true := by
    rw [alone, fits, Option.all_some, short]
    rfl
  have excessive : fits (some 849) (joined true [first, second]) = false := by
    rw [both, fits, Option.all_some, String.utf8ByteSize_append, String.utf8ByteSize_append, short,
      long, newline]
    rfl
  obtain ⟨index, within, -, excess, ends⟩ := limited (some 849) excessive
  have taken := free none 2 rfl
  simp only [List.take_succ_cons, List.take_zero, last] at taken
  have later : index ≠ 0 := by
    rintro rfl
    exact absurd (fitting.symm.trans excess) Bool.noConfusion
  have second' : index = 1 := by
    have within' : index < 2 := within
    omega
  subst second'
  exact ⟨first, second, renders, renders', taken, ends⟩

end Streams

end EventLog.Record
