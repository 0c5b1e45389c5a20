import EventLog.Proofs.Legibility
import EventLog.Record.Stream
import EventLog.Xml.Progress

/-!
# What a record that cannot be rendered leaves in a document

The names and the security identifier of a record are decoded before anything is written, and its
strings when their turn comes. So a record with a name that is no text leaves the document as it
was, and one with a string that is no text (`breaksOff`) leaves two elements open, in which all
later records stand. The document is that of the records which render just if no record breaks off
(`stream_clean_iff`). Against that document, one in which records broke off is never shorter again:
the writer of the one stays behind that of the other (`Behind`).
-/

namespace EventLog.Xml.Writer

/-- One writer is behind another, by at least so many bytes: it is no deeper, and starts no new line
unless the other does. -/
structure Behind (bytes : Nat) (slow fast : Writer) : Prop where
  /-- Either both indent or none does. -/
  indent : slow.indent = fast.indent
  /-- It is no deeper. -/
  depth : slow.depth ≤ fast.depth
  /-- If its next tag starts a new line, so does that of the other. -/
  breakNext : slow.breakNext = true → fast.breakNext = true
  /-- It has written less. -/
  size : slow.written.utf8ByteSize + bytes ≤ fast.written.utf8ByteSize

/-- A writer is not ahead of itself. -/
theorem Behind.refl (writer : Writer) : Behind 0 writer writer :=
  ⟨rfl, Nat.le_refl _, id, Nat.le_refl _⟩

/-- Who is behind someone behind another is behind that one, by both distances. -/
theorem Behind.trans {bytes bytes' : Nat} {slow middle fast : Writer}
    (behind : Behind bytes slow middle) (behind' : Behind bytes' middle fast) :
    Behind (bytes + bytes') slow fast where
  indent := behind.indent.trans behind'.indent
  depth := Nat.le_trans behind.depth behind'.depth
  breakNext := behind'.breakNext ∘ behind.breakNext
  size := by
    have first := behind.size
    have second := behind'.size
    omega

variable {bytes : Nat} {slow fast : Writer}

/-- A writer that is behind puts no more blanks in front of a tag. -/
theorem Behind.size_lead (behind : Behind bytes slow fast) {depth depth' : Nat}
    (shallow : depth ≤ depth') :
    (slow.lead depth).utf8ByteSize ≤ (fast.lead depth').utf8ByteSize := by
  unfold lead
  cases breaks : slow.indent && slow.breakNext with
  | false => exact Nat.zero_le _
  | true =>
    obtain ⟨indented, next⟩ := Bool.and_eq_true_iff.mp breaks
    have blanks : '\n' :: List.replicate (2 * depth') ' ' =
        ('\n' :: List.replicate (2 * depth) ' ') ++ List.replicate (2 * (depth' - depth)) ' ' := by
      rw [List.cons_append, List.replicate_append_replicate]
      congr 2
      omega
    rw [← behind.indent, indented, behind.breakNext next, Bool.and_true, if_pos rfl, if_pos rfl,
      blanks, String.ofList_append, String.utf8ByteSize_append]
    exact Nat.le_add_right _ _

/-- A writer that is behind stays so with every piece. -/
theorem Behind.advance (behind : Behind bytes slow fast) (piece : Piece) :
    Behind bytes (slow.advance piece) (fast.advance piece) := by
  have size := behind.size
  have depth := behind.depth
  have grows {text text' : String} (shorter : text.utf8ByteSize ≤ text'.utf8ByteSize) :
      (slow.written ++ text).utf8ByteSize + bytes ≤ (fast.written ++ text').utf8ByteSize := by
    rw [String.utf8ByteSize_append, String.utf8ByteSize_append]
    omega
  have tag {front front' : String} (render : String)
      (shorter : front.utf8ByteSize ≤ front'.utf8ByteSize) :
      (front ++ render).utf8ByteSize ≤ (front' ++ render).utf8ByteSize := by
    rw [String.utf8ByteSize_append, String.utf8ByteSize_append]
    omega
  cases piece with
  | start name attributes =>
    exact ⟨behind.indent, Nat.succ_le_succ depth, id, grows (tag _ (behind.size_lead depth))⟩
  | empty name attributes =>
    exact ⟨behind.indent, depth, id, grows (tag _ (behind.size_lead depth))⟩
  | text content => exact ⟨behind.indent, depth, id, grows (Nat.le_refl _)⟩
  | stop name =>
    have shallow : slow.depth - 1 ≤ fast.depth - 1 := Nat.sub_le_sub_right depth 1
    exact ⟨behind.indent, shallow, id, grows (tag _ (behind.size_lead shallow))⟩

/-- A writer that is behind stays so with all pieces. -/
theorem Behind.advanceAll (behind : Behind bytes slow fast) (pieces : List Piece) :
    Behind bytes (slow.advanceAll pieces) (fast.advanceAll pieces) := by
  induction pieces generalizing slow fast with
  | nil => exact behind
  | cons piece pieces ih => exact ih (behind.advance piece)

end EventLog.Xml.Writer

namespace EventLog.Record

open Xml (Piece Writer WritesAll Writes)
open Xml.Writer (Behind)

/-- The names and the security identifier of the record can be decoded, but not all of its strings:
writing it ends within it. -/
def breaksOff (record : Record) : Bool :=
  record.sourceText.isOk && record.computerText.isOk && record.sid.isOk &&
    !record.texts.all Except.isOk

/-- The record has an XML text. -/
def renders (indent : Bool) (record : Record) : Bool := (record.xmlText indent).isOk

variable {record : Record} {writer : Writer}

/-- A writer without a limit takes all pieces of a record. -/
theorem writeXml_free (free : writer.limit = none) {pieces : List Piece}
    {failure : Option DecodeError} (made : record.pieces = .ok (pieces, failure)) :
    record.writeXml writer =
      (failure.elim (.ok ()) fun cause => .error (.field cause), writer.advanceAll pieces) := by
  rw [writeXml, made]
  dsimp only
  rw [Writer.writeAll_free free]
  cases failure <;> rfl

/-- To a writer without a limit, a record is written just as it renders by itself. -/
theorem result_writeXml (free : writer.limit = none) (record : Record) (indent : Bool) :
    (record.writeXml writer).1 = (record.xmlText indent).map fun _ => () := by
  cases parts : record.pieces with
  | error error => rw [xmlText, writeXml, writeXml, parts]; rfl
  | ok made =>
    obtain ⟨pieces, failure⟩ := made
    have unlimited : (Writer.new indent none).limit = none := rfl
    rw [xmlText, writeXml_free free parts, writeXml_free unlimited parts]
    cases failure <;> rfl

/-- The pieces of strings are those of the texts in front of the first that is none, if any. -/
theorem exists_texts_of_stringPieces (strings : List (Except DecodeError String)) :
    (∃ texts : List String, (stringPieces strings).1 = texts.flatMap (textElement "Data" [])) ∧
      ((stringPieces strings).2 = none ↔ strings.all Except.isOk = true) := by
  induction strings with
  | nil => exact ⟨⟨[], rfl⟩, iff_of_true rfl rfl⟩
  | cons string rest ih =>
    cases string with
    | error cause => exact ⟨⟨[], rfl⟩, iff_of_false nofun nofun⟩
    | ok text =>
      obtain ⟨⟨texts, parts⟩, complete⟩ := ih
      refine ⟨⟨text :: texts, ?_⟩, complete⟩
      rw [stringPieces, List.flatMap_cons, ← parts]

/-- What a record leaves behind is up to its fields: nothing is made of it, or all of its pieces, or
those up to a string. -/
theorem pieces_cases (record : Record) :
    (record.breaksOff = false ∧ ∃ error, record.pieces = .error error) ∨
      (record.breaksOff = false ∧ ∃ pieces, record.pieces = .ok (pieces, none)) ∨
      (record.breaksOff = true ∧ ∃ pieces cause, record.pieces = .ok (pieces, some cause)) := by
  obtain ⟨body, equal⟩ := record.exists_pieces_eq
  obtain ⟨-, complete⟩ := exists_texts_of_stringPieces record.texts
  unfold breaksOff
  cases source : record.sourceText with
  | error cause =>
    rw [source] at equal
    exact .inl ⟨rfl, _, equal⟩
  | ok name =>
    cases computer : record.computerText with
    | error cause =>
      rw [source, computer] at equal
      exact .inl ⟨rfl, _, equal⟩
    | ok name' =>
      cases sid : record.sid with
      | error cause =>
        rw [source, computer, sid] at equal
        exact .inl ⟨rfl, _, equal⟩
      | ok identifier =>
        rw [source, computer, sid] at equal
        cases ended : (stringPieces record.texts).2 with
        | none =>
          rw [ended] at equal complete
          rw [complete.mp rfl]
          exact .inr (.inl ⟨rfl, _, equal⟩)
        | some cause =>
          rw [ended] at equal complete
          have incomplete : record.texts.all Except.isOk = false :=
            Bool.eq_false_iff.mpr fun all => Option.some_ne_none cause (complete.mpr all)
          rw [incomplete]
          exact .inr (.inr ⟨rfl, _, _, equal⟩)

/-- The pieces of a record that breaks off are those that describe the event, and the elements of
some texts. -/
theorem pieces_cut {pieces : List Piece} {cause : DecodeError}
    (cut : record.pieces = .ok (pieces, some cause)) :
    ∃ source computer sid, ∃ texts : List String,
      pieces = record.systemPieces source computer sid ++
        texts.flatMap (textElement "Data" []) := by
  obtain ⟨source, -, cut⟩ := bind_eq_ok_iff.mp cut
  obtain ⟨computer, -, cut⟩ := bind_eq_ok_iff.mp cut
  obtain ⟨sid, -, cut⟩ := bind_eq_ok_iff.mp cut
  obtain ⟨⟨texts, parts⟩, -⟩ := exists_texts_of_stringPieces record.texts
  dsimp only at cut
  cases strings : stringPieces record.texts with
  | mk middle failure =>
    rw [strings] at cut parts
    cases failure with
    | none => cases cut
    | some other =>
      cases cut
      exact ⟨source, computer, sid, texts, congrArg _ parts⟩

/-- Pieces that write a node leave the writer as deep as it was. -/
theorem depth_of_writes {pieces : List Piece} {node : Xml.Node}
    (writes : Writes containers pieces node) (free : writer.limit = none) :
    (writer.advanceAll pieces).depth = writer.depth := by
  obtain ⟨indent, limit, depth, breakNext, written⟩ := writer
  cases free
  obtain ⟨rendered, ends, -⟩ := writes.renders indent depth breakNext written
  rw [Writer.writeAll_free rfl] at ends
  rw [Except.ok.inj ends]

/-- Pieces that write nodes on lines of their own leave the writer as deep as it was, and in front
of a new line. -/
theorem depth_of_writesAll {pieces : List Piece} {nodes : List Xml.Node}
    (writes : WritesAll containers pieces nodes) (free : writer.limit = none)
    (breaks : writer.breakNext = true) :
    (writer.advanceAll pieces).depth = writer.depth ∧
      (writer.advanceAll pieces).breakNext = true := by
  obtain ⟨indent, limit, depth, breakNext, written⟩ := writer
  cases free
  cases breaks
  obtain ⟨rendered, ends, -⟩ := writes.renders indent depth written
  rw [Writer.writeAll_free rfl] at ends
  rw [Except.ok.inj ends]
  exact ⟨rfl, rfl⟩

/-- A record that is written leaves no element open. -/
theorem depth_of_whole {pieces : List Piece} (whole : record.pieces = .ok (pieces, none))
    (free : writer.limit = none) : (writer.advanceAll pieces).depth = writer.depth := by
  obtain ⟨source, computer, sid, texts, -, -, -, -, rfl⟩ := pieces_eq_ok whole
  exact depth_of_writes (writes_event record source computer sid texts) free

/-- A record that breaks off leaves two elements open, and the writer in front of a new line. -/
theorem depth_of_cut {pieces : List Piece} {cause : DecodeError}
    (cut : record.pieces = .ok (pieces, some cause)) (free : writer.limit = none) :
    (writer.advanceAll pieces).depth = writer.depth + 2 ∧
      (writer.advanceAll pieces).breakNext = true := by
  obtain ⟨source, computer, sid, texts, rfl⟩ := pieces_cut cut
  obtain ⟨describing, writesSystem, system⟩ := writesAll_system record source computer sid
  have writesTexts := writesAll_texts .nil texts
  rw [List.append_nil, List.append_nil] at writesTexts
  -- Two elements are started, the second is ended after all that describes the event, and a third
  -- is started in its place, in which the strings stand.
  generalize started : (writer.advance (.start "Event" [])).advance (.start "System" []) = inside
  have depth : inside.depth = writer.depth + 2 := by
    rw [← started]
    rfl
  have breaks : inside.breakNext = true := by
    rw [← started]
    rfl
  have free' : inside.limit = none := by
    rw [← started]
    exact free
  obtain ⟨described, -⟩ := depth_of_writesAll writesSystem free' breaks
  have free'' := (inside.limit_advanceAll describing).trans free'
  have front : writer.advanceAll (record.systemPieces source computer sid) =
      (inside.advanceAll describing).advanceAll [.stop "System", .start "EventData" []] := by
    rw [← Writer.advanceAll_append, ← started, system]
    rfl
  have closed : ((inside.advanceAll describing).advanceAll
      [.stop "System", .start "EventData" []]).depth = writer.depth + 2 := by
    show (inside.advanceAll describing).depth - 1 + 1 = writer.depth + 2
    rw [described, depth]
    rfl
  rw [Writer.advanceAll_append, front, ← closed]
  exact depth_of_writesAll writesTexts free'' rfl

/-- A record that breaks off brings the writer ahead of itself. -/
theorem behind_of_cut {pieces : List Piece} {cause : DecodeError}
    (cut : record.pieces = .ok (pieces, some cause)) (free : writer.limit = none) :
    Behind 1 writer (writer.advanceAll pieces) := by
  obtain ⟨depth, breaks⟩ := depth_of_cut cut free
  obtain ⟨source, computer, sid, texts, rfl⟩ := pieces_cut cut
  have front : ∃ rest, record.systemPieces source computer sid ++
      texts.flatMap (textElement "Data" []) = .start "Event" [] :: rest := ⟨_, rfl⟩
  obtain ⟨rest, parts⟩ := front
  rw [parts] at depth breaks ⊢
  obtain ⟨text, grows⟩ := (writer.advance (.start "Event" [])).exists_written_advanceAll rest
  have tag : (Piece.start "Event" []).render.utf8ByteSize = 7 := by decide
  refine ⟨(writer.indent_advanceAll _).symm, by omega, fun _ => breaks, ?_⟩
  have written : (writer.advanceAll (.start "Event" [] :: rest)).written =
      writer.written ++ (writer.lead writer.depth ++ (Piece.start "Event" []).render) ++ text :=
    grows
  rw [written]
  simp only [String.utf8ByteSize_append, tag]
  omega

/-- The ways in which a record can be written without a limit: it changes nothing, or it renders and
leaves no element open, or it breaks off and leaves two of them open. -/
theorem writeXml_cases (record : Record) (indent : Bool) :
    (record.breaksOff = false ∧ record.renders indent = false ∧
        ∀ writer : Writer, writer.limit = none → (record.writeXml writer).2 = writer) ∨
      (record.breaksOff = false ∧ record.renders indent = true ∧
        ∃ pieces, ∀ writer : Writer, writer.limit = none →
          (record.writeXml writer).2 = writer.advanceAll pieces ∧
            (writer.advanceAll pieces).depth = writer.depth) ∨
      (record.breaksOff = true ∧ record.renders indent = false ∧
        ∃ pieces, ∀ writer : Writer, writer.limit = none →
          (record.writeXml writer).2 = writer.advanceAll pieces ∧
            (writer.advanceAll pieces).depth = writer.depth + 2 ∧
            Behind 1 writer (writer.advanceAll pieces)) := by
  have unlimited : (Writer.new indent none).limit = none := rfl
  rcases record.pieces_cases with ⟨going, error, unmade⟩ | ⟨going, pieces, whole⟩ |
    ⟨broken, pieces, cause, cut⟩
  · refine .inl ⟨going, ?_, fun writer _ => ?_⟩
    · rw [renders, xmlText, writeXml, unmade]
      rfl
    · rw [writeXml, unmade]
  · refine .inr (.inl ⟨going, ?_, pieces, fun writer free => ?_⟩)
    · rw [renders, xmlText, writeXml_free unlimited whole]
      rfl
    · rw [writeXml_free free whole]
      exact ⟨rfl, depth_of_whole whole free⟩
  · refine .inr (.inr ⟨broken, ?_, pieces, fun writer free => ?_⟩)
    · rw [renders, xmlText, writeXml_free unlimited cut]
      rfl
    · rw [writeXml_free free cut]
      exact ⟨rfl, (depth_of_cut cut free).1, behind_of_cut cut free⟩

/-- Without a limit there is none after a record, either. -/
theorem limit_writeXml (free : writer.limit = none) (record : Record) :
    (record.writeXml writer).2.limit = none := by
  rcases record.writeXml_cases true with ⟨-, -, ends⟩ | ⟨-, -, pieces, ends⟩ | ⟨-, -, pieces, ends⟩
  · rw [ends writer free]
    exact free
  · rw [(ends writer free).1]
    exact (writer.limit_advanceAll pieces).trans free
  · rw [(ends writer free).1]
    exact (writer.limit_advanceAll pieces).trans free

/-- Without a limit all records get their turn. -/
theorem stream_cons_free (free : writer.limit = none) (record : Record) (rest : List Record) :
    stream (record :: rest) writer =
      ⟨(record.writeXml writer).1 :: (stream rest (record.writeXml writer).2).results,
        (stream rest (record.writeXml writer).2).writer⟩ := by
  have result := result_writeXml free record true
  rw [stream]
  generalize record.writeXml writer = ending at result
  obtain ⟨written, after⟩ := ending
  cases rendered : record.xmlText true with
  | ok document =>
    rw [rendered] at result
    cases result
    rfl
  | error error =>
    obtain ⟨cause, rfl, -⟩ := illegible_of_xmlText rendered
    rw [rendered] at result
    cases result
    rfl

/-- Without a limit each record is written just as it renders by itself. -/
theorem results_stream (free : writer.limit = none) (records : List Record) (indent : Bool) :
    (stream records writer).results =
      records.map fun record => (record.xmlText indent).map fun _ => () := by
  induction records generalizing writer with
  | nil => rfl
  | cons record rest ih =>
    rw [stream_cons_free free, List.map_cons, ← result_writeXml free,
      ih (limit_writeXml free record)]

/-- If no record breaks off, those that do not render could as well not be there. -/
theorem stream_filter (free : writer.limit = none) (indent : Bool) {records : List Record}
    (going : ∀ record ∈ records, record.breaksOff = false) :
    (stream records writer).writer = (stream (records.filter (renders indent)) writer).writer := by
  induction records generalizing writer with
  | nil => rfl
  | cons record rest ih =>
    obtain ⟨here, later⟩ := List.forall_mem_cons.mp going
    have ih' := ih (limit_writeXml free record) later
    rw [stream_cons_free free]
    dsimp only
    rcases record.writeXml_cases indent with ⟨-, fails, ends⟩ | ⟨-, good, -⟩ | ⟨broken, -⟩
    · rw [List.filter_cons_of_neg (ne_of_eq_of_ne fails Bool.false_ne_true), ih', ends writer free]
    · rw [List.filter_cons_of_pos good, stream_cons_free free, ih']
    · rw [here] at broken
      cases broken

/-- Records that break off bring a writer ahead of one that does not get them, and leave two
elements open each. -/
theorem stream_behind (indent : Bool) (records : List Record) {bytes : Nat} {slow fast : Writer}
    (free : slow.limit = none) (free' : fast.limit = none) (behind : Behind bytes slow fast) :
    ∃ clean whole, (stream (records.filter (renders indent)) slow).writer = some clean ∧
      (stream records fast).writer = some whole ∧ clean.depth = slow.depth ∧
      whole.depth = fast.depth + 2 * records.countP breaksOff ∧
      Behind (bytes + records.countP breaksOff) clean whole := by
  induction records generalizing bytes slow fast with
  | nil => exact ⟨slow, fast, rfl, rfl, rfl, rfl, behind⟩
  | cons record rest ih =>
    have free'' := limit_writeXml free' record
    rw [stream_cons_free free']
    dsimp only
    rcases record.writeXml_cases indent with ⟨going, fails, ends⟩ | ⟨going, good, pieces, ends⟩ |
      ⟨broken, fails, pieces, ends⟩
    · have skipped := List.filter_cons_of_neg (l := rest) (ne_of_eq_of_ne fails Bool.false_ne_true)
      have counted := List.countP_cons_of_neg (l := rest) (ne_of_eq_of_ne going Bool.false_ne_true)
      rw [skipped, counted, ends fast free']
      exact ih free free' behind
    · have counted := List.countP_cons_of_neg (l := rest) (ne_of_eq_of_ne going Bool.false_ne_true)
      obtain ⟨slowly, depth⟩ := ends slow free
      obtain ⟨fastly, depth'⟩ := ends fast free'
      have taken := stream_cons_free free record (rest.filter (renders indent))
      rw [List.filter_cons_of_pos good, counted, taken]
      dsimp only
      rw [fastly] at free'' ⊢
      rw [slowly, ← depth, ← depth']
      exact ih ((slow.limit_advanceAll pieces).trans free) free'' (behind.advanceAll pieces)
    · have skipped := List.filter_cons_of_neg (l := rest) (ne_of_eq_of_ne fails Bool.false_ne_true)
      have counted := List.countP_cons_of_pos (l := rest) broken
      obtain ⟨fastly, depth, ahead⟩ := ends fast free'
      rw [fastly] at free'' ⊢
      obtain ⟨clean, whole, cleanly, wholly, shallow, deep, last⟩ :=
        ih free free'' (behind.trans ahead)
      refine ⟨clean, whole, by rw [skipped]; exact cleanly, wholly, shallow, ?_, ?_⟩
      · rw [deep, depth, counted]
        omega
      · rw [counted]
        have sum : bytes + (rest.countP breaksOff + 1) = bytes + 1 + rest.countP breaksOff := by
          omega
        rw [sum]
        exact last

/-- Written without a limit, a record that does not render leaves the writer as it was unless it
breaks off, and then it leaves two elements open. So the document is byte by byte that of the
records which render just if no record breaks off; else it is longer, and two elements are open for
each that does. -/
theorem stream_clean_iff (indent : Bool) (records : List Record) :
    (∀ (record : Record) (writer : Writer), writer.limit = none → ∀ cause,
      (record.writeXml writer).1 = .error (.field cause) →
        ((record.writeXml writer).2 = writer ↔ record.breaksOff = false)) ∧
    (stream records (.new indent none)).results =
      (records.map fun record => (record.xmlText indent).map fun _ => ()) ∧
    ∃ clean whole,
      (stream (records.filter (renders indent)) (.new indent none)).writer = some clean ∧
      (stream records (.new indent none)).writer = some whole ∧
      clean.depth = 0 ∧ whole.depth = 2 * records.countP breaksOff ∧
      (whole.written = clean.written ↔ ∀ record ∈ records, record.breaksOff = false) := by
  have free : (Writer.new indent none).limit = none := rfl
  refine ⟨?_, results_stream free records indent, ?_⟩
  · intro record writer free cause failed
    rcases record.writeXml_cases indent with ⟨going, -, ends⟩ | ⟨-, good, -⟩ |
      ⟨broken, -, pieces, ends⟩
    · exact iff_of_true (ends writer free) going
    · rw [result_writeXml free record indent] at failed
      rw [renders, map_eq_error_iff.mp failed] at good
      cases good
    · obtain ⟨after, depth, -⟩ := ends writer free
      refine iff_of_false ?_ (ne_of_eq_of_ne broken Bool.noConfusion)
      intro same
      rw [← after, same] at depth
      omega
  · obtain ⟨clean, whole, cleanly, wholly, shallow, deep, behind⟩ :=
      stream_behind indent records free free (Behind.refl _)
    refine ⟨clean, whole, cleanly, wholly, shallow, deep.trans (Nat.zero_add _), ?_⟩
    constructor
    · intro same
      have size := behind.size
      rw [same] at size
      have none : records.countP breaksOff = 0 := by omega
      intro record member
      exact Bool.eq_false_iff.mpr (List.countP_eq_zero.mp none record member)
    · intro going
      have equal := stream_filter free indent going
      rw [cleanly, wholly] at equal
      rw [Option.some.inj equal]

/-- A record of a source whose name is half of a surrogate pair. -/
def namelessRecord : Record := { Session.plainRecord 8 with sourceName := [0xD800] }

/-- A record without a name that is a text leaves a document as it was, and the record after it is
written as if it stood alone. -/
theorem nameless_record_skipped :
    (namelessRecord.writeXml (.new true none)).1 = .error (.field (.invalidText .sourceName)) ∧
    (namelessRecord.writeXml (.new true none)).2 = .new true none ∧
    ∃ clean whole,
      (stream [Session.plainRecord 7] (.new true none)).writer = some clean ∧
      (stream [namelessRecord, Session.plainRecord 7] (.new true none)).writer = some whole ∧
      whole.depth = 0 ∧ whole.written = clean.written := by
  have failed : (namelessRecord.writeXml (.new true none)).1 =
      .error (.field (.invalidText .sourceName)) := rfl
  have going : ∀ record ∈ [namelessRecord, Session.plainRecord 7], record.breaksOff = false :=
    List.forall_mem_cons.mpr ⟨rfl, List.forall_mem_singleton.mpr rfl⟩
  have kept : [namelessRecord, Session.plainRecord 7].filter (renders true) =
      [Session.plainRecord 7] := rfl
  obtain ⟨unchanged, -, clean, whole, cleanly, wholly, -, deep, same⟩ :=
    stream_clean_iff true [namelessRecord, Session.plainRecord 7]
  rw [kept] at cleanly
  exact ⟨failed, (unchanged _ _ rfl _ failed).mpr rfl, clean, whole, cleanly, wholly, deep,
    same.mpr going⟩

/-- A record whose only string is half of a surrogate pair. -/
def halfRecord : Record :=
  { Session.plainRecord 8 with
    size := 68
    stringCount := 1
    dataOffset := 64
    strings := some ⟨[[0xD800]], []⟩ }

/-- The bytes of that record. -/
def halfBytes : Bytes :=
  halfRecord.toBytes ++ List.replicate 4 0 ++ [0x00, 0xD8, 0x00, 0x00] ++ Bytes.ofNat 4 68

/-- The bytes are an event record. Writing it fails, but the start of it has been written, two of
its elements are open, and the record after it stands within these. -/
theorem half_record_breaks_off : decode halfBytes = .ok halfRecord ∧
    (halfRecord.writeXml (.new true none)).1 = .error (.field (.invalidText .string)) ∧
    (halfRecord.writeXml (.new true none)).2.written ≠ "" ∧
    (halfRecord.writeXml (.new true none)).2.depth = 2 ∧
    (stream [halfRecord, Session.plainRecord 7] (.new true none)).writer.map (·.written) ≠
      (stream [Session.plainRecord 7] (.new true none)).writer.map (·.written) := by
  refine ⟨rfl, rfl, ?_, rfl, ?_⟩
  · decide +kernel
  · decide +kernel

end EventLog.Record
