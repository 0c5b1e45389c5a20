import EventLog.Proofs.RecordXml
import EventLog.Xml.Progress

/-!
# The characters of a document

XML allows most characters and no others, not even as references. Whatever the writer adds by itself
is allowed, and so are numbers, kinds, times, security identifiers and binary data; escaping leaves
all other characters alone. So a character that XML does not allow stands in the XML text of a
record just if it stands in one of the names or strings (`xml_legal_iff`).
-/

namespace EventLog

namespace Xml

/-- The character is one of those that XML 1.0 allows. -/
def isLegal (c : Char) : Bool :=
  c.toNat == 0x9 || c.toNat == 0xA || c.toNat == 0xD ||
    (0x20 ≤ c.toNat && c.toNat ≤ 0xD7FF) || (0xE000 ≤ c.toNat && c.toNat ≤ 0xFFFD) ||
    (0x10000 ≤ c.toNat && c.toNat ≤ 0x10FFFF)

/-- All characters of the text are legal. -/
def Legal (text : String) : Prop := ∀ c ∈ text.toList, isLegal c = true

/-- A text is looked through. -/
instance (text : String) : Decidable (Legal text) :=
  decidable_of_iff (text.toList.all isLegal = true) List.all_eq_true

/-- A character that is not legal does not stand in a legal text. -/
theorem Legal.not_mem {text : String} (legal : Legal text) {c : Char}
    (illegal : isLegal c = false) : c ∉ text.toList := by
  intro member
  rw [legal c member] at illegal
  cases illegal

/-- Whether a character that is not legal stands in a legal text. -/
theorem mem_legal_iff {c : Char} (illegal : isLegal c = false) {text : String}
    (legal : Legal text) : c ∈ text.toList ↔ False :=
  iff_false_intro (legal.not_mem illegal)

/-- A text is legal just if no illegal character stands in it. -/
theorem legal_iff {text : String} : Legal text ↔ ∀ c, isLegal c = false → c ∉ text.toList := by
  constructor
  · intro legal c illegal
    exact legal.not_mem illegal
  · intro clean c member
    cases here : isLegal c with
    | true => rfl
    | false => exact absurd member (clean c here)

/-- A text of legal characters is legal. -/
theorem legal_ofList {chars : List Char} (legal : ∀ c ∈ chars, isLegal c = true) :
    Legal (String.ofList chars) := by
  rw [Legal, String.toList_ofList]
  exact legal

/-- Legal texts one after the other are legal. -/
theorem Legal.append {first second : String} (legal : Legal first) (legal' : Legal second) :
    Legal (first ++ second) := by
  rw [Legal, String.toList_append, List.forall_mem_append]
  exact ⟨legal, legal'⟩

/-- Legal texts with a legal text in between are legal. -/
theorem legal_intercalate {separator : String} (apart : Legal separator) {texts : List String}
    (legal : ∀ text ∈ texts, Legal text) : Legal (separator.intercalate texts) := by
  induction texts with
  | nil =>
    rw [String.intercalate_nil]
    decide
  | cons text rest ih =>
    obtain ⟨first, others⟩ := List.forall_mem_cons.mp legal
    cases rest with
    | nil =>
      rw [String.intercalate_singleton]
      exact first
    | cons next rest =>
      rw [String.intercalate_cons_cons]
      exact (first.append apart).append (ih others)

/-- A decimal digit is legal. -/
theorem isLegal_of_isDigit {c : Char} (digit : c.isDigit = true) : isLegal c = true := by
  obtain ⟨low, high⟩ := Char.isDigit_iff_toNat.mp digit
  have low' : 48 ≤ c.toNat := low
  have high' : c.toNat ≤ 57 := high
  simp only [isLegal, Bool.or_eq_true, Bool.and_eq_true, beq_iff_eq, decide_eq_true_eq]
  omega

/-- A hexadecimal digit is legal. -/
theorem isLegal_digit (letters : Hex.Letters) {value : Nat} (small : value < 16) :
    isLegal (Hex.digit letters value) = true := by
  cases letters <;> revert value <;> decide

/-- The decimal digits of a number are legal. -/
theorem isLegal_of_mem_toDigits {n : Nat} : ∀ c ∈ Nat.toDigits 10 n, isLegal c = true := by
  intro c member
  exact isLegal_of_isDigit (Nat.isDigit_of_mem_toDigits (by decide) (by decide) member)

/-- The text of a number is legal. -/
theorem legal_digits (n : Nat) : Legal (Json.digits n) := legal_ofList isLegal_of_mem_toDigits

/-- Zeros in front of legal characters are legal. -/
theorem isLegal_of_mem_filled {chars : List Char} (legal : ∀ c ∈ chars, isLegal c = true)
    (zeros : Nat) : ∀ c ∈ List.replicate zeros '0' ++ chars, isLegal c = true := by
  rw [List.forall_mem_append]
  refine ⟨?_, legal⟩
  intro c member
  rw [List.eq_of_mem_replicate member]
  rfl

/-- A number with zeros in front is legal. -/
theorem legal_padded (width n : Nat) : Legal (padded width n) :=
  legal_ofList (isLegal_of_mem_filled isLegal_of_mem_toDigits _)

/-- A number in base sixteen is legal. -/
theorem legal_literal (width n : Nat) : Legal (Hex.literal width n) := by
  refine Legal.append (by decide) (legal_ofList (isLegal_of_mem_filled ?_ _))
  intro c member
  obtain ⟨x, -, rfl⟩ := List.mem_map.mp member
  refine isLegal_digit .lower ?_
  cases reads : Hex.digitValue? x with
  | none => exact Nat.zero_lt_succ _
  | some value => exact Hex.lt_of_digitValue? reads

/-- The digits of bytes are legal. -/
theorem legal_bytes (letters : Hex.Letters) (data : Bytes) :
    Legal (String.ofList (Hex.bytes letters data)) := by
  refine legal_ofList fun c member => ?_
  obtain ⟨b, -, member⟩ := List.mem_flatMap.mp member
  have bounded : b.toNat < 256 := b.toNat_lt
  rcases List.mem_cons.mp member with rfl | member
  · exact isLegal_digit letters (by omega)
  · rw [List.mem_singleton.mp member]
    exact isLegal_digit letters (by omega)

/-- The text of a moment is legal. -/
theorem legal_timestamp (t : Timestamp) : Legal t.text := by
  have dash : Legal "-" := by decide
  have colon : Legal ":" := by decide
  have day {year month day : Nat} :
      Legal (padded 4 year ++ "-" ++ padded 2 month ++ "-" ++ padded 2 day) :=
    ((((legal_padded _ _).append dash).append (legal_padded _ _)).append dash).append
      (legal_padded _ _)
  exact (((((((day.append (by decide)).append (legal_padded _ _)).append colon).append
    (legal_padded _ _)).append colon).append (legal_padded _ _))).append (by decide)

/-- The text of a security identifier is legal. -/
theorem legal_sid (sid : Sid) : Legal sid.text := by
  have number (n : Nat) : Legal (toString n) := legal_digits n
  refine legal_intercalate (by decide) ?_
  rw [List.forall_mem_cons, List.forall_mem_cons, List.forall_mem_cons]
  refine ⟨by decide, number _, number _, ?_⟩
  intro text member
  obtain ⟨word, -, rfl⟩ := List.mem_map.mp member
  exact number _

/-- The text of a kind is legal. -/
theorem legal_kind (kind : EventKind) : Legal kind.text := by
  unfold EventKind.text
  split
  · decide
  refine legal_intercalate (by decide) ?_
  rw [EventKind.names, List.forall_mem_append]
  constructor
  · intro text member
    obtain ⟨flag, chosen, rfl⟩ := List.mem_map.mp member
    have all : ∀ flag ∈ EventKind.flags, Legal flag.2 := by decide
    exact all flag (List.mem_filter.mp chosen).1
  · split
    · exact List.forall_mem_nil _
    · exact List.forall_mem_singleton.mpr (legal_literal _ _)

variable {c : Char}

/-- An escaped character has an illegal character in it just if it is that one. -/
theorem mem_escapeChar (illegal : isLegal c = false) (x : Char) : c ∈ escapeChar x ↔ c = x := by
  -- neither a reference nor what it stands for is illegal
  have reference {text : String} (legal : Legal text) {mark : Char} (plain : isLegal mark = true) :
      c ∈ text.toList ↔ c = mark := by
    refine iff_of_false (legal.not_mem illegal) ?_
    rintro rfl
    rw [plain] at illegal
    cases illegal
  unfold escapeChar
  by_cases less : x = '<'
  · subst less
    exact reference (by decide) rfl
  rw [if_neg less]
  by_cases greater : x = '>'
  · subst greater
    exact reference (by decide) rfl
  rw [if_neg greater]
  by_cases ampersand : x = '&'
  · subst ampersand
    exact reference (by decide) rfl
  rw [if_neg ampersand]
  by_cases apostrophe : x = '\''
  · subst apostrophe
    exact reference (by decide) rfl
  rw [if_neg apostrophe]
  by_cases quote : x = '"'
  · subst quote
    exact reference (by decide) rfl
  rw [if_neg quote, List.mem_singleton]

/-- Escaped text has the illegal characters of the text. -/
theorem mem_escape (illegal : isLegal c = false) (text : String) :
    c ∈ (escape text).toList ↔ c ∈ text.toList := by
  rw [escape, String.toList_ofList, List.mem_flatMap]
  simp only [mem_escapeChar illegal, exists_eq_right']

/-- The names and texts of a piece as they are, without references and brackets. -/
def Piece.shown : Piece → List Char
  | start name attributes | empty name attributes =>
    name.toList ++ attributes.flatMap fun (key, value) => key.toList ++ value.toList
  | text content => content.toList
  | stop name => name.toList

/-- Attributes have the illegal characters of their names and values. -/
theorem mem_attributesText (illegal : isLegal c = false) (attributes : List (String × String)) :
    c ∈ (attributesText attributes).toList ↔
      c ∈ attributes.flatMap fun (key, value) => key.toList ++ value.toList := by
  rw [attributesText, String.toList_join, List.flatMap_map]
  simp (disch := decide) only [List.mem_flatMap, String.toList_append, List.mem_append,
    mem_escape illegal, mem_legal_iff illegal, false_or, or_false]

/-- A piece has the illegal characters of its names and texts. -/
theorem mem_render (illegal : isLegal c = false) (piece : Piece) :
    c ∈ piece.render.toList ↔ c ∈ piece.shown := by
  cases piece with
  | start name attributes | empty name attributes =>
    simp (disch := decide) only [Piece.render, Piece.shown, String.toList_append, List.mem_append,
      mem_attributesText illegal, mem_legal_iff illegal, false_or, or_false]
  | text content => exact mem_escape illegal content
  | stop name =>
    simp (disch := decide) only [Piece.render, Piece.shown, String.toList_append, List.mem_append,
      mem_legal_iff illegal, false_or, or_false]

/-- What stands in front of a tag is legal. -/
theorem legal_lead (writer : Writer) (depth : Nat) : Legal (writer.lead depth) := by
  intro c member
  have blank := Writer.isBlankChar_of_mem_lead writer depth c member
  simp only [isBlankChar, Bool.or_eq_true, beq_iff_eq] at blank
  rcases blank with ((rfl | rfl) | rfl) | rfl <;> rfl

/-- What a piece adds to a document has the illegal characters of the piece. -/
theorem mem_added (illegal : isLegal c = false) (writer : Writer) (piece : Piece) :
    c ∈ (writer.added piece).toList ↔ c ∈ piece.shown := by
  have lead (depth : Nat) := mem_legal_iff illegal (legal_lead writer depth)
  cases piece <;>
    simp only [Writer.added, String.toList_append, List.mem_append, lead, false_or,
      mem_render illegal]

/-- A document that grows gets the illegal characters of the pieces. -/
theorem mem_advanceAll (illegal : isLegal c = false) (writer : Writer) (pieces : List Piece) :
    c ∈ (writer.advanceAll pieces).written.toList ↔
      c ∈ writer.written.toList ∨ c ∈ pieces.flatMap Piece.shown := by
  induction pieces generalizing writer with
  | nil => exact (or_iff_left List.not_mem_nil).symm
  | cons piece pieces ih =>
    have first : c ∈ (writer.advance piece).written.toList ↔
        c ∈ writer.written.toList ∨ c ∈ piece.shown := by
      rw [Writer.advance, String.toList_append, List.mem_append, mem_added illegal]
    rw [Writer.advanceAll, List.foldl_cons, ← Writer.advanceAll, ih, first, List.flatMap_cons,
      List.mem_append, or_assoc]

end Xml

namespace Record

open Xml

variable {record : Record} {c : Char}

/-- A tag with legal names and values has no illegal characters. -/
theorem not_mem_tag (illegal : isLegal c = false) {name : String} (named : Legal name)
    {attributes : List (String × String)}
    (noted : ∀ pair ∈ attributes, Legal pair.1 ∧ Legal pair.2) :
    c ∉ (Piece.start name attributes).shown := by
  intro member
  rcases List.mem_append.mp member with tag | notes
  · exact named.not_mem illegal tag
  · obtain ⟨pair, stands, member⟩ := List.mem_flatMap.mp notes
    rcases List.mem_append.mp member with key | value
    · exact (noted pair stands).1.not_mem illegal key
    · exact (noted pair stands).2.not_mem illegal value

/-- An element that holds a text has the illegal characters of the text, if the rest is legal. -/
theorem mem_textElement (illegal : isLegal c = false) {name : String} (named : Legal name)
    {attributes : List (String × String)}
    (noted : ∀ pair ∈ attributes, Legal pair.1 ∧ Legal pair.2) (content : String) :
    c ∈ (textElement name attributes content).flatMap Piece.shown ↔ c ∈ content.toList := by
  have opening := not_mem_tag illegal named noted
  have closing : c ∉ (Piece.stop name).shown := named.not_mem illegal
  simp only [textElement, List.flatMap_cons, List.flatMap_nil, List.mem_append, opening, closing,
    List.not_mem_nil, false_or, or_false]
  rfl

/-- The tags in front of the numbers have the illegal characters of the source's name. -/
theorem mem_opening (illegal : isLegal c = false) (source : String) :
    c ∈ List.flatMap Piece.shown
      [.start "Event" [], .start "System" [], .empty "Provider" [("Name", source)]] ↔
      c ∈ source.toList := by
  simp (disch := decide) only [List.flatMap_cons, List.flatMap_nil, Piece.shown, List.mem_append,
    List.not_mem_nil, mem_legal_iff illegal, false_or, or_false]

/-- The identifier has no illegal characters. -/
theorem mem_identifier (illegal : isLegal c = false) (identifier : EventId) :
    c ∈ (textElement "EventID" [("Qualifiers", Json.digits identifier.qualifiers)]
      (Json.digits identifier.code)).flatMap Piece.shown ↔ False := by
  have noted : ∀ pair ∈ [("Qualifiers", Json.digits identifier.qualifiers)],
      Legal pair.1 ∧ Legal pair.2 := by
    rw [List.forall_mem_singleton]
    exact ⟨show Legal "Qualifiers" by decide, legal_digits _⟩
  rw [mem_textElement illegal (by decide) noted]
  exact mem_legal_iff illegal (legal_digits _)

/-- The times have no illegal characters. -/
theorem mem_times (illegal : isLegal c = false) (created written : Timestamp) :
    c ∈ List.flatMap Piece.shown
      [.empty "TimeCreated" [("SystemTime", created.text)],
        .empty "TimeWritten" [("SystemTime", written.text)]] ↔ False := by
  have times (t : Timestamp) := mem_legal_iff illegal (legal_timestamp t)
  simp (disch := decide) only [List.flatMap_cons, List.flatMap_nil, Piece.shown, List.mem_append,
    List.not_mem_nil, mem_legal_iff illegal, times, or_false]

/-- The user's identifier and the tags after it have no illegal characters. -/
theorem mem_security (illegal : isLegal c = false) (sid : Option Sid) :
    c ∈ List.flatMap Piece.shown
      [.empty "Security" (sid.elim [] fun s => [("UserID", s.text)]), .stop "System",
        .start "EventData" []] ↔ False := by
  have user : c ∈ (sid.elim [] fun s => [("UserID", s.text)]).flatMap
      (fun (key, value) => key.toList ++ value.toList) ↔ False := by
    cases sid with
    | none => exact iff_false_intro List.not_mem_nil
    | some s =>
      simp (disch := decide) only [Option.elim, List.flatMap_cons, List.flatMap_nil,
        List.mem_append, List.not_mem_nil, mem_legal_iff illegal,
        mem_legal_iff illegal (legal_sid s), or_false]
  simp (disch := decide) only [List.flatMap_cons, List.flatMap_nil, Piece.shown, List.mem_append,
    List.not_mem_nil, mem_legal_iff illegal, user, or_false]

/-- The pieces up to the strings have the illegal characters of the two names. -/
theorem mem_systemPieces (illegal : isLegal c = false) (record : Record) (source computer : String)
    (sid : Option Sid) :
    c ∈ (record.systemPieces source computer sid).flatMap Piece.shown ↔
      c ∈ source.toList ∨ c ∈ computer.toList := by
  have element {name : String} (named : Legal name) (content : String) :
      c ∈ (textElement name [] content).flatMap Piece.shown ↔ c ∈ content.toList :=
    mem_textElement illegal named (List.forall_mem_nil _) content
  have number (n : Nat) := mem_legal_iff illegal (legal_digits n)
  have kind := mem_legal_iff illegal (legal_kind record.kind)
  simp (disch := decide) only [systemPieces, List.flatMap_append, List.mem_append,
    mem_opening illegal, mem_identifier illegal, mem_times illegal, mem_security illegal, element,
    number, kind, or_false]

/-- The elements of the strings have the illegal characters of the strings. -/
theorem mem_textPieces (illegal : isLegal c = false) (texts : List String) :
    c ∈ (texts.flatMap (textElement "Data" [])).flatMap Piece.shown ↔
      ∃ text ∈ texts, c ∈ text.toList := by
  rw [List.flatMap_assoc, List.mem_flatMap]
  simp only [mem_textElement illegal (show Legal "Data" by decide) (List.forall_mem_nil _)]

/-- The pieces after the strings have no illegal characters. -/
theorem not_mem_closingPieces (illegal : isLegal c = false) (record : Record) :
    c ∉ record.closingPieces.flatMap Piece.shown := by
  have tags : c ∉ List.flatMap Piece.shown [.stop "EventData", .stop "Event"] := by
    simp (disch := decide) only [List.flatMap_cons, List.flatMap_nil, Piece.shown, List.mem_append,
      List.not_mem_nil, mem_legal_iff illegal, or_false, not_false_eq_true]
  rw [closingPieces, List.flatMap_append, List.mem_append, or_iff_left tags]
  split
  · exact List.not_mem_nil
  · rw [mem_textElement illegal (by decide) (List.forall_mem_nil _)]
    exact (legal_bytes .upper record.data).not_mem illegal

/-- The XML text of a record has the illegal characters of the two names and the strings. -/
theorem mem_xmlText {indent : Bool} {document : String}
    (renders : record.xmlText indent = .ok document) :
    ∃ source computer texts, record.sourceText = .ok source ∧
      record.computerText = .ok computer ∧ record.texts = List.map .ok texts ∧
      ∀ c, isLegal c = false → (c ∈ document.toList ↔
        c ∈ source.toList ∨ c ∈ computer.toList ∨ ∃ text ∈ texts, c ∈ text.toList) := by
  obtain ⟨pieces, writer, whole, wrote, shown⟩ := xmlText_eq_ok_iff.mp renders
  obtain ⟨source, computer, sid, texts, named, named', -, all, rfl⟩ := pieces_eq_ok whole
  refine ⟨source, computer, texts, named, named', all, fun c illegal => ?_⟩
  rw [Writer.writeAll_free rfl] at wrote
  rw [← shown, ← Except.ok.inj wrote, mem_advanceAll illegal, List.flatMap_append,
    List.flatMap_append, List.mem_append, List.mem_append, mem_systemPieces illegal,
    mem_textPieces illegal, or_iff_left (not_mem_closingPieces illegal record), or_assoc]
  exact or_iff_right List.not_mem_nil

/-- In the XML text of a record, with or without indentation, a character that XML does not allow
stands just if it stands in one of the names or strings. So all characters of the text are allowed
just if all characters of the names and strings are. -/
theorem xml_legal_iff {indent : Bool} {document : String}
    (renders : record.xmlText indent = .ok document) :
    ∃ source computer texts, record.sourceText = .ok source ∧
      record.computerText = .ok computer ∧ record.texts = List.map .ok texts ∧
      (∀ c, isLegal c = false → (c ∈ document.toList ↔
        c ∈ source.toList ∨ c ∈ computer.toList ∨ ∃ text ∈ texts, c ∈ text.toList)) ∧
      (Legal document ↔ Legal source ∧ Legal computer ∧ ∀ text ∈ texts, Legal text) := by
  obtain ⟨source, computer, texts, named, named', all, shows⟩ := mem_xmlText renders
  refine ⟨source, computer, texts, named, named', all, shows, ?_⟩
  constructor
  · intro legal
    have clean {c : Char} (illegal : isLegal c = false) :
        ¬(c ∈ source.toList ∨ c ∈ computer.toList ∨ ∃ text ∈ texts, c ∈ text.toList) :=
      mt (shows c illegal).mpr (legal.not_mem illegal)
    refine ⟨legal_iff.mpr fun c illegal here => clean illegal (.inl here),
      legal_iff.mpr fun c illegal here => clean illegal (.inr (.inl here)), ?_⟩
    intro text member
    exact legal_iff.mpr fun c illegal here => clean illegal (.inr (.inr ⟨text, member, here⟩))
  · rintro ⟨first, second, others⟩
    refine legal_iff.mpr fun c illegal member => ?_
    rcases (shows c illegal).mp member with here | here | ⟨text, within, here⟩
    · exact first.not_mem illegal here
    · exact second.not_mem illegal here
    · exact (others text within).not_mem illegal here

/-- A record of a source whose name is a control character. -/
def controlRecord : Record :=
  { Session.plainRecord 8 with
    size := 66
    stringsOffset := 62
    dataOffset := 62
    sourceName := [1] }

/-- The characters that XML does not allow in the text of a record with a control character. -/
theorem control_record_shown : ∃ document, controlRecord.xmlText true = .ok document ∧
    ∃ source computer texts, controlRecord.sourceText = .ok source ∧
      controlRecord.computerText = .ok computer ∧ controlRecord.texts = List.map .ok texts ∧
      (∀ c, isLegal c = false → (c ∈ document.toList ↔
        c ∈ source.toList ∨ c ∈ computer.toList ∨ ∃ text ∈ texts, c ∈ text.toList)) ∧
      (Legal document ↔ Legal source ∧ Legal computer ∧ ∀ text ∈ texts, Legal text) :=
  ⟨_, rfl, xml_legal_iff rfl⟩

/-- The bytes of that record. -/
def controlBytes : Bytes :=
  controlRecord.toBytes ++ [0x01, 0x00, 0x00, 0x00, 0x00, 0x00] ++ Bytes.ofNat 4 66

/-- The bytes are an event record that renders, and its XML text has a character that is not
allowed. -/
theorem control_record_not_legal : decode controlBytes = .ok controlRecord ∧
    ∃ document, controlRecord.xmlText false = .ok document ∧ ¬Legal document := by
  have rendered : ∃ document, controlRecord.xmlText false = .ok document := ⟨_, rfl⟩
  obtain ⟨document, renders⟩ := rendered
  refine ⟨rfl, document, renders, fun legal => ?_⟩
  obtain ⟨source, computer, texts, named, -, -, shows⟩ := mem_xmlText renders
  have name : controlRecord.sourceText = .ok "\x01" := rfl
  rw [name] at named
  obtain rfl := Except.ok.inj named
  have illegal : isLegal '\x01' = false := rfl
  exact legal.not_mem illegal ((shows _ illegal).mpr (.inl (by decide)))

end Record

end EventLog
