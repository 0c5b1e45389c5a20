import EventLog.Dump.Frame
import EventLog.Proofs.RecordJson
import EventLog.Proofs.StreamFailures
import Mathlib.Data.List.Forall2

/-!
# What the dump writes for a record

What is written for a record is said here without the program: the line `Record N` or
`Recovered record N`, the bytes of the record in the form asked for, and a line break; or nothing,
and one line among the diagnostics, if the record has no text in that form (`Frame`). That is what
the style writes, and nothing else is (`frame_turn`, `Frame.eq_frame`). Lines of JSON stay lines:
the line of a record holds no line break, and can be read by itself (`frames_lines`).
-/

namespace EventLog.Dump

open Json (Printable)

/-- The bytes of a record in the form that options ask for. -/
inductive Rendering (options : Options) (codepage : Option Codepage) (record : Record) :
    Bytes → Prop where
  /-- The lines of text, in the codepage. -/
  | text {bytes : Bytes} (form : options.format.getD .text = .text)
    (renders : record.textBytes codepage = .ok bytes) : Rendering options codepage record bytes
  /-- The JSON text in UTF-8, indented unless options say otherwise. -/
  | json {text : String} (form : options.format = some .json)
    (renders : record.jsonText (!options.flat) = .ok text) :
    Rendering options codepage record text.toUTF8.data.toList
  /-- The JSON text in UTF-8, never indented. -/
  | jsonLines {text : String} (form : options.format = some .jsonLines)
    (renders : record.jsonText false = .ok text) :
    Rendering options codepage record text.toUTF8.data.toList
  /-- The XML text in UTF-8, indented unless options say otherwise. -/
  | xml {text : String} (form : options.format = some .xml)
    (renders : record.xmlText (!options.flat) = .ok text) :
    Rendering options codepage record text.toUTF8.data.toList

/-- The wording of why a record has no bytes in the form that options ask for. -/
inductive Unrendered (options : Options) (codepage : Option Codepage) (record : Record) :
    String → Prop where
  /-- There are no lines of text. -/
  | text {cause : DecodeError} (form : options.format.getD .text = .text)
    (fails : record.textBytes codepage = .error cause) :
    Unrendered options codepage record cause.message
  /-- There is no JSON text. -/
  | json {error : RenderError} (form : options.format = some .json)
    (fails : record.jsonText (!options.flat) = .error error) :
    Unrendered options codepage record error.message
  /-- There is no JSON text without indentation. -/
  | jsonLines {error : RenderError} (form : options.format = some .jsonLines)
    (fails : record.jsonText false = .error error) :
    Unrendered options codepage record error.message
  /-- There is no XML text. -/
  | xml {error : RenderError} (form : options.format = some .xml)
    (fails : record.xmlText (!options.flat) = .error error) :
    Unrendered options codepage record error.message

/-- The line that announces a record. -/
inductive Heading (options : Options) : Origin × Record → Bytes → Prop where
  /-- There is none in lines of JSON, or if options hide the numbers. -/
  | hidden {turn : Origin × Record}
    (hides : options.hideNumbers = true ∨ options.format = some .jsonLines) :
    Heading options turn []
  /-- A record of the walk is announced by its number. -/
  | walked {record : Record} (shows : options.hideNumbers = false)
    (form : options.format ≠ some .jsonLines) :
    Heading options (.walked, record)
      ("Record " ++ toString record.number.toNat ++ "\n").toUTF8.data.toList
  /-- A recovered record is announced as one. -/
  | recovered {record : Record} (shows : options.hideNumbers = false)
    (form : options.format ≠ some .jsonLines) :
    Heading options (.recovered, record)
      ("Recovered record " ++ toString record.number.toNat ++ "\n").toUTF8.data.toList

/-- What is written for a record. -/
inductive Frame (options : Options) (codepage : Option Codepage) (turn : Origin × Record) :
    Written → Prop where
  /-- The line that announces it, its bytes and a line break. -/
  | shown {heading bytes : Bytes} (headed : Heading options turn heading)
    (renders : Rendering options codepage turn.2 bytes) :
    Frame options codepage turn ⟨heading ++ bytes ++ [0x0A], ""⟩
  /-- If it has no bytes, nothing but one line among the diagnostics, with its number, where it
  stands and the reason. -/
  | refused {reason : String} (without : ∀ bytes, ¬Rendering options codepage turn.2 bytes)
    (fails : Unrendered options codepage turn.2 reason) (whole : '\n' ∉ reason.toList) :
    Frame options codepage turn
      ⟨[], "Failed to render record " ++ toString turn.2.number.toNat ++ " at offset " ++
        toString turn.2.offset ++ ": " ++ reason ++ "\n"⟩

variable {options : Options} {codepage : Option Codepage} {record : Record} {bytes : Bytes}
  {turn : Origin × Record} {written : Written} {reason : String}

/-- In the form of text a record is rendered as lines of text. -/
theorem render_of_text (form : options.format.getD .text = .text) :
    (options.style codepage).render record =
      (record.textBytes codepage).mapError DecodeError.message := by
  have chosen : (options.style codepage).format = .text := form
  rw [Style.render, chosen]
  rfl

/-- In the form of JSON a record is rendered as its JSON text. -/
theorem render_of_json (form : options.format = some .json) :
    (options.style codepage).render record =
      ((record.jsonText (!options.flat)).map Record.utf8).mapError RenderError.message := by
  rw [Style.render, Options.style, Options.form, form]
  cases options.flat <;> rfl

/-- In lines of JSON a record is rendered as its JSON text without indentation. -/
theorem render_of_jsonLines (form : options.format = some .jsonLines) :
    (options.style codepage).render record =
      ((record.jsonText false).map Record.utf8).mapError RenderError.message := by
  rw [Style.render, Options.style, Options.form, form]
  cases options.flat <;> rfl

/-- In the form of XML a record is rendered as its XML text. -/
theorem render_of_xml (form : options.format = some .xml) :
    (options.style codepage).render record =
      ((record.xmlText (!options.flat)).map Record.utf8).mapError RenderError.message := by
  rw [Style.render, Options.style, Options.form, form]
  cases options.flat <;> rfl

/-- The bytes of a record in the form that options ask for are what it is rendered as. -/
theorem Rendering.render_eq (rendering : Rendering options codepage record bytes) :
    (options.style codepage).render record = .ok bytes := by
  cases rendering with
  | text form renders =>
    rw [render_of_text form, renders]
    rfl
  | json form renders =>
    rw [render_of_json form, renders]
    rfl
  | jsonLines form renders =>
    rw [render_of_jsonLines form, renders]
    rfl
  | xml form renders =>
    rw [render_of_xml form, renders]
    rfl

/-- The reason why a record has no bytes is the one for which it cannot be rendered. -/
theorem Unrendered.render_eq (unrendered : Unrendered options codepage record reason) :
    (options.style codepage).render record = .error reason := by
  cases unrendered with
  | text form fails =>
    rw [render_of_text form, fails]
    rfl
  | json form fails =>
    rw [render_of_json form, fails]
    rfl
  | jsonLines form fails =>
    rw [render_of_jsonLines form, fails]
    rfl
  | xml form fails =>
    rw [render_of_xml form, fails]
    rfl

/-- A record has bytes in the form that options ask for, or there is a reason why not. -/
theorem rendering_or_unrendered (options : Options) (codepage : Option Codepage)
    (record : Record) : (∃ bytes, Rendering options codepage record bytes) ∨
      ∃ reason, Unrendered options codepage record reason := by
  have text (form : options.format.getD .text = .text) :
      (∃ bytes, Rendering options codepage record bytes) ∨
        ∃ reason, Unrendered options codepage record reason := by
    cases renders : record.textBytes codepage with
    | ok bytes => exact .inl ⟨_, .text form renders⟩
    | error cause => exact .inr ⟨_, .text form renders⟩
  cases asked : options.format with
  | none =>
    refine text ?_
    rw [asked, Option.getD_none]
  | some format =>
    cases format with
    | text =>
      refine text ?_
      rw [asked, Option.getD_some]
    | json =>
      cases renders : record.jsonText (!options.flat) with
      | ok document => exact .inl ⟨_, .json asked renders⟩
      | error error => exact .inr ⟨_, .json asked renders⟩
    | jsonLines =>
      cases renders : record.jsonText false with
      | ok document => exact .inl ⟨_, .jsonLines asked renders⟩
      | error error => exact .inr ⟨_, .jsonLines asked renders⟩
    | xml =>
      cases renders : record.xmlText (!options.flat) with
      | ok document => exact .inl ⟨_, .xml asked renders⟩
      | error error => exact .inr ⟨_, .xml asked renders⟩

/-- A reason why a record has no bytes rules out that it has any. -/
theorem Unrendered.without (unrendered : Unrendered options codepage record reason)
    (bytes : Bytes) : ¬Rendering options codepage record bytes := by
  intro rendering
  have both := rendering.render_eq
  rw [unrendered.render_eq] at both
  cases both

/-- The form is that of lines of JSON just if options name it: it is not the one that stands in for
a form they do not name. -/
theorem form_eq_jsonLines_iff : options.form = .jsonLines ↔ options.format = some .jsonLines := by
  rw [Options.form]
  cases options.format with
  | none => exact ⟨nofun, nofun⟩
  | some format => exact ⟨congrArg some, Option.some.inj⟩

/-- Records are announced unless options hide the numbers or ask for lines of JSON. -/
theorem numbered_iff : (options.style codepage).numbered = true ↔
    options.hideNumbers = false ∧ options.format ≠ some .jsonLines := by
  rw [Options.style, Bool.and_eq_true, Bool.not_eq_true', bne_iff_ne, ne_eq, form_eq_jsonLines_iff]

/-- The style announces a record by its heading. -/
theorem heading_announcement (options : Options) (codepage : Option Codepage)
    (turn : Origin × Record) :
    Heading options turn ((options.style codepage).announcement turn.1 turn.2) := by
  unfold Style.announcement
  split
  · rename_i numbered
    obtain ⟨shows, form⟩ := numbered_iff.mp numbered
    obtain ⟨origin, record⟩ := turn
    cases origin with
    | walked => exact .walked shows form
    | recovered => exact .recovered shows form
  · rename_i bare
    refine .hidden ?_
    by_cases hidden : options.hideNumbers = true
    · exact .inl hidden
    · have shows := Bool.eq_false_iff.mpr hidden
      exact .inr (Decidable.not_not.mp fun form => bare (numbered_iff.mpr ⟨shows, form⟩))

/-- The heading of a record is what the style announces it by. -/
theorem Heading.eq_announcement (heading : Heading options turn bytes) :
    bytes = (options.style codepage).announcement turn.1 turn.2 := by
  unfold Style.announcement
  cases heading with
  | hidden hides =>
    rw [if_neg]
    intro numbered
    obtain ⟨shows, form⟩ := numbered_iff.mp numbered
    rcases hides with hidden | lines
    · rw [shows] at hidden
      cases hidden
    · exact form lines
  | walked shows form => exact (if_pos (numbered_iff.mpr ⟨shows, form⟩)).symm
  | recovered shows form => exact (if_pos (numbered_iff.mpr ⟨shows, form⟩)).symm

/-- The label of a part holds no control character. -/
theorem printable_label (part : Part) : Printable part.label := by
  cases part with
  | sentinelSignature position =>
    have front : Printable "end of file record signature" := by decide
    have number : Printable (toString position) := Json.printable_digits position
    rw [Part.label.eq_def]
    exact front.append number
  | _ => decide

/-- The wording of why a field is not legible holds no control character. -/
theorem printable_cause {cause : DecodeError} (illegible : record.Illegible cause) :
    Printable cause.message := by
  have number (n : Nat) : Printable (toString n) := Json.printable_digits n
  have broken (part : Part) : Printable (DecodeError.invalidText part).message := by
    have front : Printable "Offset 0: failed to decode UTF-16 string (" := by decide
    exact (front.append (printable_label part)).append (by decide)
  cases illegible with
  | sid present short failed =>
    rcases Sid.decode_cases _ with ⟨whole, -⟩ | ⟨-, part, offset, need, available, fails⟩
    · exact absurd whole short
    · rw [fails] at failed
      cases failed
      have front : Printable "Offset " := by decide
      exact (((((((front.append (number offset)).append (by decide)).append (number need)).append
        (by decide)).append (printable_label part)).append (by decide)).append
          (number available)).append (by decide)
  | source => exact broken .sourceName
  | computer => exact broken .computerName
  | string => exact broken .string

/-- The wording of why a field keeps a record from having a text holds no control character. -/
theorem printable_error {error : RenderError}
    (because : ∃ cause, error = .field cause ∧ record.Illegible cause) :
    Printable error.message := by
  obtain ⟨cause, rfl, illegible⟩ := because
  have front : Printable "Failed to read a record field for output: " := by decide
  exact front.append (printable_cause illegible)

/-- The reason why a record has no bytes is part of one line. -/
theorem Unrendered.whole (unrendered : Unrendered options codepage record reason) :
    '\n' ∉ reason.toList := by
  have printable : Printable reason := by
    cases unrendered with
    | text form fails =>
      obtain ⟨bytes, present, short, failed⟩ :=
        Record.illegible_of_sid (map_eq_error_iff.mp fails)
      exact printable_cause (.sid present short failed)
    | json form fails | jsonLines form fails =>
      exact printable_error (Record.illegible_of_jsonText fails)
    | xml form fails =>
      exact printable_error (Record.illegible_of_xmlText fails)
  intro member
  exact absurd (printable _ member) (by decide)

/-- What the style writes for a record is its frame. -/
theorem frame_turn (options : Options) (codepage : Option Codepage) (turn : Origin × Record) :
    Frame options codepage turn ((options.style codepage).frame turn.1 turn.2) := by
  unfold Style.frame
  rcases rendering_or_unrendered options codepage turn.2 with
    ⟨bytes, renders⟩ | ⟨reason, fails⟩
  · rw [renders.render_eq]
    exact .shown (heading_announcement options codepage turn) renders
  · rw [fails.render_eq]
    exact .refused fails.without fails fails.whole

/-- The frame of a record is what the style writes for it. -/
theorem Frame.eq_frame (frame : Frame options codepage turn written) :
    written = (options.style codepage).frame turn.1 turn.2 := by
  unfold Style.frame
  cases frame with
  | shown headed renders => rw [renders.render_eq, headed.eq_announcement]
  | refused without fails whole =>
    rw [fails.render_eq]
    rfl

/-- What the style writes for records in turn is their frames. -/
theorem frames_turns (options : Options) (codepage : Option Codepage)
    (parts : List (Origin × Record)) :
    List.Forall₂ (Frame options codepage) parts
      (parts.map fun turn => (options.style codepage).frame turn.1 turn.2) :=
  List.forall₂_map_right_iff.mpr
    (List.forall₂_same.mpr fun turn _ => frame_turn options codepage turn)

/-- Records have only one list of frames. -/
theorem frames_unique {parts : List (Origin × Record)} {frames frames' : List Written}
    (each : List.Forall₂ (Frame options codepage) parts frames)
    (each' : List.Forall₂ (Frame options codepage) parts frames') : frames = frames' := by
  induction each generalizing frames' with
  | nil =>
    cases each'
    rfl
  | cons frame each ih =>
    cases each' with
    | cons frame' each' => rw [frame.eq_frame, frame'.eq_frame, ih each']

/-- A line that holds the JSON of a record. -/
structure LineOf (record : Record) (line : String) : Prop where
  /-- It is the JSON text of the record, without indentation. -/
  renders : record.jsonText false = .ok line
  /-- No byte of it is a line break. -/
  whole : 0x0A ∉ line.toUTF8.data.toList
  /-- By itself it is read as a value with the number of the record and all of its strings. -/
  shows : ∃ (value : Json) (texts : List String), Json.read line = some value ∧
    value.at? ["Event", "System", "EventRecordID"] = some (.number record.number.toNat) ∧
    value.at? ["Event", "EventData", "Data"] = some (.array (texts.map .string)) ∧
    texts.length = record.stringTotal ∧
    ∀ index text, texts[index]? = some text → record.string index = .ok text

/-- The compact JSON text of a record is a line of it. -/
theorem lineOf_jsonText {line : String} (renders : record.jsonText false = .ok line) :
    LineOf record line := by
  obtain ⟨flat, -, value, source, computer, sid, texts, binary, compact, -, reads, -, answers,
    shown, printable⟩ := Record.json_reads_back renders
  rw [renders] at compact
  cases compact
  refine ⟨renders, ?_, value, texts, reads, shown.number, shown.strings, answers.count,
    answers.string⟩
  intro member
  exact absurd (printable _ member) (by decide)

/-- The record has a JSON text. -/
def hasLine (record : Record) : Bool := (record.jsonText false).isOk

/-- In lines of JSON, the frame of a record with a JSON text is that text and a line break. -/
theorem Frame.output_of_line {line : String} (frame : Frame options codepage turn written)
    (form : options.format = some .jsonLines) (renders : turn.2.jsonText false = .ok line) :
    written.output = line.toUTF8.data.toList ++ [0x0A] := by
  have shown : Frame options codepage turn ⟨[] ++ line.toUTF8.data.toList ++ [0x0A], ""⟩ :=
    .shown (.hidden (.inr form)) (.jsonLines form renders)
  rw [frame.eq_frame, ← shown.eq_frame]
  rfl

/-- In lines of JSON, the frame of a record without a JSON text is empty. -/
theorem Frame.output_of_unread {error : RenderError} (frame : Frame options codepage turn written)
    (form : options.format = some .jsonLines) (fails : turn.2.jsonText false = .error error) :
    written.output = [] := by
  cases frame with
  | shown headed renders =>
    have unrendered : Unrendered options codepage turn.2 error.message := .jsonLines form fails
    exact absurd renders (unrendered.without _)
  | refused => rfl

/-- As lines of JSON, each record that has a JSON text leaves one line, in order. -/
theorem frames_lines (form : options.format = some .jsonLines) {parts : List (Origin × Record)}
    {frames : List Written} (each : List.Forall₂ (Frame options codepage) parts frames) :
    ∃ lines : List String,
      frames.flatMap Written.output =
        lines.flatMap (fun line => line.toUTF8.data.toList ++ [0x0A]) ∧
      List.Forall₂ LineOf ((parts.map Prod.snd).filter hasLine) lines := by
  induction each with
  | nil => exact ⟨[], rfl, .nil⟩
  | @cons turn written parts frames frame each ih =>
    obtain ⟨rest, shares, each⟩ := ih
    rw [List.flatMap_cons, List.map_cons, shares]
    cases renders : turn.2.jsonText false with
    | error error =>
      have skipped : ¬hasLine turn.2 = true := by
        rw [hasLine, renders]
        exact Bool.false_ne_true
      rw [frame.output_of_unread form renders, List.filter_cons_of_neg skipped]
      exact ⟨rest, rfl, each⟩
    | ok line =>
      have kept : hasLine turn.2 = true := by
        rw [hasLine, renders]
        rfl
      rw [frame.output_of_line form renders, List.filter_cons_of_pos kept]
      exact ⟨line :: rest, rfl, .cons (lineOf_jsonText renders) each⟩

end EventLog.Dump
