import EventLog.Proofs.Session

/-!
# What keeps a log from opening

Opening fails only on the way to the header: the length cannot be measured, the source says that it
is shorter than a header, the header cannot be read, or its bytes are no header. `Obstacle` lists
these with the error that each gives. Whatever the rest of the file holds, whatever fails later and
whenever the abort flag is raised, a log without such an obstacle opens
(`ofSource_eq_error_iff_obstacle`).
-/

namespace EventLog

/-- The length that a source reports: the real one, unless its plan gives another. -/
def Source.reported (source : Source) : Nat := source.plan.reportedLength.getD source.data.size

/-- A source that can be moved to its end measures the length that it reports. -/
theorem Source.measure_of_seek {source : Source} (sought : source.seek.1 = .ok ()) :
    source.measure = (.ok source.reported, source.seek.2) := by
  have moved := source.seek_continues
  unfold measure
  cases seeks : source.seek with
  | mk outcome after =>
    rw [seeks] at sought moved
    dsimp only at sought moved
    subst sought
    dsimp only
    rw [reported, moved.plan, moved.data]

/-- A source that cannot be moved to its end has no length. -/
theorem Source.measure_of_seek_error {source : Source} {failure : SourceFailure}
    (fails : source.seek.1 = .error failure) :
    source.measure = (.error failure, source.seek.2) := by
  unfold measure
  cases seeks : source.seek with
  | mk outcome after =>
    rw [seeks] at fails
    dsimp only at fails
    rw [fails]

namespace Session

/-- What keeps a log from opening on a source, and the error that it gives. -/
inductive Obstacle (source : Source) : LogError → Prop
  /-- The source cannot be moved to its end, so that its length is not known. -/
  | unmeasured {failure : SourceFailure} (fails : source.seek.1 = .error failure) :
    Obstacle source (.source failure)
  /-- The source says that it is shorter than a header. -/
  | short (measured : source.seek.1 = .ok ()) (less : source.reported < Header.size) :
    Obstacle source (.badHeader (.truncated .header 0 Header.size source.reported))
  /-- The source cannot be moved to its start. -/
  | unsought (measured : source.seek.1 = .ok ()) (room : Header.size ≤ source.reported)
    {failure : SourceFailure} (fails : source.seek.2.seek.1 = .error failure) :
    Obstacle source (.badHeader (.source failure))
  /-- The bytes of the header cannot be read. -/
  | unread (measured : source.seek.1 = .ok ()) (room : Header.size ≤ source.reported)
    (sought : source.seek.2.seek.1 = .ok ()) {failure : SourceFailure}
    (fails : (source.seek.2.seek.2.fill 0 Header.size).1 = .error failure) :
    Obstacle source (.badHeader (.source failure))
  /-- The bytes of the header are read, but are no header. -/
  | invalid (measured : source.seek.1 = .ok ()) (room : Header.size ≤ source.reported)
    (sought : source.seek.2.seek.1 = .ok ())
    (filled : (source.seek.2.seek.2.fill 0 Header.size).1 = .ok ()) {cause : DecodeError}
    (wrong : Header.decode (source.data.extract 0 Header.size).toList = .error cause) :
    Obstacle source (.badHeader cause)

variable {source : Source} {length : Nat}

/-- A header that is longer than the source is not read. -/
theorem readHeader_short (less : length < Header.size) :
    (readHeader source length).1 =
      .error (.badHeader (.truncated .header 0 Header.size length)) := by
  rw [readHeader, Source.readPiece_eq, Nat.zero_add, if_pos less, Nat.sub_zero]

/-- A header is not read from a source that cannot be moved to its start. -/
theorem readHeader_unsought (room : Header.size ≤ length) {failure : SourceFailure}
    (fails : source.seek.1 = .error failure) :
    (readHeader source length).1 = .error (.badHeader (.source failure)) := by
  rw [readHeader, Source.readPiece_eq, Nat.zero_add, if_neg (Nat.not_lt.mpr room)]
  cases seeks : source.seek with
  | mk outcome after =>
    rw [seeks] at fails
    dsimp only at fails
    rw [fails]

/-- A header is not read if its bytes are not delivered. -/
theorem readHeader_unread (room : Header.size ≤ length) (sought : source.seek.1 = .ok ())
    {failure : SourceFailure} (fails : (source.seek.2.fill 0 Header.size).1 = .error failure) :
    (readHeader source length).1 = .error (.badHeader (.source failure)) := by
  rw [readHeader, Source.readPiece_eq, Nat.zero_add, if_neg (Nat.not_lt.mpr room)]
  cases seeks : source.seek with
  | mk outcome after =>
    rw [seeks] at sought fails
    dsimp only at sought fails
    subst sought
    dsimp only
    cases fills : after.fill 0 Header.size with
    | mk result last =>
      rw [fills] at fails
      dsimp only at fails
      rw [fails]

/-- A header whose bytes are delivered is what they decode to. -/
theorem readHeader_filled (room : Header.size ≤ length) (sought : source.seek.1 = .ok ())
    (filled : (source.seek.2.fill 0 Header.size).1 = .ok ()) :
    (readHeader source length).1 =
      (Header.decode (source.data.extract 0 Header.size).toList).mapError .badHeader := by
  have moved := source.seek_continues
  rw [readHeader, Source.readPiece_eq, Nat.zero_add, if_neg (Nat.not_lt.mpr room)]
  cases seeks : source.seek with
  | mk outcome after =>
    rw [seeks] at sought filled moved
    dsimp only at sought filled moved
    subst sought
    dsimp only
    cases fills : after.fill 0 Header.size with
    | mk result last =>
      rw [fills] at filled
      dsimp only at filled
      subst filled
      dsimp only
      rw [moved.data]

/-- A log whose length cannot be measured does not open. -/
theorem ofSource_of_unmeasured {settings : Settings} {measured : Source} {failure : SourceFailure}
    (measures : source.measure = (.error failure, measured)) :
    ofSource settings source = .error (.source failure) := by
  rw [ofSource, measures]
  rfl

/-- A log whose header cannot be read does not open. -/
theorem ofSource_of_unread {settings : Settings} {measured : Source}
    (measures : source.measure = (.ok length, measured)) {error : LogError}
    (fails : (readHeader measured length).1 = .error error) :
    ofSource settings source = .error error := by
  rw [ofSource, measures]
  dsimp only [mapError_ok, bind, Except.bind]
  cases reads : readHeader measured length with
  | mk outcome ready =>
    rw [reads] at fails
    dsimp only at fails
    rw [fails]

/-- An obstacle keeps a log from opening, whatever its settings. -/
theorem Obstacle.fails {error : LogError} (obstacle : Obstacle source error)
    (settings : Settings) : ofSource settings source = .error error := by
  cases obstacle with
  | unmeasured fails => exact ofSource_of_unmeasured (Source.measure_of_seek_error fails)
  | short measured less =>
    exact ofSource_of_unread (Source.measure_of_seek measured) (readHeader_short less)
  | unsought measured room fails =>
    exact ofSource_of_unread (Source.measure_of_seek measured) (readHeader_unsought room fails)
  | unread measured room sought fails =>
    exact ofSource_of_unread (Source.measure_of_seek measured)
      (readHeader_unread room sought fails)
  | invalid measured room sought filled wrong =>
    have read := readHeader_filled room sought filled
    rw [source.seek_continues.data, wrong] at read
    exact ofSource_of_unread (Source.measure_of_seek measured) read

/-- A source that delivers a valid header: nothing else is asked of it. -/
structure Ready (source : Source) : Prop where
  /-- The source can be moved to its end. -/
  measured : source.seek.1 = .ok ()
  /-- The source says that it is at least as long as a header. -/
  room : Header.size ≤ source.reported
  /-- The source can then be moved to its start. -/
  sought : source.seek.2.seek.1 = .ok ()
  /-- The bytes of the header are delivered. -/
  filled : (source.seek.2.seek.2.fill 0 Header.size).1 = .ok ()
  /-- They are a header. -/
  valid : Header.Valid (source.data.extract 0 Header.size).toList

/-- A log opens on a source that delivers a valid header. -/
theorem Ready.opens (ready : Ready source) (settings : Settings) :
    ∃ session, ofSource settings source = .ok session := by
  have decoded := Header.decode_eq_ok_iff.mpr ⟨ready.valid, rfl⟩
  have read := readHeader_filled ready.room ready.sought ready.filled
  rw [source.seek_continues.data, decoded, mapError_ok] at read
  exact ⟨_, ofSource_of_header (Source.measure_of_seek ready.measured) (Prod.ext read rfl)⟩

/-- There is an obstacle, or the source delivers a valid header. -/
theorem obstacle_or_ready (source : Source) : (∃ error, Obstacle source error) ∨ Ready source := by
  cases measured : source.seek.1 with
  | error failure => exact .inl ⟨_, .unmeasured measured⟩
  | ok _ =>
    rcases Nat.lt_or_ge source.reported Header.size with less | room
    · exact .inl ⟨_, .short measured less⟩
    · cases sought : source.seek.2.seek.1 with
      | error failure => exact .inl ⟨_, .unsought measured room sought⟩
      | ok _ =>
        cases filled : (source.seek.2.seek.2.fill 0 Header.size).1 with
        | error failure => exact .inl ⟨_, .unread measured room sought filled⟩
        | ok _ =>
          cases decoded : Header.decode (source.data.extract 0 Header.size).toList with
          | error cause => exact .inl ⟨_, .invalid measured room sought filled decoded⟩
          | ok header =>
            have valid := (Header.decode_eq_ok_iff.mp decoded).1
            exact .inr ⟨measured, room, sought, filled, valid⟩

/-- A log fails to open just if there is an obstacle, with the error that the obstacle gives: one of
the source while the length is measured, and else a bad header in the class of its cause. It opens
just if its source delivers a valid header, whatever its settings. -/
theorem ofSource_eq_error_iff_obstacle (settings : Settings) (source : Source) :
    (∀ error, ofSource settings source = .error error ↔ Obstacle source error) ∧
      (∀ error, Obstacle source error →
        (∃ failure, error = .source failure ∧ source.seek.1 = .error failure ∧
            error.category = .io) ∨
          ∃ cause, error = .badHeader cause ∧ error.category = cause.category) ∧
      ((∃ session, ofSource settings source = .ok session) ↔ Ready source) := by
  refine ⟨?_, ?_, ?_⟩
  · intro error
    constructor
    · intro fails
      rcases obstacle_or_ready source with ⟨other, obstacle⟩ | ready
      · have same := obstacle.fails settings
        rw [fails] at same
        cases same
        exact obstacle
      · obtain ⟨session, opens⟩ := ready.opens settings
        rw [fails] at opens
        cases opens
    · intro obstacle
      exact obstacle.fails settings
  · intro error obstacle
    cases obstacle with
    | unmeasured fails => exact .inl ⟨_, rfl, fails, rfl⟩
    | short measured less => exact .inr ⟨_, rfl, rfl⟩
    | unsought measured room fails => exact .inr ⟨_, rfl, rfl⟩
    | unread measured room sought fails => exact .inr ⟨_, rfl, rfl⟩
    | invalid measured room sought filled wrong => exact .inr ⟨_, rfl, rfl⟩
  · constructor
    · rintro ⟨session, opens⟩
      rcases obstacle_or_ready source with ⟨error, obstacle⟩ | ready
      · rw [obstacle.fails settings] at opens
        cases opens
      · exact ready
    · intro ready
      exact ready.opens settings

end Session

end EventLog
