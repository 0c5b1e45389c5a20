import EventLog.Xml.Reader

/-!
# Reading what was written

Text that was escaped is read as itself, whatever stands after it, and so are attributes and tags:
their names have neither quotes nor angle brackets, and escaped values have none either. A start tag
that was written therefore closes the element that the next end tag has opened
(`readChars_start`, `readChars_stop`).
-/

namespace EventLog.Xml

variable {containers : List String} {name : String} {attributes : List (String × String)}

/-- The characters of a name may stand in a name. -/
theorem isNameChar_of_mem (named : isName name = true) {c : Char} (member : c ∈ name.toList) :
    isNameChar c = true := by
  rw [isName, Bool.and_eq_true] at named
  exact List.all_eq_true.mp named.2 c member

/-- A name has none of the characters that may not stand in one. -/
theorem ne_of_mem_name (named : isName name = true) {c other : Char} (member : c ∈ name.toList)
    (stranger : isNameChar other = false) : c ≠ other := by
  rintro rfl
  rw [isNameChar_of_mem named member] at stranger
  cases stranger

/-- The characters of attributes that are written one after the other. -/
theorem toList_attributesText_cons (name value : String) (others : List (String × String)) :
    (attributesText ((name, value) :: others)).toList =
      ' ' :: (name.toList ++ '=' :: '"' :: (value.toList.flatMap escapeChar ++
        '"' :: (attributesText others).toList)) := by
  simp only [attributesText, escape, List.map_cons, String.join_cons, String.toList_append,
    String.toList_ofList, List.append_assoc]
  rfl

/-- An attribute that was written is read as it is, before the others. -/
theorem attributes?_cons (named : isName name = true) (value : String) (rest : List Char) :
    attributes? (' ' :: (name.toList ++ '=' :: '"' :: (value.toList.flatMap escapeChar ++
      '"' :: rest))) =
      (attributes? rest).map fun (others, closed) => ((name, value) :: others, closed) := by
  have free : ∀ c ∈ ' ' :: (name.toList ++ ['=']), (c == '"') = false := by
    intro c member
    rw [beq_eq_false_iff_ne]
    simp only [List.mem_cons, List.mem_append, List.not_mem_nil, or_false] at member
    rcases member with rfl | within | rfl
    · decide
    · exact ne_of_mem_name named within rfl
    · decide
  have free' : ∀ c ∈ value.toList.flatMap escapeChar, (c == '"') = false := by
    intro c member
    exact beq_eq_false_iff_ne.mpr (escape_plain _ c member).2.2
  have front := cut_append free ('"' :: (value.toList.flatMap escapeChar ++ '"' :: rest))
  rw [cut_delimiter rfl, cut_append free', cut_delimiter rfl, List.cons_append, List.append_assoc,
    List.singleton_append] at front
  dsimp only at front
  rw [List.append_nil, List.append_nil] at front
  have takes : (name.toList ++ ['=']).takeWhile isNameChar = name.toList := by
    rw [List.takeWhile_append_of_pos fun c member => isNameChar_of_mem named member,
      List.takeWhile_cons_of_neg (by decide), List.append_nil]
  have drops : (name.toList ++ ['=']).dropWhile isNameChar = ['='] := by
    rw [List.dropWhile_append_of_pos fun c member => isNameChar_of_mem named member,
      List.dropWhile_cons_of_neg (by decide)]
  have label : attributeName? (' ' :: (name.toList ++ ['='])) = some name := by
    rw [attributeName?, takes, drops, String.ofList_toList, named]
    rfl
  have content : unescape? (value.toList.flatMap escapeChar) = some value.toList := by
    have whole := unescape?_escape value.toList []
    rw [List.append_nil] at whole
    rw [whole]
    exact congrArg some (List.append_nil _)
  rw [attributes?, front]
  dsimp only
  rw [attributesFrom, label, content, attributes?]
  dsimp only
  cases attributesFrom (cut (· == '"') rest).1 (cut (· == '"') rest).2 with
  | none => rfl
  | some others =>
    refine congrArg some ?_
    rw [String.ofList_toList]

/-- Attributes that were written are read as they are, up to what closes the tag. -/
theorem attributes?_written (named : ∀ pair ∈ attributes, isName pair.1 = true)
    {closing : List Char} {closed : Bool} (ends : attributes? closing = some ([], closed)) :
    attributes? ((attributesText attributes).toList ++ closing) = some (attributes, closed) := by
  induction attributes with
  | nil => exact ends
  | cons pair others ih =>
    have here := named pair List.mem_cons_self
    have later := ih fun other member => named other (List.mem_cons_of_mem _ member)
    have whole := attributes?_cons here pair.2 ((attributesText others).toList ++ closing)
    rw [later] at whole
    rw [toList_attributesText_cons, List.cons_append, List.append_assoc, List.cons_append,
      List.cons_append, List.append_assoc, List.cons_append, whole]
    rfl

/-- No character of a name stands in front of attributes. -/
theorem takeWhile_attributes (attributes : List (String × String)) {closing : List Char}
    (apart : closing.takeWhile isNameChar = []) :
    ((attributesText attributes).toList ++ closing).takeWhile isNameChar = [] := by
  cases attributes with
  | nil => exact apart
  | cons pair others =>
    rw [toList_attributesText_cons, List.cons_append]
    exact List.takeWhile_cons_of_neg (by decide)

/-- What stands between the brackets of a tag that was written, is read as the tag. -/
theorem tag?_written (named : isName name = true)
    (names : ∀ pair ∈ attributes, isName pair.1 = true) {closing : List Char}
    {closed : Bool} (apart : closing.takeWhile isNameChar = [])
    (ends : attributes? closing = some ([], closed)) :
    tag? (name.toList ++ ((attributesText attributes).toList ++ closing)) =
      some (if closed then .empty name attributes else .start name attributes) := by
  have within : ∀ c ∈ name.toList, isNameChar c = true := fun c => isNameChar_of_mem named
  have none := takeWhile_attributes attributes apart
  have all : ((attributesText attributes).toList ++ closing).takeWhile isNameChar ++
      ((attributesText attributes).toList ++ closing).dropWhile isNameChar =
        (attributesText attributes).toList ++ closing := List.takeWhile_append_dropWhile
  rw [none, List.nil_append] at all
  unfold tag?
  split
  · rename_i rest equal
    have nonempty : name.toList ≠ [] := by
      intro nothing
      rw [String.toList_eq_nil_iff] at nothing
      rw [nothing] at named
      cases named
    obtain ⟨c, others, shown⟩ := List.exists_cons_of_ne_nil nonempty
    rw [shown, List.cons_append] at equal
    have first := ne_of_mem_name named (by rw [shown]; exact List.mem_cons_self)
      (show isNameChar '/' = false by decide)
    exact absurd (List.cons.inj equal).1 first
  · dsimp only
    rw [List.takeWhile_append_of_pos within, List.dropWhile_append_of_pos within, none, all,
      List.append_nil, String.ofList_toList, named, if_pos rfl, attributes?_written names ends]
    rfl

/-- What stands between the brackets of an end tag is read as the end tag. -/
theorem tag?_stop (named : isName name = true) : tag? ('/' :: name.toList) = some (.stop name) := by
  rw [tag?, String.ofList_toList, named, if_pos rfl]

/-- No angle bracket stands within a name. -/
theorem isBracket_of_mem_name (named : isName name = true) :
    ∀ c ∈ name.toList, isBracket c = false := by
  intro c member
  have less := ne_of_mem_name named member (show isNameChar '<' = false by decide)
  have greater := ne_of_mem_name named member (show isNameChar '>' = false by decide)
  rw [isBracket, beq_eq_false_iff_ne.mpr less, beq_eq_false_iff_ne.mpr greater, Bool.or_false]

/-- No angle bracket stands within text that was escaped. -/
theorem isBracket_of_mem_escape (text : List Char) :
    ∀ c ∈ text.flatMap escapeChar, isBracket c = false := by
  intro c member
  obtain ⟨less, greater, -⟩ := escape_plain text c member
  rw [isBracket, beq_eq_false_iff_ne.mpr less, beq_eq_false_iff_ne.mpr greater, Bool.or_false]

/-- Text that was escaped is read as itself, in front of other text. -/
theorem readChars_escape (text rest : List Char) :
    readChars containers (text.flatMap escapeChar ++ rest) =
      (readChars containers rest).map fun reading =>
        { reading with text := String.ofList text ++ reading.text } := by
  rw [readChars, readChars, cut_append (isBracket_of_mem_escape text)]
  dsimp only
  rw [unescape?_escape]
  cases readTags containers (cut isBracket rest).2 with
  | none => rfl
  | some reading =>
    cases unescape? (cut isBracket rest).1 with
    | none => rfl
    | some other =>
      refine congrArg some ?_
      rw [String.ofList_append]

/-- A tag is read before what follows it. -/
theorem readChars_tag {inside : List Char} (plain : ∀ c ∈ inside, isBracket c = false) {tag : Tag}
    (reads : tag? inside = some tag) {rest : List Char} {reading reading' : Reading}
    (later : readChars containers rest = some reading)
    (joined : reading.withTag containers tag = some reading') :
    readChars containers ('<' :: (inside ++ '>' :: rest)) = some { reading' with text := "" } := by
  rw [readChars] at later
  dsimp only at later
  rw [readChars, cut_delimiter rfl, cut_append plain, cut_delimiter rfl]
  dsimp only
  rw [List.append_nil, readTags]
  cases tags : readTags containers (cut isBracket rest).2 with
  | none =>
    rw [tags] at later
    cases later
  | some other =>
    cases front : unescape? (cut isBracket rest).1 with
    | none =>
      rw [tags, front] at later
      cases later
    | some text =>
      rw [tags, front] at later
      cases later
      rw [reads]
      dsimp only [Option.bind_eq_bind, Option.bind_some]
      rw [joined]
      rfl

/-- No angle bracket stands within attributes that were written. -/
theorem isBracket_of_mem_attributes (names : ∀ pair ∈ attributes, isName pair.1 = true) :
    ∀ c ∈ (attributesText attributes).toList, isBracket c = false := by
  induction attributes with
  | nil =>
    intro c member
    exact absurd member List.not_mem_nil
  | cons pair others ih =>
    intro c member
    rw [toList_attributesText_cons] at member
    simp only [List.mem_cons, List.mem_append] at member
    rcases member with rfl | label | rfl | rfl | value | rfl | later
    · rfl
    · exact isBracket_of_mem_name (names pair List.mem_cons_self) c label
    · rfl
    · rfl
    · exact isBracket_of_mem_escape _ c value
    · rfl
    · exact ih (fun other within => names other (List.mem_cons_of_mem _ within)) c later

/-- No angle bracket stands within a tag that was written. -/
theorem isBracket_of_mem_tag (named : isName name = true)
    (names : ∀ pair ∈ attributes, isName pair.1 = true) {closing : List Char}
    (plain : ∀ c ∈ closing, isBracket c = false) :
    ∀ c ∈ name.toList ++ ((attributesText attributes).toList ++ closing), isBracket c = false := by
  intro c member
  rcases List.mem_append.mp member with label | after
  · exact isBracket_of_mem_name named c label
  · rcases List.mem_append.mp after with within | last
    · exact isBracket_of_mem_attributes names c within
    · exact plain c last

variable {rest : List Char} {reading : Reading}

/-- A start tag that was written closes the element that the next end tag has opened. -/
theorem readChars_start (named : isName name = true)
    (names : ∀ pair ∈ attributes, isName pair.1 = true)
    (later : readChars containers rest = some reading) {after : List Node}
    {outer : List (String × List Node)} (opened : reading.outer = (name, after) :: outer) :
    readChars containers ((Piece.start name attributes).render.toList ++ rest) =
      some ⟨"", .element name attributes (contents containers name reading.parts) :: after,
        outer⟩ := by
  have shown : (Piece.start name attributes).render.toList ++ rest =
      '<' :: ((name.toList ++ ((attributesText attributes).toList ++ [])) ++ '>' :: rest) := by
    simp only [Piece.render, String.toList_append, List.append_assoc, List.nil_append]
    rfl
  have plain := isBracket_of_mem_tag named names (fun c member => absurd member List.not_mem_nil)
  have reads := tag?_written named names rfl (show attributes? [] = some ([], false) from rfl)
  rw [if_neg Bool.false_ne_true] at reads
  have joined : reading.withTag containers (.start name attributes) =
      some ⟨"", .element name attributes (contents containers name reading.parts) :: after,
        outer⟩ := by
    rw [Reading.withTag, opened]
    exact if_pos rfl
  rw [shown, readChars_tag plain reads later joined]

/-- A tag of an element without content that was written is read as that element. -/
theorem readChars_empty (named : isName name = true)
    (names : ∀ pair ∈ attributes, isName pair.1 = true)
    (later : readChars containers rest = some reading) :
    readChars containers ((Piece.empty name attributes).render.toList ++ rest) =
      some ⟨"", .element name attributes [] :: reading.parts, reading.outer⟩ := by
  have shown : (Piece.empty name attributes).render.toList ++ rest =
      '<' :: ((name.toList ++ ((attributesText attributes).toList ++ ['/'])) ++ '>' :: rest) := by
    simp only [Piece.render, String.toList_append, List.append_assoc]
    rfl
  have plain := isBracket_of_mem_tag named names
    (show ∀ c ∈ ['/'], isBracket c = false from List.forall_mem_singleton.mpr rfl)
  have reads := tag?_written named names (show ['/'].takeWhile isNameChar = [] by decide)
    (show attributes? ['/'] = some ([], true) from rfl)
  rw [if_pos rfl] at reads
  rw [shown, readChars_tag plain reads later rfl]

/-- An end tag that was written opens an element to its left. -/
theorem readChars_stop (named : isName name = true)
    (later : readChars containers rest = some reading) :
    readChars containers ((Piece.stop name).render.toList ++ rest) =
      some ⟨"", [], (name, reading.parts) :: reading.outer⟩ := by
  have shown : (Piece.stop name).render.toList ++ rest =
      '<' :: (('/' :: name.toList) ++ '>' :: rest) := by
    simp only [Piece.render, String.toList_append, List.append_assoc]
    rfl
  have plain : ∀ c ∈ '/' :: name.toList, isBracket c = false := by
    intro c member
    rcases List.mem_cons.mp member with rfl | within
    · rfl
    · exact isBracket_of_mem_name named c within
  rw [shown, readChars_tag plain (tag?_stop named) later rfl]

end EventLog.Xml
