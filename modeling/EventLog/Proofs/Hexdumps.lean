import Mathlib.Data.List.Forall2
import EventLog.Hexdump.Reader

/-!
# Hexdumps are aligned and can be read back

A hexdump has a line for every sixteen bytes. Each shows its address, its bytes at fixed places of a
field that is as wide on a short line as on a full one, and its bytes as characters (`shows_body`).
So the lines of a hexdump can be cut apart and read, and the digits of all of them are the data
(`render_aligned`).
-/

namespace EventLog

namespace Hex

/-- Digits are read one after the other. -/
theorem readNumberFrom?_append (value : Nat) (first second : List Char) :
    readNumberFrom? value (first ++ second) =
      (readNumberFrom? value first).bind fun read => readNumberFrom? read second := by
  induction first generalizing value with
  | nil => rfl
  | cons c rest ih =>
    rw [List.cons_append, readNumberFrom?, readNumberFrom?]
    cases digitValue? c with
    | none => rfl
    | some digit => exact ih _

/-- Zeros in front do not change a number. -/
theorem readNumber?_zeros (zeros : Nat) (digits : List Char) :
    readNumber? (List.replicate zeros '0' ++ digits) = readNumber? digits := by
  induction zeros with
  | zero => rfl
  | succ zeros ih => exact ih

/-- The digits of a number, without zeros in front. -/
def digits (letters : Letters) (n : Nat) : List Char :=
  (Nat.toDigits 16 n).map fun c => digit letters ((digitValue? c).getD 0)

/-- A number is written in its digits, after as many zeros as fill the width. -/
theorem number_eq (letters : Letters) (width n : Nat) :
    number letters width n =
      List.replicate (width - (digits letters n).length) '0' ++ digits letters n := rfl

/-- A digit is the one for its value, in the letters asked for. -/
theorem digit_digitChar (letters : Letters) {value : Nat} (h : value < 16) :
    digit letters ((digitValue? value.digitChar).getD 0) = digit letters value := by
  cases letters <;> revert value <;> decide

/-- A number below sixteen has one digit. -/
theorem digits_of_lt (letters : Letters) {n : Nat} (small : n < 16) :
    digits letters n = [digit letters n] := by
  rw [digits, Nat.toDigits_of_lt_base small, List.map_singleton, digit_digitChar letters small]

/-- Any other number has the digits of its sixteenth part and one more. -/
theorem digits_of_ge (letters : Letters) {n : Nat} (large : 16 ≤ n) :
    digits letters n = digits letters (n / 16) ++ [digit letters (n % 16)] := by
  have last : n % 16 < 16 := Nat.mod_lt n (by decide)
  rw [digits, Nat.toDigits_eq_if (by decide), if_neg (Nat.not_lt.mpr large), List.map_append,
    List.map_singleton, digit_digitChar letters last, digits]

/-- A number is read from its digits. -/
theorem readNumber?_digits (letters : Letters) (n : Nat) :
    readNumber? (digits letters n) = some n := by
  induction n using Nat.strongRecOn with
  | ind n ih =>
    by_cases small : n < 16
    · rw [digits_of_lt letters small, readNumber?, readNumberFrom?,
        digitValue?_digit letters small]
      dsimp only
      rw [Nat.mul_zero, Nat.zero_add, readNumberFrom?]
    · have large : 16 ≤ n := Nat.le_of_not_lt small
      have last : n % 16 < 16 := Nat.mod_lt n (by decide)
      have front := ih (n / 16) (by omega)
      rw [readNumber?] at front
      rw [digits_of_ge letters large, readNumber?, readNumberFrom?_append, front, Option.bind_some,
        readNumberFrom?, digitValue?_digit letters last]
      dsimp only
      rw [readNumberFrom?, Nat.div_add_mod]

/-- A number is read back from what was written, whatever zeros fill the width. -/
theorem readNumber?_number (letters : Letters) (width n : Nat) :
    readNumber? (number letters width n) = some n := by
  rw [number_eq, readNumber?_zeros, readNumber?_digits]

/-- A number takes at least the width. -/
theorem le_length_number (letters : Letters) (width n : Nat) :
    width ≤ (number letters width n).length := by
  rw [number_eq, List.length_append, List.length_replicate]
  omega

/-- The digit for a value other than zero is no zero. -/
theorem digit_ne_zero (letters : Letters) {value : Nat} (h : value < 16) (some : value ≠ 0) :
    digit letters value ≠ '0' := by
  cases letters <;> revert value <;> decide

/-- The digits of a number other than zero do not start with a zero. -/
theorem head?_digits_ne (letters : Letters) {n : Nat} (some : n ≠ 0) :
    (digits letters n).head? ≠ .some '0' := by
  induction n using Nat.strongRecOn with
  | ind n ih =>
    by_cases small : n < 16
    · rw [digits_of_lt letters small, List.head?_cons, ne_eq, Option.some.injEq]
      exact digit_ne_zero letters small some
    · have front := ih (n / 16) (by omega) (by omega)
      have filled : digits letters (n / 16) ≠ [] := by
        rw [digits, ne_eq, List.map_eq_nil_iff]
        exact Nat.toDigits_ne_nil
      obtain ⟨first, rest, shown⟩ := List.exists_cons_of_ne_nil filled
      rw [shown] at front
      rw [digits_of_ge letters (Nat.le_of_not_lt small), shown]
      exact front

/-- A number that takes more than the width does not start with a zero. -/
theorem head?_number_ne (letters : Letters) {width n : Nat} (some : 0 < width)
    (wider : width < (number letters width n).length) :
    (number letters width n).head? ≠ .some '0' := by
  rw [number_eq, List.length_append, List.length_replicate] at wider
  have long : width < (digits letters n).length := by omega
  rw [number_eq, Nat.sub_eq_zero_of_le (Nat.le_of_lt long), List.replicate_zero, List.nil_append]
  refine head?_digits_ne letters ?_
  rintro rfl
  rw [digits_of_lt letters (by decide), List.length_singleton] at long
  omega

/-- A lower-case digit is one of those that write lower-case numbers. -/
theorem isLowerDigit_digit {value : Nat} (h : value < 16) : IsLowerDigit (digit .lower value) := by
  revert value
  decide

/-- A lower-case number is written in lower-case digits. -/
theorem isLowerDigit_of_mem_number {width n : Nat} {c : Char}
    (member : c ∈ number .lower width n) : IsLowerDigit c := by
  rw [number_eq, List.mem_append] at member
  rcases member with zero | member
  · rw [List.eq_of_mem_replicate zero]
    decide
  · obtain ⟨shown, -, rfl⟩ := List.mem_map.mp member
    refine isLowerDigit_digit ?_
    cases reads : digitValue? shown with
    | none => exact Nat.zero_lt_succ _
    | some value => exact lt_of_digitValue? reads

/-- So is a byte. -/
theorem isLowerDigit_of_mem_byte {b : UInt8} {c : Char} (member : c ∈ byte .lower b) :
    IsLowerDigit c := by
  have hb : b.toNat < 256 := b.toNat_lt
  rw [byte, List.mem_cons, List.mem_singleton] at member
  rcases member with rfl | rfl
  · exact isLowerDigit_digit (by omega)
  · exact isLowerDigit_digit (by omega)

/-- The digits of joined byte strings are those of each. -/
theorem bytes_flatten (letters : Letters) (parts : List Bytes) :
    bytes letters parts.flatten = parts.flatMap (bytes letters) := by
  rw [bytes, ← List.flatMap_id, List.flatMap_assoc]
  rfl

end Hex

namespace Hexdump

/-- There is a line for every sixteen bytes, and one for what is left. -/
theorem length_rows (data : Bytes) : (rows data).length = (data.length + 15) / 16 := by
  fun_induction rows data with
  | case1 data none =>
    rw [List.isEmpty_iff.mp none]
    rfl
  | case2 data some ih =>
    have filled : 0 < data.length := by
      rw [List.length_pos_iff]
      exact fun none => some (List.isEmpty_iff.mpr none)
    rw [List.length_cons, ih, List.length_drop, lineLength]
    omega

/-- The lines join to the data. -/
theorem flatten_rows (data : Bytes) : (rows data).flatten = data := by
  fun_induction rows data with
  | case1 data none => rw [List.isEmpty_iff.mp none, List.flatten_nil]
  | case2 data some ih => rw [List.flatten_cons, ih, List.take_append_drop]

/-- A line has the sixteen bytes from its place on, as far as there are any. -/
theorem row_eq {data row : Bytes} {k : Nat} (shown : (rows data)[k]? = some row) :
    row = (data.drop (16 * k)).take 16 := by
  fun_induction rows data generalizing k with
  | case1 data none => cases shown
  | case2 data some ih =>
    cases k with
    | zero => exact (Option.some.inj shown).symm
    | succ k =>
      rw [List.getElem?_cons_succ] at shown
      rw [ih shown, List.drop_drop, lineLength]
      congr 2
      omega

/-- All sixteen places of a line. -/
def cells (row : Bytes) : List Char := (List.range lineLength).flatMap (cell row)

/-- A place has what stands there for its byte, and the ninth place has a blank in front. -/
theorem cell_eq (row : Bytes) (place : Nat) :
    cell row place = (if place = 8 then [' '] else []) ++ pairOf row[place]? := by
  rw [cell]
  cases row[place]? <;> rfl

/-- What stands at a place is three characters. -/
theorem length_pairOf (b : Option UInt8) : (pairOf b).length = 3 := by cases b <;> rfl

/-- The first places take three characters each, and one more from the ninth place on. -/
theorem length_front (row : Bytes) (places : Nat) :
    ((List.range places).flatMap (cell row)).length = 3 * places + if 8 < places then 1 else 0 := by
  induction places with
  | zero => rfl
  | succ places ih =>
    rw [List.range_succ, List.flatMap_append, List.flatMap_singleton, List.length_append, ih,
      cell_eq, List.length_append, length_pairOf]
    by_cases ninth : places = 8
    · rw [ninth]
      rfl
    · rw [if_neg ninth, List.length_nil]
      split <;> split <;> omega

/-- The places of a line take the width of its field, however many bytes the line has. -/
theorem length_cells (row : Bytes) : (cells row).length = fieldWidth := length_front row lineLength

/-- The places of a line are those before one of them, that one, and further ones. -/
theorem cells_split (row : Bytes) {index : Nat} (within : index < 16) :
    ∃ rest, cells row =
      (List.range index).flatMap (cell row) ++ (cell row index ++ rest) := by
  have all : lineLength = index + 1 + (15 - index) := by
    rw [lineLength]
    omega
  refine ⟨((List.range (15 - index)).map (index + 1 + ·)).flatMap (cell row), ?_⟩
  rw [cells, all, List.range_add, List.range_succ, List.flatMap_append, List.flatMap_append,
    List.flatMap_singleton, List.append_assoc]

/-- At the place of a byte stands what shows it. -/
theorem take_drop_cells (row : Bytes) {index : Nat} (within : index < 16) :
    ((cells row).drop (placeOf index)).take 3 = pairOf row[index]? := by
  obtain ⟨rest, split⟩ := cells_split row within
  have front : ((List.range index).flatMap (cell row) ++ if index = 8 then [' '] else []).length =
      placeOf index := by
    rw [List.length_append, length_front, placeOf]
    by_cases ninth : index = 8
    · rw [ninth]
      rfl
    · rw [if_neg ninth, List.length_nil]
      split <;> split <;> omega
  rw [split, cell_eq, List.append_assoc, ← List.append_assoc, ← front, List.drop_left,
    ← length_pairOf row[index]?, List.take_left]

/-- Before the ninth place stands one more blank. -/
theorem getElem?_cells_gap (row : Bytes) : (cells row)[24]? = some ' ' := by
  obtain ⟨rest, split⟩ := cells_split row (show 8 < 16 by decide)
  have front : ((List.range 8).flatMap (cell row)).length = 24 := length_front row 8
  rw [split, List.getElem?_append_right (Nat.le_of_eq front), front, cell_eq]
  rfl

/-- Without its blanks a place is the digits of its byte. -/
theorem filter_cell (row : Bytes) (place : Nat) :
    (cell row place).filter (· != ' ') = Hex.bytes .lower row[place]?.toList := by
  have gap : (if place = 8 then [' '] else []).filter (· != ' ') = [] := by
    split <;> rfl
  rw [cell_eq, List.filter_append, gap, List.nil_append]
  cases row[place]? with
  | none => rfl
  | some b =>
    have digits : (Hex.byte .lower b).filter (· != ' ') = Hex.byte .lower b := by
      rw [List.filter_eq_self]
      intro c member
      have digit := Hex.isLowerDigit_of_mem_byte member
      rw [bne_iff_ne]
      rintro rfl
      exact absurd digit (by decide)
    rw [pairOf, List.filter_cons_of_neg (by decide), digits, Option.toList_some, Hex.bytes,
      List.flatMap_singleton]

/-- Without their blanks the first places are the digits of the first bytes. -/
theorem filter_front (row : Bytes) (places : Nat) :
    ((List.range places).flatMap (cell row)).filter (· != ' ') =
      Hex.bytes .lower (row.take places) := by
  induction places with
  | zero => rfl
  | succ places ih =>
    rw [List.range_succ, List.flatMap_append, List.flatMap_singleton, List.filter_append, ih,
      filter_cell, List.take_add_one, Hex.bytes, Hex.bytes, Hex.bytes, List.flatMap_append]

/-- Without their blanks all places of a line are the digits of its bytes. -/
theorem filter_cells {row : Bytes} (few : row.length ≤ lineLength) :
    (cells row).filter (· != ' ') = Hex.bytes .lower row := by
  rw [cells, filter_front, List.take_of_length_le few]

/-- No place has a line break. -/
theorem newline_not_mem_cells (row : Bytes) : '\n' ∉ cells row := by
  rw [cells, List.mem_flatMap]
  rintro ⟨place, -, member⟩
  rw [cell_eq, List.mem_append] at member
  rcases member with gap | member
  · split at gap
    · exact absurd (List.mem_singleton.mp gap) (by decide)
    · cases gap
  · cases shown : row[place]? with
    | none =>
      rw [shown] at member
      exact absurd member (by decide)
    | some b =>
      rw [shown, pairOf, List.mem_cons] at member
      rcases member with blank | digit
      · exact absurd blank (by decide)
      · exact absurd (Hex.isLowerDigit_of_mem_byte digit) (by decide)

/-- A byte is shown by a character that stands for it. -/
theorem standsFor_glyph (b : UInt8) : StandsFor (glyph b) b := by
  unfold StandsFor glyph
  by_cases printable : 0x20 ≤ b.toNat ∧ b.toNat ≤ 0x7E
  · rw [if_pos printable, if_pos printable]
    have valid : b.toNat.isValidChar := .inl (by omega)
    rw [Char.ofNat, dif_pos valid]
    rfl
  · rw [if_neg printable, if_neg printable]

/-- No byte is shown by a line break. -/
theorem glyph_ne_newline (b : UInt8) : glyph b ≠ '\n' := by
  have shown := standsFor_glyph b
  unfold StandsFor at shown
  intro same
  rw [same] at shown
  split at shown
  · have number : '\n'.toNat = 10 := rfl
    omega
  · exact absurd shown (by decide)

/-- A line without the line break that ends it. -/
def body (address : Nat) (row : Bytes) : List Char :=
  Hex.number .lower 8 address ++
    ':' :: (cells row ++ ([' ', ' ', '|'] ++ row.map glyph ++ ['|']))

/-- A line is that and a line break. -/
theorem line_eq_body (address : Nat) (row : Bytes) :
    line address row = body address row ++ ['\n'] := by
  simp only [line, body, cells, List.append_assoc, List.cons_append, List.nil_append]

/-- No line has a line break before its end. -/
theorem newline_not_mem_body (address : Nat) (row : Bytes) : '\n' ∉ body address row := by
  simp only [body, List.mem_append, List.mem_cons, List.mem_map, List.not_mem_nil, or_false]
  rintro (digit | colon | cell | (frame | ⟨b, -, shown⟩) | bar)
  · exact absurd (Hex.isLowerDigit_of_mem_number digit) (by decide)
  · exact absurd colon (by decide)
  · exact newline_not_mem_cells row cell
  · exact absurd frame (by decide)
  · exact glyph_ne_newline b shown
  · exact absurd bar (by decide)

/-- A line that a line break ends is the first of a text. -/
theorem linesOf_append {line : List Char} (bare : '\n' ∉ line) (rest : List Char) :
    linesOf (line ++ '\n' :: rest) = line :: linesOf rest := by
  induction line with
  | nil => rw [List.nil_append, linesOf, if_pos rfl]
  | cons c line ih =>
    rw [List.mem_cons, not_or] at bare
    rw [List.cons_append, linesOf, if_neg (Ne.symm bare.1), ih bare.2]

/-- Lines that line breaks end are the lines of their text. -/
theorem linesOf_flatMap {lines : List (List Char)} (bare : ∀ line ∈ lines, '\n' ∉ line) :
    linesOf (lines.flatMap (· ++ ['\n'])) = lines := by
  induction lines with
  | nil => rfl
  | cons line lines ih =>
    have first := bare line List.mem_cons_self
    have others := ih fun other member => bare other (List.mem_cons_of_mem _ member)
    rw [List.flatMap_cons, List.append_assoc, List.singleton_append, linesOf_append first, others]

/-- No digit of an address is a colon. -/
theorem ne_colon_of_mem_number (address : Nat) :
    ∀ c ∈ Hex.number .lower 8 address, (c != ':') = true := by
  intro c member
  rw [bne_iff_ne]
  rintro rfl
  exact absurd (Hex.isLowerDigit_of_mem_number member) (by decide)

/-- A line has its address before the colon. -/
theorem addressOf_body (address : Nat) (row : Bytes) :
    addressOf (body address row) = Hex.number .lower 8 address := by
  rw [addressOf, body, List.takeWhile_append_of_pos (ne_colon_of_mem_number address),
    List.takeWhile_cons_of_neg (by decide), List.append_nil]

/-- After the colon of a line come its bytes, and then its characters between bars. -/
theorem afterColon_body (address : Nat) (row : Bytes) :
    afterColon (body address row) = cells row ++ ([' ', ' ', '|'] ++ row.map glyph ++ ['|']) := by
  rw [afterColon, body, List.dropWhile_append_of_pos (ne_colon_of_mem_number address),
    List.dropWhile_cons_of_neg (by decide), List.drop_one, List.tail_cons]

/-- The field of a line is its places. -/
theorem fieldOf_body (address : Nat) (row : Bytes) : fieldOf (body address row) = cells row := by
  rw [fieldOf, afterColon_body, ← length_cells row, List.take_left]

/-- The column of a line is its characters between bars. -/
theorem columnOf_body (address : Nat) (row : Bytes) :
    columnOf (body address row) = [' ', ' ', '|'] ++ row.map glyph ++ ['|'] := by
  rw [columnOf, afterColon_body, ← length_cells row, List.drop_left]

/-- A line shows bytes with an address. -/
structure Shows (address : Nat) (row : Bytes) (line : List Char) : Prop where
  /-- The line is its address, a colon, its field and its column. -/
  parts : line = addressOf line ++ ':' :: (fieldOf line ++ columnOf line)
  /-- The address is a word of 64 bits. -/
  word : address < UInt64.size
  /-- It is written in lower-case digits. -/
  lower : ∀ c ∈ addressOf line, Hex.IsLowerDigit c
  /-- They write the address. -/
  value : Hex.readNumber? (addressOf line) = some address
  /-- There are at least eight of them. -/
  wide : 8 ≤ (addressOf line).length
  /-- If there are more, there is no zero in front. -/
  filled : 8 < (addressOf line).length → (addressOf line).head? ≠ some '0'
  /-- The field has the same width on every line, so that the column starts at the same distance
  from the colon. -/
  width : (fieldOf line).length = 49
  /-- In the field each byte has its place, which is blank if there is no such byte. -/
  places : ∀ index < 16, ((fieldOf line).drop (placeOf index)).take 3 = pairOf row[index]?
  /-- Between the eighth byte and the ninth stands one more blank. -/
  gap : (fieldOf line)[24]? = some ' '
  /-- The column has one character for each byte, between bars. -/
  column : ∃ characters, columnOf line = [' ', ' ', '|'] ++ characters ++ ['|'] ∧
    List.Forall₂ StandsFor characters row

/-- A line shows the bytes that it was made of, whatever their number. -/
theorem shows_body {address : Nat} (word : address < UInt64.size) (row : Bytes) :
    Shows address row (body address row) where
  parts := by rw [addressOf_body, fieldOf_body, columnOf_body, body]
  word := word
  lower := by
    rw [addressOf_body]
    exact fun c => Hex.isLowerDigit_of_mem_number
  value := by rw [addressOf_body, Hex.readNumber?_number]
  wide := by
    rw [addressOf_body]
    exact Hex.le_length_number .lower 8 address
  filled := by
    rw [addressOf_body]
    exact Hex.head?_number_ne .lower (by decide)
  width := by rw [fieldOf_body, length_cells, fieldWidth]
  places := by
    rw [fieldOf_body]
    exact fun index => take_drop_cells row
  gap := by rw [fieldOf_body, getElem?_cells_gap]
  column := by
    refine ⟨row.map glyph, columnOf_body address row, ?_⟩
    rw [List.forall₂_map_left_iff, List.forall₂_same]
    exact fun b _ => standsFor_glyph b

/-- The lines of a hexdump without their line breaks. -/
def bodies (data : Bytes) (start : Nat) : List (List Char) :=
  (rows data).mapIdx fun i row => body (start + lineLength * i) row

/-- A hexdump is these, each with a line break. -/
theorem toList_render (data : Bytes) (start : Nat) :
    (render data start).toList = (bodies data start).flatMap (· ++ ['\n']) := by
  have ended : lines data start = (bodies data start).map (· ++ ['\n']) := by
    apply List.ext_getElem?
    intro k
    rw [lines, bodies, List.getElem?_map, List.getElem?_mapIdx, List.getElem?_mapIdx,
      Option.map_map]
    congr 1
    funext row
    exact line_eq_body _ row
  rw [render, String.toList_ofList, ended, List.flatMap_def]

/-- A hexdump is cut into them. -/
theorem linesOf_render (data : Bytes) (start : Nat) :
    linesOf (render data start).toList = bodies data start := by
  rw [toList_render, linesOf_flatMap]
  intro line member
  obtain ⟨k, -, rfl⟩ := List.mem_mapIdx.mp member
  exact newline_not_mem_body _ _

/-- The fields of all lines, without their blanks, are the digits of the data. -/
theorem filter_fields (data : Bytes) (start : Nat) :
    ((bodies data start).flatMap fieldOf).filter (· != ' ') = Hex.bytes .lower data := by
  have fields : (bodies data start).map fieldOf = (rows data).map cells := by
    apply List.ext_getElem?
    intro k
    rw [bodies, List.getElem?_map, List.getElem?_mapIdx, List.getElem?_map, Option.map_map]
    congr 1
    funext row
    exact fieldOf_body _ row
  have few : ∀ row ∈ rows data, (cells row).filter (· != ' ') = Hex.bytes .lower row := by
    intro row member
    obtain ⟨k, shown⟩ := List.mem_iff_getElem?.mp member
    refine filter_cells ?_
    rw [row_eq shown, List.length_take]
    exact Nat.min_le_left _ _
  rw [List.flatMap_def, fields, ← List.flatMap_def, List.filter_flatMap, List.flatMap_congr few,
    ← Hex.bytes_flatten, flatten_rows]

/-- A hexdump has a line for every sixteen bytes, of which each shows its bytes with their address,
the last one also if it is short; and the digits in the fields of all lines are the data. -/
theorem render_aligned {data : Bytes} {start : Nat} (fits : start + data.length ≤ UInt64.size) :
    let text := (render data start).toList
    text = (linesOf text).flatMap (· ++ ['\n']) ∧
      (linesOf text).length = (data.length + 15) / 16 ∧
      (∀ k line, (linesOf text)[k]? = some line →
        Shows (start + 16 * k) ((data.drop (16 * k)).take 16) line) ∧
      read? text = some data := by
  dsimp only
  have total := length_rows data
  rw [linesOf_render, read?, linesOf_render, filter_fields, Hex.readBytes?_bytes]
  refine ⟨toList_render data start, ?_, ?_, rfl⟩
  · rw [bodies, List.length_mapIdx, total]
  · intro k line shown
    rw [bodies, List.getElem?_mapIdx, Option.map_eq_some_iff] at shown
    obtain ⟨row, there, rfl⟩ := shown
    have before := (List.getElem?_eq_some_iff.mp there).1
    rw [row_eq there, lineLength]
    exact shows_body (by omega) _

example : render [0x4C, 0x66, 0x4C, 0x65, 0, 1] 48 =
    "00000030: 4c 66 4c 65 00 01                                 |LfLe..|\n" := by cbv

/-- Nineteen bytes, three of which are left for a second line. -/
def oddBytes : Bytes := List.replicate 16 0x41 ++ [0x4C, 0x00, 0xFF]

/-- Up to the end of all addresses, these bytes are shown on a full line and a short one, with
addresses of sixteen digits, and read back. -/
theorem odd_bytes_aligned : ∃ last,
    (linesOf (render oddBytes 0xFFFFFFFFFFFFFFE0).toList).length = 2 ∧
      (linesOf (render oddBytes 0xFFFFFFFFFFFFFFE0).toList)[1]? = some last ∧
      Shows 0xFFFFFFFFFFFFFFF0 [0x4C, 0x00, 0xFF] last ∧
      read? (render oddBytes 0xFFFFFFFFFFFFFFE0).toList = some oddBytes := by
  obtain ⟨-, count, shows, back⟩ :=
    render_aligned (show 0xFFFFFFFFFFFFFFE0 + oddBytes.length ≤ UInt64.size by decide)
  have two : (linesOf (render oddBytes 0xFFFFFFFFFFFFFFE0).toList).length = 2 := count
  obtain ⟨last, there⟩ : ∃ last,
      (linesOf (render oddBytes 0xFFFFFFFFFFFFFFE0).toList)[1]? = some last :=
    ⟨_, List.getElem?_eq_getElem (by rw [two]; decide)⟩
  exact ⟨last, two, there, shows 1 last there, back⟩

end Hexdump

end EventLog
