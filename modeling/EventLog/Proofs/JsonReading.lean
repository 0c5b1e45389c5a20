import EventLog.Json.Reader

/-!
# Reading JSON back

Characters that the reader turns into a value, wherever a value may stand and whatever follows, read
that value (`Reads`). Strings between quotes, digits, and arrays and objects of what is read are so
(`reads_quote`, `reads_digits`, `reads_array`, `reads_object`), and blanks may stand in front
(`Reads.blank`). Every value is therefore read back from its compact and from its indented text
(`read_render`). The compact text holds no control character (`compact_printable`).
-/

namespace EventLog.Json

variable {stack : List Frame} {rest : List Char}

/-- The text of blanks. -/
def Blank (text : List Char) : Prop := ∀ c ∈ text, isBlank c = true

/-- What follows does not start with a digit, so that a number in front of it is over. -/
def Apart (rest : List Char) : Prop := ∀ c ∈ rest.head?, c.isDigit = false

/-- Reading goes character by character. -/
theorem run_cons (state : State) (c : Char) (text : List Char) :
    run state (c :: text) = (step state c).bind fun next => run next text := rfl

/-- Blanks are passed over where a value, a name, a colon or a comma is to come. -/
theorem run_blank {state : State} (waits : ∀ c, isBlank c = true → step state c = some state)
    {text : List Char} (blank : Blank text) : run state (text ++ rest) = run state rest := by
  induction text with
  | nil => rfl
  | cons c text ih =>
    have first := waits c (blank c List.mem_cons_self)
    have later := ih fun x member => blank x (List.mem_cons_of_mem _ member)
    rw [List.cons_append, run_cons, first, Option.bind_some, later]

/-- Where a value is to come, a character is taken as the first of one. -/
theorem step_value (c : Char) : step ⟨.value, stack⟩ c = takeValue stack c := rfl

/-- Within a string, a character is taken as part of it. -/
theorem step_string (units : CodeUnits) (c : Char) :
    step ⟨.string units, stack⟩ c = takeString units stack c := rfl

/-- After a backslash, a character is taken as the rest of the escape. -/
theorem step_escape (units : CodeUnits) (c : Char) :
    step ⟨.escape units, stack⟩ c = takeEscape units stack c := rfl

/-- A number goes on with digits, unless it is zero, and is over before anything else. -/
theorem step_number (n : Nat) (c : Char) :
    step ⟨.number n, stack⟩ c =
      if c.isDigit then
        if n = 0 then none else some ⟨.number (10 * n + (c.toNat - 48)), stack⟩
      else (deliver (.number n) stack).bind (take c) := rfl

/-- A value that is delivered leaves no number to be ended. -/
theorem steady_of_deliver {value : Json} {state : State}
    (delivered : deliver value stack = some state) :
    settle state = some state ∧ ∀ c, step state c = take c state := by
  cases stack with
  | nil =>
    cases delivered
    exact ⟨rfl, fun _ => rfl⟩
  | cons frame outer =>
    cases frame with
    | array elements =>
      cases delivered
      exact ⟨rfl, fun _ => rfl⟩
    | object members => cases delivered
    | member members name =>
      cases delivered
      exact ⟨rfl, fun _ => rfl⟩

/-- A character is escaped by a letter, if it is a control character by its number, and else it
stands for itself. -/
theorem escapeChar_cases (c : Char) :
    (∃ letter, escapeChar c = ['\\', letter] ∧ unescape? letter = some c ∧ letter ≠ 'u' ∧
        0x20 ≤ letter.toNat) ∨
      (c.toNat < 0x20 ∧ escapeChar c = '\\' :: 'u' :: Hex.number .lower 4 c.toNat) ∨
      (0x20 ≤ c.toNat ∧ c ≠ '"' ∧ c ≠ '\\' ∧ escapeChar c = [c]) := by
  have named {n : Nat} (number : c.toNat = n) : Char.ofNat n = c := by
    rw [← number, Char.ofNat_toNat]
  unfold escapeChar
  by_cases quote : c = '"'
  · exact .inl ⟨'"', if_pos quote, congrArg some quote.symm, by decide, by decide⟩
  rw [if_neg quote]
  by_cases backslash : c = '\\'
  · exact .inl ⟨'\\', if_pos backslash, congrArg some backslash.symm, by decide, by decide⟩
  rw [if_neg backslash]
  by_cases backspace : c.toNat = 0x08
  · exact .inl ⟨'b', if_pos backspace, congrArg some (named backspace), by decide, by decide⟩
  rw [if_neg backspace]
  by_cases tab : c.toNat = 0x09
  · exact .inl ⟨'t', if_pos tab, congrArg some (named tab), by decide, by decide⟩
  rw [if_neg tab]
  by_cases line : c.toNat = 0x0A
  · exact .inl ⟨'n', if_pos line, congrArg some (named line), by decide, by decide⟩
  rw [if_neg line]
  by_cases feed : c.toNat = 0x0C
  · exact .inl ⟨'f', if_pos feed, congrArg some (named feed), by decide, by decide⟩
  rw [if_neg feed]
  by_cases back : c.toNat = 0x0D
  · exact .inl ⟨'r', if_pos back, congrArg some (named back), by decide, by decide⟩
  rw [if_neg back]
  by_cases control : c.toNat < 0x20
  · exact .inr (.inl ⟨control, if_pos control⟩)
  · exact .inr (.inr ⟨Nat.le_of_not_lt control, quote, backslash, if_neg control⟩)

section Strings

variable {units : CodeUnits}

/-- The four digits of a control character. -/
theorem number_control {n : Nat} (control : n < 0x20) :
    Hex.number .lower 4 n =
      ['0', '0', Hex.digit .lower (n / 16), Hex.digit .lower (n % 16)] := by
  revert n
  decide

/-- The four digits of a control character are read as its unit. -/
theorem run_hex {n : Nat} (control : n < 0x20) :
    run ⟨.hex units 4 0, stack⟩ (Hex.number .lower 4 n ++ rest) =
      run ⟨.string (units ++ [UInt16.ofNat n]), stack⟩ rest := by
  have high := Hex.digitValue?_digit .lower (show n / 16 < 16 by omega)
  have low := Hex.digitValue?_digit .lower (show n % 16 < 16 by omega)
  have whole : 16 * (n / 16) + n % 16 = n := by omega
  have zero : Hex.digitValue? '0' = some 0 := rfl
  rw [number_control control]
  simp only [List.cons_append, List.nil_append, run_cons, step, take, takeHex, zero, high, low,
    Option.map_some, Option.bind_some, Nat.reduceLeDiff, if_false, if_true, Nat.mul_zero,
    Nat.add_zero, Nat.reduceSub, Nat.zero_add, Nat.le_refl, whole]

/-- A character that was escaped is read as its units. -/
theorem run_escapeChar (c : Char) :
    run ⟨.string units, stack⟩ (escapeChar c ++ rest) =
      run ⟨.string (units ++ CodeUnits.ofChar c), stack⟩ rest := by
  have first : step ⟨.string units, stack⟩ '\\' = some ⟨.escape units, stack⟩ := rfl
  rcases escapeChar_cases c with ⟨letter, escaped, plain, other, -⟩ | ⟨control, escaped⟩ |
    ⟨solid, quote, backslash, escaped⟩
  · have second : step ⟨.escape units, stack⟩ letter =
        some ⟨.string (units ++ CodeUnits.ofChar c), stack⟩ := by
      rw [step_escape, takeEscape, if_neg other, plain, Option.map_some]
    rw [escaped, List.cons_append, run_cons, first, Option.bind_some, List.singleton_append,
      run_cons, second, Option.bind_some]
  · have second : step ⟨.escape units, stack⟩ 'u' = some ⟨.hex units 4 0, stack⟩ := rfl
    have unit : CodeUnits.ofChar c = [UInt16.ofNat c.toNat] := by
      rw [CodeUnits.ofChar, if_pos (by omega)]
    rw [escaped, List.cons_append, run_cons, first, Option.bind_some, List.cons_append, run_cons,
      second, Option.bind_some, run_hex control, unit]
  · have taken : step ⟨.string units, stack⟩ c =
        some ⟨.string (units ++ CodeUnits.ofChar c), stack⟩ := by
      rw [step_string, takeString, if_neg quote, if_neg backslash, if_neg (by omega)]
    rw [escaped, List.singleton_append, run_cons, taken, Option.bind_some]

/-- Text that was escaped is read as its units. -/
theorem run_escaped (text : List Char) :
    run ⟨.string units, stack⟩ (text.flatMap escapeChar ++ rest) =
      run ⟨.string (units ++ CodeUnits.encode text), stack⟩ rest := by
  induction text generalizing units with
  | nil => rw [CodeUnits.encode, List.flatMap_nil, List.flatMap_nil, List.append_nil,
      List.nil_append]
  | cons c text ih =>
    have spelled : CodeUnits.encode (c :: text) = CodeUnits.ofChar c ++ CodeUnits.encode text :=
      List.flatMap_cons
    rw [List.flatMap_cons, List.append_assoc, run_escapeChar, ih, spelled, List.append_assoc]

/-- A text between quotes is read as that text, once its first quote has been taken. -/
theorem run_string (text : String) :
    run ⟨.string [], stack⟩ (text.toList.flatMap escapeChar ++ '"' :: rest) =
      (deliverText text stack).bind fun next => run next rest := by
  have closing : step ⟨.string (CodeUnits.encode text.toList), stack⟩ '"' =
      deliverText text stack := by
    rw [step_string, takeString, if_pos rfl, CodeUnits.decode_encode, Option.bind_some,
      String.ofList_toList]
  rw [run_escaped, List.nil_append, run_cons, closing]

end Strings

/-- A value may stand where nothing is open, in an array, and in a member after its name. -/
def Expects : List Frame → Prop
  | .object _ :: _ => False
  | _ => True

/-- The characters are read as the value where a value may stand, whatever follows. -/
def Reads (text : List Char) (value : Json) : Prop :=
  ∀ stack rest, Expects stack → Apart rest →
    run ⟨.value, stack⟩ (text ++ rest) = (deliver value stack).bind fun next => run next rest

/-- The characters are read as elements after those that an open array has. -/
def ReadsElements (text : List Char) (values : List Json) : Prop :=
  ∀ stack elements rest, Apart rest →
    run ⟨.value, .array elements :: stack⟩ (text ++ rest) =
      run ⟨.separator, .array (values.reverse ++ elements) :: stack⟩ rest

/-- The characters are read as members after those that an open object has. -/
def ReadsMembers (text : List Char) (values : List (String × Json)) : Prop :=
  ∀ stack members rest, Apart rest →
    run ⟨.name, .object members :: stack⟩ (text ++ rest) =
      run ⟨.separator, .object (values.reverse ++ members) :: stack⟩ rest

variable {text : List Char} {value : Json}

/-- Nothing is no digit. -/
theorem apart_nil : Apart [] := nofun

/-- A character that is no digit keeps what follows apart. -/
theorem apart_cons {c : Char} (other : c.isDigit = false) : Apart (c :: rest) := by
  intro first same
  cases same
  exact other

/-- Blanks in front of something apart are apart. -/
theorem Apart.blank (apart : Apart rest) {blanks : List Char} (blank : Blank blanks) :
    Apart (blanks ++ rest) := by
  cases blanks with
  | nil => exact apart
  | cons c blanks =>
    refine apart_cons ?_
    have first := blank c List.mem_cons_self
    simp only [isBlank, Bool.or_eq_true, beq_iff_eq] at first
    rcases first with ((rfl | rfl) | rfl) | rfl <;> rfl

/-- Blanks may stand in front of a value. -/
theorem Reads.blank (reads : Reads text value) {blanks : List Char} (blank : Blank blanks) :
    Reads (blanks ++ text) value := by
  intro stack rest expects apart
  have waits (c : Char) (blank : isBlank c = true) :
      step ⟨.value, stack⟩ c = some ⟨.value, stack⟩ := if_pos blank
  rw [List.append_assoc, run_blank waits blank]
  exact reads stack rest expects apart

/-- The word `null` is read as the absent value. -/
theorem reads_null : Reads "null".toList .null := by
  intro stack rest _ _
  rfl

/-- Where a value may stand, a text is a value. -/
theorem deliverText_of_expects (expects : Expects stack) (text : String) :
    deliverText text stack = deliver (.string text) stack := by
  cases stack with
  | nil => rfl
  | cons frame outer =>
    cases frame with
    | array elements => rfl
    | object members => cases expects
    | member members name => rfl

/-- The characters of a text between quotes. -/
theorem toList_quote (text : String) :
    (quote text).toList = '"' :: (text.toList.flatMap escapeChar ++ ['"']) := by
  rw [quote, String.toList_ofList, List.cons_append]

/-- A text between quotes is read as that text. -/
theorem reads_quote (text : String) : Reads (quote text).toList (.string text) := by
  intro stack rest expects _
  have opening : step ⟨.value, stack⟩ '"' = some ⟨.string [], stack⟩ := rfl
  rw [toList_quote, List.cons_append, run_cons, opening, Option.bind_some, List.append_assoc,
    List.singleton_append, run_string, deliverText_of_expects expects]

/-- A digit is taken as the first of a number. -/
theorem step_first_digit {n : Nat} (small : n < 10) :
    step ⟨.value, stack⟩ n.digitChar = some ⟨.number n, stack⟩ := by
  have digit : n.digitChar.isDigit = true := by rw [Nat.isDigit_digitChar, decide_eq_true small]
  have other : isBlank n.digitChar = false ∧ n.digitChar ≠ '"' ∧ n.digitChar ≠ '[' ∧
      n.digitChar ≠ '\x7b' := by
    revert n
    decide
  obtain ⟨solid, quote, bracket, brace⟩ := other
  rw [step_value]
  unfold takeValue
  rw [solid, if_neg Bool.false_ne_true, if_neg quote, if_neg bracket, if_neg brace, if_pos digit,
    Nat.toNat_digitChar_sub_48_of_lt_ten small]

/-- A digit is taken as one more of a number that is not zero. -/
theorem step_next_digit {n m : Nat} (positive : m ≠ 0) (small : n < 10) :
    step ⟨.number m, stack⟩ n.digitChar = some ⟨.number (10 * m + n), stack⟩ := by
  have digit : n.digitChar.isDigit = true := by rw [Nat.isDigit_digitChar, decide_eq_true small]
  rw [step_number, if_pos digit, if_neg positive, Nat.toNat_digitChar_sub_48_of_lt_ten small]

/-- The digits of a number are read as that number. -/
theorem run_digits (n : Nat) :
    run ⟨.value, stack⟩ (Nat.toDigits 10 n ++ rest) = run ⟨.number n, stack⟩ rest := by
  -- Digits are written and read with the last one at the end, so that the number without it comes
  -- first, in front of a longer rest.
  induction n using Nat.strongRecOn generalizing rest with
  | ind n ih =>
    by_cases small : n < 10
    · rw [Nat.toDigits_of_lt_base small, List.singleton_append, run_cons, step_first_digit small,
        Option.bind_some]
    · have front : n / 10 ≠ 0 := by omega
      have last : n % 10 < 10 := by omega
      have whole : 10 * (n / 10) + n % 10 = n := by omega
      rw [Nat.toDigits_eq_if (by decide), if_neg small, List.append_assoc,
        ih (n / 10) (by omega), List.singleton_append, run_cons, step_next_digit front last,
        Option.bind_some, whole]

/-- A number is over where something apart from it follows. -/
theorem run_number (n : Nat) (apart : Apart rest) :
    run ⟨.number n, stack⟩ rest = (deliver (.number n) stack).bind fun next => run next rest := by
  -- A number has no end of its own: it is delivered by the character after it, which is then taken
  -- in the state that follows.
  cases rest with
  | nil =>
    have ended : run ⟨.number n, stack⟩ [] = deliver (.number n) stack := rfl
    rw [ended]
    cases delivered : deliver (.number n) stack with
    | none => rfl
    | some next => exact (steady_of_deliver delivered).1.symm
  | cons c rest =>
    have other : c.isDigit = false := apart c rfl
    rw [run_cons, step_number, other, if_neg Bool.false_ne_true]
    cases delivered : deliver (.number n) stack with
    | none => rfl
    | some next =>
      rw [Option.bind_some, Option.bind_some, run_cons, (steady_of_deliver delivered).2]

/-- Digits are read as their number. -/
theorem reads_digits (n : Nat) : Reads (digits n).toList (.number n) := by
  intro stack rest _ apart
  rw [digits, String.toList_ofList, run_digits, run_number n apart]

/-- One element is read as it stands. -/
theorem Reads.element (reads : Reads text value) : ReadsElements text [value] := by
  intro stack elements rest apart
  have delivered : deliver value (.array elements :: stack) =
      some ⟨.separator, .array (value :: elements) :: stack⟩ := rfl
  rw [reads (.array elements :: stack) rest trivial apart, delivered, Option.bind_some,
    List.reverse_singleton, List.singleton_append]

/-- Elements are read one after the other, with a comma in between. -/
theorem Reads.elements (reads : Reads text value) {others : List Char} {values : List Json}
    (later : ReadsElements others values) :
    ReadsElements (text ++ ',' :: others) (value :: values) := by
  intro stack elements rest apart
  have comma : step ⟨.separator, .array (value :: elements) :: stack⟩ ',' =
      some ⟨.value, .array (value :: elements) :: stack⟩ := rfl
  have delivered : deliver value (.array elements :: stack) =
      some ⟨.separator, .array (value :: elements) :: stack⟩ := rfl
  rw [List.append_assoc, List.cons_append,
    reads (.array elements :: stack) (',' :: (others ++ rest)) trivial (apart_cons rfl), delivered,
    Option.bind_some, run_cons, comma, Option.bind_some, later _ _ _ apart, List.reverse_cons,
    List.append_assoc, List.singleton_append]

/-- An array without elements is read as one. -/
theorem reads_array_nil : Reads ['[', ']'] (.array []) := by
  intro stack rest _ _
  rfl

/-- An array is read from its elements between brackets; blanks may stand before the last one. -/
theorem ReadsElements.array {values : List Json} (reads : ReadsElements text values)
    {blanks : List Char} (blank : Blank blanks) :
    Reads ('[' :: (text ++ (blanks ++ [']']))) (.array values) := by
  intro stack rest _ apart
  have opening : step ⟨.value, stack⟩ '[' = some ⟨.value, .array [] :: stack⟩ := rfl
  have waits (c : Char) (blank : isBlank c = true) :
      step ⟨.separator, .array values.reverse :: stack⟩ c =
        some ⟨.separator, .array values.reverse :: stack⟩ := if_pos blank
  have closing : step ⟨.separator, .array values.reverse :: stack⟩ ']' =
      deliver (.array values.reverse.reverse) stack := rfl
  have after : Apart (blanks ++ ']' :: rest) := (apart_cons rfl).blank blank
  simp only [List.cons_append, List.append_assoc, List.nil_append]
  rw [run_cons, opening, Option.bind_some, reads _ _ _ after, List.append_nil,
    run_blank waits blank, run_cons, closing, List.reverse_reverse]

/-- The characters of a member: the name between quotes, a colon, blanks, and the value. -/
def memberText (name : String) (blanks text : List Char) : List Char :=
  (quote name).toList ++ ':' :: (blanks ++ text)

/-- A member of a compact text has no blanks. -/
theorem toList_compact_member (name text : String) :
    (quote name ++ ":" ++ text).toList = memberText name [] text.toList := by
  have colon : ":".toList = [':'] := rfl
  simp only [memberText, String.toList_append, colon, List.append_assoc, List.singleton_append,
    List.nil_append]

/-- A member of an indented text has a blank after the colon. -/
theorem toList_indented_member (name text : String) :
    (quote name ++ ": " ++ text).toList = memberText name [' '] text.toList := by
  have colon : ": ".toList = [':', ' '] := rfl
  simp only [memberText, String.toList_append, colon, List.append_assoc, List.cons_append,
    List.nil_append]

/-- A member is read from its name and its value. -/
theorem Reads.member (reads : Reads text value) (name : String) {blanks : List Char}
    (blank : Blank blanks) : ReadsMembers (memberText name blanks text) [(name, value)] := by
  intro stack members rest apart
  have opening : step ⟨.name, .object members :: stack⟩ '"' =
      some ⟨.string [], .object members :: stack⟩ := rfl
  have named : deliverText name (.object members :: stack) =
      some ⟨.colon, .member members name :: stack⟩ := rfl
  have colon : step ⟨.colon, .member members name :: stack⟩ ':' =
      some ⟨.value, .member members name :: stack⟩ := rfl
  have delivered : deliver value (.member members name :: stack) =
      some ⟨.separator, .object ((name, value) :: members) :: stack⟩ := rfl
  rw [memberText, toList_quote]
  simp only [List.cons_append, List.append_assoc, List.nil_append]
  rw [run_cons, opening, Option.bind_some, run_string, named, Option.bind_some, run_cons, colon,
    Option.bind_some, ← List.append_assoc,
    reads.blank blank (.member members name :: stack) rest trivial apart, delivered,
    Option.bind_some, List.reverse_singleton, List.singleton_append]

/-- Blanks may stand in front of members. -/
theorem ReadsMembers.blank {values : List (String × Json)} (reads : ReadsMembers text values)
    {blanks : List Char} (blank : Blank blanks) : ReadsMembers (blanks ++ text) values := by
  intro stack members rest apart
  have waits (c : Char) (blank : isBlank c = true) :
      step ⟨.name, .object members :: stack⟩ c = some ⟨.name, .object members :: stack⟩ :=
    if_pos blank
  rw [List.append_assoc, run_blank waits blank]
  exact reads stack members rest apart

/-- Members are read one after the other, with a comma in between. -/
theorem ReadsMembers.cons {entry : String × Json} (reads : ReadsMembers text [entry])
    {others : List Char} {values : List (String × Json)} (later : ReadsMembers others values) :
    ReadsMembers (text ++ ',' :: others) (entry :: values) := by
  intro stack members rest apart
  have comma : step ⟨.separator, .object (entry :: members) :: stack⟩ ',' =
      some ⟨.name, .object (entry :: members) :: stack⟩ := rfl
  rw [List.append_assoc, List.cons_append, reads _ _ _ (apart_cons rfl), List.reverse_singleton,
    List.singleton_append, run_cons, comma, Option.bind_some, later _ _ _ apart,
    List.reverse_cons, List.append_assoc, List.singleton_append]

/-- An object without members is read as one. -/
theorem reads_object_nil : Reads ['\x7b', '\x7d'] (.object []) := by
  intro stack rest _ _
  rfl

/-- An object is read from its members between braces; blanks may stand before the last one. -/
theorem ReadsMembers.object {values : List (String × Json)} (reads : ReadsMembers text values)
    {blanks : List Char} (blank : Blank blanks) :
    Reads ('\x7b' :: (text ++ (blanks ++ ['\x7d']))) (.object values) := by
  intro stack rest _ apart
  have opening : step ⟨.value, stack⟩ '\x7b' = some ⟨.name, .object [] :: stack⟩ := rfl
  have waits (c : Char) (blank : isBlank c = true) :
      step ⟨.separator, .object values.reverse :: stack⟩ c =
        some ⟨.separator, .object values.reverse :: stack⟩ := if_pos blank
  have closing : step ⟨.separator, .object values.reverse :: stack⟩ '\x7d' =
      deliver (.object values.reverse.reverse) stack := rfl
  have after : Apart (blanks ++ '\x7d' :: rest) := (apart_cons rfl).blank blank
  simp only [List.cons_append, List.append_assoc, List.nil_append]
  rw [run_cons, opening, Option.bind_some, reads _ _ _ after, List.append_nil,
    run_blank waits blank, run_cons, closing, List.reverse_reverse]

/-- A comma is one character. -/
theorem toList_comma : ",".toList = [','] := rfl

/-- No blanks are blanks. -/
theorem blank_nil : Blank [] := List.forall_mem_nil _

mutual

/-- A value is read back from its compact text. -/
theorem reads_compact : ∀ value : Json, Reads value.compact.toList value
  | .null => reads_null
  | .number n => by
    rw [compact]
    exact reads_digits n
  | .string text => by
    rw [compact]
    exact reads_quote text
  | .array [] => reads_array_nil
  | .array (value :: rest) => by
    have elements := readsElements_compact (value :: rest) (List.cons_ne_nil value rest)
    rw [compact, String.toList_append, String.toList_append, List.append_assoc]
    exact elements.array blank_nil
  | .object [] => reads_object_nil
  | .object (entry :: rest) => by
    have members := readsMembers_compact (entry :: rest) (List.cons_ne_nil entry rest)
    rw [compact, String.toList_append, String.toList_append, List.append_assoc]
    exact members.object blank_nil

/-- Elements are read back from their compact texts. -/
theorem readsElements_compact :
    ∀ values : List Json, values ≠ [] → ReadsElements (compactElements values).toList values
  | [], filled => absurd rfl filled
  | [value], _ => by
    rw [compactElements]
    exact (reads_compact value).element
  | value :: next :: rest, _ => by
    have later := readsElements_compact (next :: rest) (List.cons_ne_nil next rest)
    rw [compactElements, String.toList_append, String.toList_append, toList_comma,
      List.append_assoc, List.singleton_append]
    · exact (reads_compact value).elements later
    · exact List.cons_ne_nil next rest

/-- Members are read back from their compact texts. -/
theorem readsMembers_compact :
    ∀ members : List (String × Json), members ≠ [] →
      ReadsMembers (compactMembers members).toList members
  | [], filled => absurd rfl filled
  | [(name, value)], _ => by
    rw [compactMembers, toList_compact_member]
    exact (reads_compact value).member name blank_nil
  | (name, value) :: next :: rest, _ => by
    have first := (reads_compact value).member name blank_nil
    have later := readsMembers_compact (next :: rest) (List.cons_ne_nil next rest)
    rw [compactMembers, String.toList_append, String.toList_append, toList_compact_member,
      toList_comma, List.append_assoc, List.singleton_append]
    · exact first.cons later
    · exact List.cons_ne_nil next rest

end

/-- A line is what leads to the member, and the member. -/
theorem line_eq (lead name colon text : String) :
    lead ++ quote name ++ colon ++ text = lead ++ (quote name ++ colon ++ text) := by
  rw [String.append_assoc, String.append_assoc, String.append_assoc]

/-- A line break and indentation are blanks. -/
theorem blank_newline (depth : Nat) : Blank (newline depth).toList := by
  intro c member
  rw [newline, String.toList_ofList] at member
  rcases List.mem_cons.mp member with rfl | indentation
  · rfl
  · rw [List.eq_of_mem_replicate indentation]
    rfl

/-- The blank after the colon of an indented member. -/
theorem blank_space : Blank [' '] := List.forall_mem_singleton.mpr rfl

mutual

/-- A value is read back from its indented text, at any depth. -/
theorem reads_indented : ∀ (depth : Nat) (value : Json), Reads (value.indented depth).toList value
  | _, .null => reads_null
  | depth, .number n => by
    rw [indented]
    exact reads_digits n
  | depth, .string text => by
    rw [indented]
    exact reads_quote text
  | _, .array [] => by
    rw [indented, List.isEmpty_nil, if_pos rfl]
    exact reads_array_nil
  | depth, .array (value :: rest) => by
    have elements :=
      readsElements_indented (depth + 1) (value :: rest) (List.cons_ne_nil value rest)
    rw [indented, List.isEmpty_cons, if_neg Bool.false_ne_true, String.toList_append,
      String.toList_append, String.toList_append, List.append_assoc, List.append_assoc]
    exact elements.array (blank_newline depth)
  | _, .object [] => by
    rw [indented, List.isEmpty_nil, if_pos rfl]
    exact reads_object_nil
  | depth, .object (entry :: rest) => by
    have members :=
      readsMembers_indented (depth + 1) (entry :: rest) (List.cons_ne_nil entry rest)
    rw [indented, List.isEmpty_cons, if_neg Bool.false_ne_true, String.toList_append,
      String.toList_append, String.toList_append, List.append_assoc, List.append_assoc]
    exact members.object (blank_newline depth)

/-- Elements are read back from their indented texts, each on a line of its own. -/
theorem readsElements_indented :
    ∀ (depth : Nat) (values : List Json), values ≠ [] →
      ReadsElements (indentedElements depth values).toList values
  | _, [], filled => absurd rfl filled
  | depth, [value], _ => by
    rw [indentedElements, String.toList_append]
    exact ((reads_indented depth value).blank (blank_newline depth)).element
  | depth, value :: next :: rest, _ => by
    have first := (reads_indented depth value).blank (blank_newline depth)
    have later := readsElements_indented depth (next :: rest) (List.cons_ne_nil next rest)
    rw [indentedElements, String.toList_append, String.toList_append, String.toList_append,
      toList_comma, List.append_assoc, List.singleton_append]
    · exact first.elements later
    · exact List.cons_ne_nil next rest

/-- Members are read back from their indented texts, each on a line of its own. -/
theorem readsMembers_indented :
    ∀ (depth : Nat) (members : List (String × Json)), members ≠ [] →
      ReadsMembers (indentedMembers depth members).toList members
  | _, [], filled => absurd rfl filled
  | depth, [(name, value)], _ => by
    have first := ((reads_indented depth value).member name blank_space).blank
      (blank_newline depth)
    rw [indentedMembers, line_eq, String.toList_append, toList_indented_member]
    exact first
  | depth, (name, value) :: next :: rest, _ => by
    have first := ((reads_indented depth value).member name blank_space).blank
      (blank_newline depth)
    have later := readsMembers_indented depth (next :: rest) (List.cons_ne_nil next rest)
    rw [indentedMembers, line_eq, String.toList_append, String.toList_append, String.toList_append,
      toList_indented_member, toList_comma, List.append_assoc, List.singleton_append]
    · exact first.cons later
    · exact List.cons_ne_nil next rest

end

/-- Every value is read back from its text, indented or compact. -/
theorem read_render (indent : Bool) (value : Json) : read (value.render indent) = some value := by
  have reads : Reads (value.render indent).toList value := by
    cases indent with
    | true => exact reads_indented 0 value
    | false => exact reads_compact value
  have whole := reads [] [] trivial apart_nil
  rw [List.append_nil] at whole
  rw [read, whole]
  rfl

/-- The text holds no control character. -/
def Printable (text : String) : Prop := ∀ c ∈ text.toList, 0x20 ≤ c.toNat

/-- Texts without control characters are so one after the other. -/
theorem Printable.append {first second : String} (printable : Printable first)
    (printable' : Printable second) : Printable (first ++ second) := by
  intro c member
  rw [String.toList_append] at member
  exact (List.mem_append.mp member).elim (printable c) (printable' c)

/-- Whether a text holds a control character can be decided. -/
instance (text : String) : Decidable (Printable text) :=
  decidable_of_iff (text.toList.all fun c => 0x20 ≤ c.toNat) (by simp [Printable])

/-- A character is escaped without control characters. -/
theorem le_of_mem_escapeChar (c : Char) : ∀ x ∈ escapeChar c, 0x20 ≤ x.toNat := by
  have digit : ∀ n < 16, 0x20 ≤ (Hex.digit .lower n).toNat := by decide
  rcases escapeChar_cases c with ⟨letter, escaped, -, -, plain⟩ | ⟨control, escaped⟩ |
    ⟨solid, -, -, escaped⟩
  · rw [escaped]
    exact List.forall_mem_cons.mpr ⟨by decide, List.forall_mem_singleton.mpr plain⟩
  · rw [escaped, number_control control]
    simp only [List.forall_mem_cons, List.not_mem_nil, false_implies, implies_true, and_true]
    exact ⟨by decide, by decide, by decide, by decide, digit _ (by omega), digit _ (by omega)⟩
  · rw [escaped]
    exact List.forall_mem_singleton.mpr solid

/-- A text between quotes holds no control character, whatever the text is. -/
theorem printable_quote (text : String) : Printable (quote text) := by
  intro c member
  rw [toList_quote] at member
  rcases List.mem_cons.mp member with rfl | member
  · decide
  rcases List.mem_append.mp member with inner | last
  · obtain ⟨x, -, escaped⟩ := List.mem_flatMap.mp inner
    exact le_of_mem_escapeChar x c escaped
  · rw [List.mem_singleton.mp last]
    decide

/-- Digits are no control characters. -/
theorem printable_digits (n : Nat) : Printable (digits n) := by
  intro c member
  rw [digits, String.toList_ofList] at member
  have digit := Nat.isDigit_of_mem_toDigits (by decide) (by decide) member
  simp only [Char.isDigit, Bool.and_eq_true, decide_eq_true_eq] at digit
  have low : '0'.toNat ≤ c.toNat := digit.1
  exact Nat.le_trans (by decide) low

mutual

/-- A compact text holds no control character. -/
theorem compact_printable : ∀ value : Json, Printable value.compact
  | .null => by
    rw [compact]
    decide
  | .number n => by
    rw [compact]
    exact printable_digits n
  | .string text => by
    rw [compact]
    exact printable_quote text
  | .array elements => by
    rw [compact]
    exact (Printable.append (by decide) (compactElements_printable elements)).append (by decide)
  | .object members => by
    rw [compact]
    exact (Printable.append (by decide) (compactMembers_printable members)).append (by decide)

/-- Compact elements hold no control character. -/
theorem compactElements_printable : ∀ values : List Json, Printable (compactElements values)
  | [] => by
    rw [compactElements]
    decide
  | [value] => by
    rw [compactElements]
    exact compact_printable value
  | value :: next :: rest => by
    have later := compactElements_printable (next :: rest)
    rw [compactElements]
    · exact ((compact_printable value).append (by decide)).append later
    · exact List.cons_ne_nil next rest

/-- Compact members hold no control character. -/
theorem compactMembers_printable :
    ∀ members : List (String × Json), Printable (compactMembers members)
  | [] => by
    rw [compactMembers]
    decide
  | [(name, value)] => by
    rw [compactMembers]
    exact ((printable_quote name).append (by decide)).append (compact_printable value)
  | (name, value) :: next :: rest => by
    have first : Printable (quote name ++ ":" ++ compact value) :=
      ((printable_quote name).append (by decide)).append (compact_printable value)
    have later := compactMembers_printable (next :: rest)
    rw [compactMembers]
    · exact (first.append (by decide)).append later
    · exact List.cons_ne_nil next rest

end

end EventLog.Json
