import Pipa.Library.JsNumber
import Pipa.Library.SqlInserts
import Pipa.Proofs.TableExportTargets

/-! What a server reads in an exported INSERT: one statement with the included columns and
a tuple for each row, whose operands denote the cells. -/

namespace Pipa.ResultExport
open SqlLexer SqlBoolean SqlWriting SqlInserts Regex Text TableExport

/-- The server's default mode: backslashes escape, and numbers may begin with their point. -/
def defaultRules : Rules := ⟨true, true⟩

/-! ### Numbers -/

/-- A number literal that is written with exactly this text. -/
structure Spelled (text : String) (literal : Literal) : Prop where
  proper : ProperLiteral literal
  text : literalText literal = units text
  number : ∃ sign digits, literal = .number sign digits

theorem spelled_digits {text : String} {sign : Option Nat} {digits : List Nat} (minus : ∀ unit ∈ sign, unit = 45)
    (isNumeral : IsNumeral digits) (whole : units text = sign.toList ++ digits) : Spelled text (.number sign digits) :=
  ⟨.number (fun unit member => .inr (minus unit member)) isNumeral, whole.symm, sign, digits, rfl⟩

theorem digits_run {word : List Char} (digits : ∀ c ∈ word, c.isDigit = true) :
    ∀ unit ∈ word.map Char.toNat, isDigit unit = true := by
  intro unit member
  obtain ⟨c, inside, rfl⟩ := List.mem_map.mp member
  exact digit_units (digits c inside)

/-- The text of a numeric column is a number with an optional minus. -/
theorem numericText_spelled {text : String} (matched : numericText.isMatch text.toList = true) : ∃ literal, Spelled text literal := by
  obtain ⟨front, behind, signed, number, whole⟩ := spells_seq.mp (isMatch_anchored matched)
  have isNumeral : IsNumeral (behind.map Char.toNat) := by
    obtain integer | pointed := spells_alt.mp number
    · obtain ⟨nonempty, digits⟩ := spells_plus.mp integer
      have shape := IsNumeral.intro (behind.map Char.toNat) [] [] (digits_run digits) (.inl rfl)
        (.inl (mt List.map_eq_nil_iff.mp nonempty)) (.inl rfl)
      simpa using shape
    · obtain ⟨integer, _, before, behindInteger, rfl⟩ := spells_seq.mp pointed
      obtain ⟨point, _, mark, behindPoint, rfl⟩ := spells_seq.mp behindInteger
      obtain ⟨fraction, nothing, after, ended, rfl⟩ := spells_seq.mp behindPoint
      obtain ⟨c, isPoint, rfl⟩ := spells_char.mp mark
      obtain rfl := spells_empty.mp ended
      obtain rfl : c = '.' := by simpa using isPoint
      obtain ⟨nonempty, digits⟩ := spells_plus.mp after
      obtain ⟨digit, fraction, rfl⟩ := List.exists_cons_of_ne_nil nonempty
      have shape := IsNumeral.intro (integer.map Char.toNat) (46 :: (digit :: fraction).map Char.toNat) []
        (digits_run (spells_star.mp before)) (.inr ⟨_, rfl, digits_run digits⟩)
        (.inr (digits_run digits digit.toNat (by simp))) (.inl rfl)
      simpa using shape
  obtain minus | unsigned := spells_optional.mp signed
  · obtain ⟨c, isMinus, rfl⟩ := spells_char.mp minus
    obtain rfl : c = '-' := by simpa using isMinus
    refine ⟨.number (some 45) (behind.map Char.toNat), spelled_digits (by simp) isNumeral ?_⟩
    rw [units, whole]
    rfl
  · refine ⟨.number none (behind.map Char.toNat), spelled_digits (by simp) isNumeral ?_⟩
    rw [units, whole, unsigned]
    rfl

/-! ### Points in time -/

/-- `dddd-dd-dd` -/
def isDateText : List Char → Bool
  | [a, b, c, d, '-', e, f, '-', g, h] => [a, b, c, d, e, f, g, h].all Char.isDigit
  | _ => false

/-- `dd:dd:dd` -/
def isClockText : List Char → Bool
  | [a, b, ':', c, d, ':', e, f] => [a, b, c, d, e, f].all Char.isDigit
  | _ => false

/-- The date and the time of a text, which a blank or the letter T separates. -/
def moment (text : List Char) : Option (List Char × List Char) :=
  if isDateText (text.take 10) ∧ (text[10]? = some ' ' ∨ text[10]? = some 'T') ∧ isClockText ((text.drop 11).take 8) then
    some (text.take 10, text.drop 11)
  else none

theorem isDateText_shape {word : List Char} (spells : Spells (shape dateShape) word) :
    isDateText word = true ∧ word.length = 10 := by
  have passes := spells_chars.mp spells
  simp only [dateShape, digitsShape, List.replicate, List.cons_append, List.nil_append, List.forall₂_cons_left_iff,
    List.forall₂_nil_left_iff, beq_iff_eq] at passes
  obtain ⟨a, _, first, ⟨b, _, second, ⟨c, _, third, ⟨d, _, fourth, ⟨_, _, rfl, ⟨e, _, fifth, ⟨f, _, sixth, ⟨_, _, rfl,
    ⟨g, _, seventh, ⟨h, _, eighth, rfl, rfl⟩, rfl⟩, rfl⟩, rfl⟩, rfl⟩, rfl⟩, rfl⟩, rfl⟩, rfl⟩, rfl⟩ := passes
  simp [isDateText, first, second, third, fourth, fifth, sixth, seventh, eighth]

theorem isClockText_shape {word : List Char} (spells : Spells (shape (digitsShape 2 ++ minutesShape)) word) :
    isClockText word = true ∧ word.length = 8 := by
  have passes := spells_chars.mp spells
  simp only [minutesShape, digitsShape, List.replicate, List.cons_append, List.nil_append, List.forall₂_cons_left_iff,
    List.forall₂_nil_left_iff, beq_iff_eq] at passes
  obtain ⟨a, _, first, ⟨b, _, second, ⟨_, _, rfl, ⟨c, _, third, ⟨d, _, fourth, ⟨_, _, rfl, ⟨e, _, fifth,
    ⟨f, _, sixth, rfl, rfl⟩, rfl⟩, rfl⟩, rfl⟩, rfl⟩, rfl⟩, rfl⟩, rfl⟩ := passes
  simp [isClockText, first, second, third, fourth, fifth, sixth]

/-- A blank instead of the letter T leaves the point in time. -/
theorem moment_normalized {value : String} (matched : separatedTemporal.isMatch value.toList = true) :
    ∃ point, moment value.toList = some point ∧ moment (normalizedTemporal value).toList = some point := by
  obtain ⟨word, rest, whole, spells⟩ := isMatch_start_spells matched
  obtain ⟨date, _, dated, separated, rfl⟩ := spells_seq.mp spells
  obtain ⟨letter, _, marked, timed, rfl⟩ := spells_seq.mp separated
  obtain ⟨clock, _, clocked, ended, rfl⟩ := spells_seq.mp timed
  obtain ⟨c, isLetter, rfl⟩ := spells_char.mp marked
  obtain rfl : c = 'T' := by simpa using isLetter
  obtain rfl := spells_empty.mp ended
  obtain ⟨isDate, size⟩ := isDateText_shape dated
  obtain ⟨isClock, size'⟩ := isClockText_shape clocked
  have read (separator : Char) (either : separator = ' ' ∨ separator = 'T') :
      moment (date ++ separator :: (clock ++ rest)) = some (date, clock ++ rest) := by
    have front : (date ++ separator :: (clock ++ rest)).take 10 = date := by
      rw [← size, List.take_left]
    have middle : (date ++ separator :: (clock ++ rest))[10]? = some separator := by
      rw [List.getElem?_append_right (by omega), size]
      rfl
    have behind : (date ++ separator :: (clock ++ rest)).drop 11 = clock ++ rest := by
      rw [← List.singleton_append, ← List.append_assoc]
      exact List.drop_left' (by simp [size])
    have time : (clock ++ rest).take 8 = clock := by
      rw [← size', List.take_left]
    rw [moment, front, middle, behind, time, if_pos ⟨isDate, either.imp (congrArg some) (congrArg some), isClock⟩]
  have text : value.toList = date ++ 'T' :: (clock ++ rest) := by
    rw [whole]
    simp
  have changed : (normalizedTemporal value).toList = date ++ ' ' :: (clock ++ rest) := by
    rw [normalizedTemporal, if_pos matched, String.toList_ofList, text]
    congr 1
    · rw [← size, List.take_left]
    · refine congrArg (' ' :: ·) ?_
      rw [← List.singleton_append, ← List.append_assoc]
      exact List.drop_left' (by simp [size])
  refine ⟨(date, clock ++ rest), ?_, ?_⟩
  · rw [text]
    exact read 'T' (.inr rfl)
  · rw [changed]
    exact read ' ' (.inl rfl)

theorem normalizedTemporal_other {value : String} (other : ¬separatedTemporal.isMatch value.toList = true) :
    normalizedTemporal value = value := if_neg other

/-- Neither a quote nor a backslash. -/
def Harmless (c : Char) : Prop := c ≠ '\'' ∧ c ≠ '\\'

theorem within_shape {tests : List (Char → Bool)}
    (inside : ∀ test ∈ tests, test = Char.isDigit ∨ ∃ mark, Harmless mark ∧ test = (· == mark)) : (shape tests).Within Harmless := by
  refine within_all fun part member => ?_
  obtain ⟨test, listed, rfl⟩ := List.mem_map.mp member
  intro c passes
  obtain rfl | ⟨mark, harmless, rfl⟩ := inside test listed
  · constructor
    · rintro rfl
      cases passes
    · rintro rfl
      cases passes
  · rw [beq_iff_eq.mp passes]
    exact harmless

theorem within_mark {mark : Char} (harmless : Harmless mark) : (ColumnPatterns.symbol mark).Within Harmless := by
  intro c passes
  rw [beq_iff_eq.mp passes]
  exact harmless

theorem digits_shaped {count : Nat} {test : Char → Bool} (member : test ∈ digitsShape count) :
    test = Char.isDigit ∨ ∃ mark, Harmless mark ∧ test = (· == mark) := .inl (List.eq_of_mem_replicate member)

theorem minutes_shaped {test : Char → Bool} (member : test ∈ minutesShape) :
    test = Char.isDigit ∨ ∃ mark, Harmless mark ∧ test = (· == mark) := by
  have colon : Harmless ':' := ⟨by decide, by decide⟩
  simp only [minutesShape, digitsShape, List.replicate, List.cons_append, List.nil_append, List.mem_cons, List.not_mem_nil,
    or_false] at member
  rcases member with rfl | rfl | rfl | rfl | rfl | rfl
  · exact .inr ⟨':', colon, rfl⟩
  · exact .inl rfl
  · exact .inl rfl
  · exact .inr ⟨':', colon, rfl⟩
  · exact .inl rfl
  · exact .inl rfl

theorem date_shaped {test : Char → Bool} (member : test ∈ dateShape) :
    test = Char.isDigit ∨ ∃ mark, Harmless mark ∧ test = (· == mark) := by
  have dash : Harmless '-' := ⟨by decide, by decide⟩
  obtain front | back := List.mem_append.mp member
  · obtain early | late := List.mem_append.mp front
    · exact digits_shaped early
    · obtain rfl | digits := List.mem_cons.mp late
      · exact .inr ⟨'-', dash, rfl⟩
      · exact digits_shaped digits
  · obtain rfl | digits := List.mem_cons.mp back
    · exact .inr ⟨'-', dash, rfl⟩
    · exact digits_shaped digits

theorem within_fraction : secondFraction.Within Harmless := by
  refine ⟨within_any fun part member => ?_, trivial⟩
  obtain ⟨count, -, rfl⟩ := List.mem_map.mp member
  refine within_shape fun test listed => ?_
  obtain rfl | digits := List.mem_cons.mp listed
  · exact .inr ⟨'.', ⟨by decide, by decide⟩, rfl⟩
  · exact digits_shaped digits

theorem within_dateText : dateText.Within Harmless := by
  have clock : ∀ test ∈ digitsShape 2 ++ minutesShape, test = Char.isDigit ∨ ∃ mark, Harmless mark ∧ test = (· == mark) :=
    fun test member => (List.mem_append.mp member).elim digits_shaped minutes_shaped
  exact ⟨within_shape fun test => date_shaped, ⟨within_mark ⟨by decide, by decide⟩, within_shape clock, within_fraction, trivial⟩,
    trivial⟩

theorem within_timeText : timeText.Within Harmless := by
  refine ⟨⟨within_mark ⟨by decide, by decide⟩, trivial⟩, within_any fun part member => ?_, within_shape fun test => minutes_shaped,
    within_fraction, trivial⟩
  obtain ⟨count, -, rfl⟩ := List.mem_map.mp member
  exact within_shape fun test => digits_shaped

/-- A temporal text that passes as valid needs no escapes. -/
theorem validTemporal_harmless {text : List Char} (matched : validTemporalValue.isMatch text = true) : ∀ c ∈ text, Harmless c :=
  (isMatch_anchored matched).within ⟨within_dateText, within_timeText⟩

theorem doubled_harmless {text : List Char} (harmless : ∀ c ∈ text, Harmless c) :
    doubled true 39 (text.map Char.toNat) = text.map Char.toNat := by
  induction text with
  | nil => rfl
  | cons c text ih =>
    obtain ⟨⟨quote, backslash⟩, harmless⟩ := List.forall_mem_cons.mp harmless
    have quote' : c.toNat ≠ 39 := fun same => quote (Char.toNat_inj.mp same)
    have backslash' : c.toNat ≠ 92 := fun same => backslash (Char.toNat_inj.mp same)
    have step : doubled true 39 (c.toNat :: text.map Char.toNat) = c.toNat :: doubled true 39 (text.map Char.toNat) := by
      simp [doubled, quote', backslash']
    rw [List.map_cons, step, ih harmless]

/-- A temporal literal holds the same point in time, or the same text. -/
theorem mysqlTemporalLiteral_units (value : String) : ∃ content, units (mysqlTemporalLiteral value) = stringText (units content) ∧
    (content = value ∨ ∃ point, moment value.toList = some point ∧ moment content.toList = some point) := by
  rw [mysqlTemporalLiteral]
  split
  next valid =>
    refine ⟨normalizedTemporal value, ?_, ?_⟩
    · rw [units_append, units_append, stringText, units, units, doubled_harmless (validTemporal_harmless valid)]
      rfl
    · by_cases separated : separatedTemporal.isMatch value.toList = true
      · exact .inr (moment_normalized separated)
      · exact .inl (normalizedTemporal_other separated)
  next => exact ⟨value, mysqlStringLiteral_units value, .inl rfl⟩

/-! ### Cells -/

section Cells
variable (floatText : UInt64 → String) (toLowerCase : String → String)

/-- The text of a double is a number that is read as this double. -/
structure Numeral (bits : UInt64) : Prop where
  finite : isFiniteBits bits = true
  spelled : ∃ literal, Spelled (floatText bits) literal
  read : JsNumber.number (floatText bits).toList = some (JsNumber.ofBits bits)

/-- Cells as the adapters produce them. -/
inductive Produced : CellValue → Prop where
  | null : Produced .null
  | boolean (value : Bool) : Produced (.boolean value)
  | integer {value : String} {literal : Literal} (spelled : Spelled value literal) : Produced (.integer value)
  | decimal {value : String} {literal : Literal} (spelled : Spelled value literal) : Produced (.decimal value)
  | float {bits : UInt64} (numeral : Numeral floatText bits) : Produced (.float bits)
  | json (value : String) : Produced (.json value)
  | binary (content : List UInt8) : Produced (.binary (String.ofList (Base64.encode content)))
  | dateTime (value : String) : Produced (.dateTime value)
  | text (value : String) : Produced (.text value)

/-- What an operand says about a cell of a column with this type. -/
inductive Denotes (databaseType : String) : Option CellValue → Operand → Prop where
  | missing : Denotes databaseType none .null
  | null : Denotes databaseType (some .null) .null
  | boolean (value : Bool) : Denotes databaseType (some (.boolean value)) (.literal (.number none [if value then 49 else 48]))
  | integer {value : String} {literal : Literal} (spelled : Spelled value literal) :
      Denotes databaseType (some (.integer value)) (.literal literal)
  | decimal {value : String} {literal : Literal} (spelled : Spelled value literal) :
      Denotes databaseType (some (.decimal value)) (.literal literal)
  | float {bits : UInt64} {literal : Literal} (numeral : Numeral floatText bits) (spelled : Spelled (floatText bits) literal) :
      Denotes databaseType (some (.float bits)) (.literal literal)
  | floatText {bits : UInt64} (numeral : Numeral floatText bits) :
      Denotes databaseType (some (.float bits)) (.literal (.string (units (floatText bits))))
  | json (value : String) : Denotes databaseType (some (.json value)) (.literal (.string (units value)))
  | binary (content : List UInt8) :
      Denotes databaseType (some (.binary (String.ofList (Base64.encode content)))) (.bytes content)
  | dateTime {value content : String}
      (same : content = value ∨ ∃ point, moment value.toList = some point ∧ moment content.toList = some point) :
      Denotes databaseType (some (.dateTime value)) (.literal (.string (units content)))
  | text (value : String) : Denotes databaseType (some (.text value)) (.literal (.string (units value)))
  | numericText {value : String} {literal : Literal} (numeric : startsWithAny numericTypeNames (toLowerCase databaseType) = true)
      (spelled : Spelled (jsTrim value) literal) : Denotes databaseType (some (.text value)) (.literal literal)

/-- A text that is read as one operand. -/
def ReadsOperand (text : List Nat) (operand : Operand) : Prop :=
  ∃ read, ReadsBefore defaultRules isDelimiter text read ∧ Gives SqlInserts.operand read operand

theorem readsOperand_literal {literal : Literal} (proper : ProperLiteral literal) :
    ReadsOperand (literalText literal) (.literal literal) := by
  have reads := @reads_solid defaultRules rfl (.literal literal) proper rfl
  exact ⟨literalTokens literal, reads.before, gives_literal proper⟩

theorem readsOperand_spelled {text : String} {literal : Literal} (spelled : Spelled text literal) :
    ReadsOperand (units text) (.literal literal) := by
  rw [← spelled.text]
  exact readsOperand_literal spelled.proper

theorem readsOperand_string (value : String) :
    ReadsOperand (units (mysqlStringLiteral value)) (.literal (.string (units value))) := by
  rw [mysqlStringLiteral_units]
  exact readsOperand_literal (.string (units value))

theorem wordEnd_of_delimiter {unit : Nat} (delimits : isDelimiter unit = true) : isWordEnd unit = true := by
  simp only [isDelimiter, Bool.or_eq_true, beq_iff_eq] at delimits
  rcases delimits with (rfl | rfl) | rfl
  all_goals rfl

theorem readsOperand_null : ReadsOperand (units "NULL") .null :=
  ⟨_, (readsBefore_keyword (by decide)).mono fun _ => wordEnd_of_delimiter, gives_null⟩

theorem readsOperand_bytes (content : List UInt8) :
    ReadsOperand (units ("FROM_BASE64(" ++ mysqlStringLiteral (String.ofList (Base64.encode content)) ++ ")")) (.bytes content) := by
  have characters : units (String.ofList (Base64.encode content)) = (Base64.encode content).map Char.toNat := by
    rw [units, String.toList_ofList]
  have shape : units ("FROM_BASE64(" ++ mysqlStringLiteral (String.ofList (Base64.encode content)) ++ ")") =
      units "FROM_BASE64" ++ ([40] ++ (stringText ((Base64.encode content).map Char.toNat) ++ [41])) := by
    rw [units_append, units_append, mysqlStringLiteral_units, characters, List.append_assoc]
    rfl
  have closing := (@readsBefore_string defaultRules ((Base64.encode content).map Char.toNat)).append
    (@readsBefore_symbol defaultRules 41 (by simp)) fun rest _ => meets_cons rfl rest
  have opening := (@readsBefore_symbol defaultRules 40 (by simp)).append closing fun _ _ _ _ => rfl
  have call := (@readsBefore_keyword defaultRules "FROM_BASE64" (by decide)).append opening fun rest _ => meets_cons rfl _
  rw [shape]
  exact ⟨_, call.mono fun _ _ => rfl, gives_bytes content⟩

/-- The literal of a cell is read as an operand that stands for it. -/
theorem cellValueToSqlLiteral_denotes {cell : Option CellValue} (produced : ∀ value ∈ cell, Produced floatText value)
    (databaseType : String) : ∃ operand,
      ReadsOperand (units (cellValueToSqlLiteral floatText toLowerCase cell databaseType)) operand ∧
        Denotes floatText toLowerCase databaseType cell operand := by
  cases cell with
  | none => exact ⟨.null, readsOperand_null, .missing⟩
  | some value =>
    cases produced value rfl with
    | null => exact ⟨.null, readsOperand_null, .null⟩
    | boolean value =>
      have proper (digit : Nat) (isDigit : isDigit digit = true) : ProperLiteral (.number none [digit]) := by
        refine .number (by simp) ?_
        simpa using IsNumeral.intro [digit] [] [] (by simpa using isDigit) (.inl rfl) (.inl (List.cons_ne_nil _ _)) (.inl rfl)
      refine ⟨_, ?_, .boolean value⟩
      rw [cellValueToSqlLiteral]
      cases value with
      | true => exact readsOperand_literal (proper 49 rfl)
      | false => exact readsOperand_literal (proper 48 rfl)
    | integer spelled => exact ⟨_, readsOperand_spelled spelled, .integer spelled⟩
    | decimal spelled => exact ⟨_, readsOperand_spelled spelled, .decimal spelled⟩
    | @float bits numeral =>
      rw [cellValueToSqlLiteral]
      split
      · obtain ⟨literal, spelled⟩ := numeral.spelled
        exact ⟨_, readsOperand_spelled spelled, .float numeral spelled⟩
      · exact ⟨_, readsOperand_string (floatText bits), .floatText numeral⟩
    | json value => exact ⟨_, readsOperand_string value, .json value⟩
    | binary content => exact ⟨_, readsOperand_bytes content, .binary content⟩
    | dateTime value =>
      obtain ⟨content, written, same⟩ := mysqlTemporalLiteral_units value
      refine ⟨.literal (.string (units content)), ?_, .dateTime same⟩
      rw [cellValueToSqlLiteral, written]
      exact readsOperand_literal (.string (units content))
    | text value =>
      rw [cellValueToSqlLiteral]
      split
      next numeric =>
        obtain ⟨literal, spelled⟩ := numericText_spelled numeric.2
        exact ⟨_, readsOperand_spelled spelled, .numericText numeric.1 spelled⟩
      next => exact ⟨_, readsOperand_string value, .text value⟩

end Cells

/-! ### Statements -/

section Statements
variable (floatText : UInt64 → String) (toLowerCase : String → String)

/-- Items between parentheses, with commas and blanks between them. -/
theorem tuple_reads {texts : List String} {reads : List (List Token)}
    (each : List.Forall₂ (fun text read => ReadsBefore defaultRules isDelimiter (units text) read) texts reads)
    (nonempty : texts ≠ []) : ReadsBefore defaultRules anything (units ("(" ++ ", ".intercalate texts ++ ")")) (tupleTokens reads) := by
  have comma : ReadsBefore defaultRules anything [44, 32] [.symbol 44] :=
    (readsBefore_symbol (by simp)).append readsBefore_blank fun _ _ _ _ => rfl
  have listed : List.Forall₂ (fun text read => ReadsBefore defaultRules isDelimiter text read ∧ ∀ rest, Meets anything (text ++ rest))
      (texts.map units) reads := by
    rw [List.forall₂_map_left_iff]
    exact each.imp fun _ _ reads => ⟨reads, fun _ _ _ => rfl⟩
  have inside := readsBefore_intercalate comma (fun rest => meets_cons rfl _) listed (mt List.map_eq_nil_iff.mp nonempty)
  have closing := inside.append (@readsBefore_symbol defaultRules 41 (by simp)) fun rest _ => meets_cons rfl rest
  have opening := (@readsBefore_symbol defaultRules 40 (by simp)).append closing fun _ _ _ _ => rfl
  have shape : units ("(" ++ ", ".intercalate texts ++ ")") = [40] ++ ([44, 32].intercalate (texts.map units) ++ [41]) := by
    rw [units_append, units_append, units_join, List.append_assoc]
    rfl
  rw [shape]
  exact opening

/-- The token of a quoted name. -/
def nameTokens (name : String) : List Token := [.quoted (columnText (units name))]

theorem name_reads (name : String) :
    ReadsBefore defaultRules (fun unit => unit != 96) (units (quoteIdentifier name)) (nameTokens name) := by
  rw [quoteIdentifier_units]
  exact readsBefore_quoted (units name)

theorem path_reads {names : List String} (nonempty : names ≠ []) :
    ReadsBefore defaultRules (fun unit => unit != 96) (units (".".intercalate (names.map quoteIdentifier)))
      ([.symbol 46].intercalate (names.map nameTokens)) := by
  have listed : List.Forall₂ (fun text read => ReadsBefore defaultRules (fun unit => unit != 96) text read ∧
      ∀ rest, Meets (fun unit => !isDigit unit) (text ++ rest)) ((names.map quoteIdentifier).map units) (names.map nameTokens) := by
    rw [List.map_map, List.forall₂_map_left_iff, List.forall₂_map_right_iff, List.forall₂_same]
    intro name _
    refine ⟨name_reads name, fun rest => ?_⟩
    rw [Function.comp_apply, quoteIdentifier_units]
    exact meets_cons rfl _
  rw [units_join]
  exact readsBefore_intercalate readsBefore_point (fun rest => meets_cons rfl _) listed
    (mt List.map_eq_nil_iff.mp (mt List.map_eq_nil_iff.mp nonempty))

/-- The tuples of a statement, with commas and line breaks between them. -/
theorem tuples_reads {texts : List String} {reads : List (List (List Token))}
    (each : List.Forall₂ (fun text read => ReadsBefore defaultRules anything (units text) (tupleTokens read)) texts reads)
    (nonempty : texts ≠ []) : ReadsBefore defaultRules anything (units (",\n".intercalate texts))
      ([.symbol 44].intercalate (reads.map tupleTokens)) := by
  have comma : ReadsBefore defaultRules anything [44, 10] [.symbol 44] :=
    (readsBefore_symbol (by simp)).append (readsBefore_space rfl) fun _ _ _ _ => rfl
  have listed : List.Forall₂ (fun text read => ReadsBefore defaultRules anything text read ∧ ∀ rest, Meets anything (text ++ rest))
      (texts.map units) (reads.map tupleTokens) := by
    rw [List.forall₂_map_left_iff, List.forall₂_map_right_iff]
    exact each.imp fun _ _ reads => ⟨reads, fun _ _ _ => rfl⟩
  rw [units_join]
  exact readsBefore_intercalate comma (fun _ _ _ => rfl) listed (mt List.map_eq_nil_iff.mp nonempty)

/-- The parts of a statement are read one after another. -/
theorem statement_reads {names columns tuples : List String} {reads : List (List (List Token))} {gap : Nat}
    (isSpace : isSpace gap = true) (between : String) (isGap : units between = [gap])
    (each : List.Forall₂ (fun text read => ReadsBefore defaultRules anything (units text) (tupleTokens read)) tuples reads)
    (names_ne : names ≠ []) (columns_ne : columns ≠ []) (tuples_ne : tuples ≠ []) :
    tokens defaultRules (units ("INSERT INTO " ++ ".".intercalate (names.map quoteIdentifier) ++ " (" ++
        ", ".intercalate (columns.map quoteIdentifier) ++ ") VALUES" ++ between ++ ",\n".intercalate tuples ++ ";")) =
      some (statementTokens (names.map nameTokens) (columns.map nameTokens) reads) := by
  have listed : List.Forall₂ (fun text read => ReadsBefore defaultRules isDelimiter (units text) read) (columns.map quoteIdentifier)
      (columns.map nameTokens) := by
    rw [List.forall₂_map_left_iff, List.forall₂_map_right_iff, List.forall₂_same]
    intro name _
    refine (name_reads name).mono fun unit delimits => ?_
    simp only [isDelimiter, Bool.or_eq_true, beq_iff_eq] at delimits
    rcases delimits with (rfl | rfl) | rfl
    all_goals rfl
  have ending := (tuples_reads each tuples_ne).append (@readsBefore_symbol defaultRules 59 (by simp)) fun _ _ _ _ => rfl
  have gapped := (readsBefore_space isSpace).append ending fun _ _ _ _ => rfl
  have valued := (@readsBefore_keyword defaultRules "VALUES" (by decide)).append gapped fun rest _ => by
    refine meets_cons ?_ _
    have space := isSpace
    simp only [SqlLexer.isSpace, Bool.or_eq_true, Bool.and_eq_true, beq_iff_eq, decide_eq_true_eq] at space
    have free : isIdentifier gap = false := by
      simp only [isIdentifier, isLetter, isDigit, Bool.or_eq_false_iff, Bool.and_eq_false_iff, beq_eq_false_iff_ne,
        decide_eq_false_iff_not]
      omega
    simp [isWordEnd, free]
  have named := (tuple_reads listed (mt List.map_eq_nil_iff.mp columns_ne)).spaced rfl valued
  have aimed := (path_reads names_ne).spaced rfl named
  have into := (@readsBefore_keyword defaultRules "INTO" (by decide)).spaced rfl aimed
  have inserted := (@readsBefore_keyword defaultRules "INSERT" (by decide)).spaced rfl into
  have read := inserted.whole
  have shape : units ("INSERT INTO " ++ ".".intercalate (names.map quoteIdentifier) ++ " (" ++
      ", ".intercalate (columns.map quoteIdentifier) ++ ") VALUES" ++ between ++ ",\n".intercalate tuples ++ ";") =
      units "INSERT" ++ 32 :: (units "INTO" ++ 32 :: (units (".".intercalate (names.map quoteIdentifier)) ++
        32 :: (units ("(" ++ ", ".intercalate (columns.map quoteIdentifier) ++ ")") ++ 32 :: (units "VALUES" ++
          ([gap] ++ (units (",\n".intercalate tuples) ++ [59])))))) := by
    simp only [units_append, isGap, List.append_assoc, List.cons_append, List.nil_append]
    rfl
  rw [shape, read]
  rfl

section Rows
variable (columns : List QueryColumn) (rows : List (List CellValue)) (tableName : String) (includePrimaryKey : Bool)
  (rowIndexes : Option (List Nat))

/-- A single tuple stands on the line of its keyword, several on lines of their own. -/
theorem serializeRowsAsInsert_eq (named : insertedColumns toLowerCase columns includePrimaryKey ≠ [])
    (present : rowIndexes.getD (List.range rows.length) ≠ []) : ∃ between gap, units between = [gap] ∧ isSpace gap = true ∧
      serializeRowsAsInsert floatText toLowerCase columns rows tableName includePrimaryKey rowIndexes =
        "INSERT INTO " ++ ".".intercalate ((targetNames tableName).map quoteIdentifier) ++ " (" ++ ", ".intercalate
          (((insertedColumns toLowerCase columns includePrimaryKey).map (columnName columns)).map quoteIdentifier) ++ ") VALUES" ++
          between ++ ",\n".intercalate ((rowIndexes.getD (List.range rows.length)).map
            (valueTuple floatText toLowerCase columns rows (insertedColumns toLowerCase columns includePrimaryKey))) ++ ";" := by
  rw [serializeRowsAsInsert]
  simp only [named, present, if_false, formatInsertTableTarget_eq]
  split
  next single =>
    obtain ⟨tuple, alone⟩ := List.length_eq_one_iff.mp single
    refine ⟨" ", 32, rfl, rfl, ?_⟩
    rw [alone, String.intercalate_singleton, List.headD_cons, List.map_map]
    simp only [String.append_assoc]
    rfl
  next =>
    refine ⟨"\n", 10, rfl, rfl, ?_⟩
    rw [List.map_map]
    simp only [String.append_assoc]
    rfl

theorem cellAt_produced (produced : ∀ row ∈ rows, ∀ cell ∈ row, Produced floatText cell) (row column : Nat) :
    ∀ cell ∈ cellAt rows row column, Produced floatText cell := by
  intro cell found
  obtain ⟨cells, here, there⟩ := Option.bind_eq_some_iff.mp found
  exact produced cells (List.mem_of_getElem? here) cell (List.mem_of_getElem? there)

/-- The server reads one statement with the included columns, and for each exported row a
tuple of operands that stand for its cells. -/
theorem serializeRowsAsInsert_denotes (named : insertedColumns toLowerCase columns includePrimaryKey ≠ [])
    (present : rowIndexes.getD (List.range rows.length) ≠ [])
    (produced : ∀ row ∈ rows, ∀ cell ∈ row, Produced floatText cell) : ∃ tuples,
      (tokens defaultRules (units (serializeRowsAsInsert floatText toLowerCase columns rows tableName includePrimaryKey
        rowIndexes))).bind SqlInserts.statement =
        some ⟨(targetNames tableName).map units,
          (insertedColumns toLowerCase columns includePrimaryKey).map fun column => units (columnName columns column), tuples⟩ ∧
      List.Forall₂ (fun row tuple => List.Forall₂ (fun column operand =>
          Denotes floatText toLowerCase ((columns[column]?.map (·.databaseType)).getD "") (cellAt rows row column) operand)
        (insertedColumns toLowerCase columns includePrimaryKey) tuple) (rowIndexes.getD (List.range rows.length)) tuples := by
  have cell (row column : Nat) := cellValueToSqlLiteral_denotes floatText toLowerCase (cellAt_produced floatText rows produced row column)
    ((columns[column]?.map (·.databaseType)).getD "")
  choose operand written denotes using cell
  choose read reads gives using written
  let included := insertedColumns toLowerCase columns includePrimaryKey
  let exported := rowIndexes.getD (List.range rows.length)
  have tuples : List.Forall₂ (fun text read => ReadsBefore defaultRules anything (units text) (tupleTokens read))
      (exported.map (valueTuple floatText toLowerCase columns rows included)) (exported.map fun row => included.map (read row)) := by
    rw [List.forall₂_map_left_iff, List.forall₂_map_right_iff, List.forall₂_same]
    intro row _
    apply tuple_reads
    · rw [List.forall₂_map_left_iff, List.forall₂_map_right_iff, List.forall₂_same]
      exact fun column _ => reads row column
    · exact mt List.map_eq_nil_iff.mp named
  have named' : included.map (columnName columns) ≠ [] := mt List.map_eq_nil_iff.mp named
  obtain ⟨between, gap, isGap, isSpace, text⟩ := serializeRowsAsInsert_eq floatText toLowerCase columns rows tableName includePrimaryKey
    rowIndexes named present
  have whole := statement_reads isSpace between isGap tuples (targetNames_ne_nil tableName) named' (mt List.map_eq_nil_iff.mp present)
  refine ⟨exported.map fun row => included.map (operand row), ?_, ?_⟩
  · rw [text, whole, Option.bind_some]
    have gives_names (names : List String) : List.Forall₂ (Gives SqlInserts.name) (names.map nameTokens) (names.map units) := by
      rw [List.forall₂_map_left_iff, List.forall₂_map_right_iff, List.forall₂_same]
      exact fun name _ => gives_name (units name)
    have gives_tuples : List.Forall₂ (fun reads values => List.Forall₂ (Gives SqlInserts.operand) reads values)
        (exported.map fun row => included.map (read row)) (exported.map fun row => included.map (operand row)) := by
      rw [List.forall₂_map_left_iff, List.forall₂_map_right_iff, List.forall₂_same]
      intro row _
      rw [List.forall₂_map_left_iff, List.forall₂_map_right_iff, List.forall₂_same]
      exact fun column _ => gives row column
    have filled : ∀ reads ∈ exported.map fun row => included.map (read row), reads ≠ [] := by
      intro reads member
      obtain ⟨row, _, rfl⟩ := List.mem_map.mp member
      exact mt List.map_eq_nil_iff.mp named
    rw [statement_tokens (gives_names _) (gives_names _) gives_tuples (mt List.map_eq_nil_iff.mp (targetNames_ne_nil tableName))
      (mt List.map_eq_nil_iff.mp named') (mt List.map_eq_nil_iff.mp present) filled, List.map_map]
    rfl
  · rw [List.forall₂_map_right_iff, List.forall₂_same]
    intro row _
    rw [List.forall₂_map_right_iff, List.forall₂_same]
    exact fun column _ => denotes row column

end Rows

theorem spelled_pointed : Spelled "1.5" (.number none [49, 46, 53]) := by
  have isNumeral : IsNumeral [49, 46, 53] :=
    IsNumeral.intro [49] [46, 53] [] (by decide) (.inr ⟨[53], rfl, by decide⟩) (.inl (List.cons_ne_nil _ _)) (.inl rfl)
  exact spelled_digits (by simp) isNumeral rfl

theorem serializeRowsAsInsert_denotes_row : ∃ tuples,
    (tokens defaultRules (units (serializeRowsAsInsert (fun _ => "1.5") id
      [⟨"price", "double", none⟩, ⟨"note", "varchar", none⟩, ⟨"file", "blob", none⟩]
      [[.float 0x3FF8000000000000, .text "it's", .binary "AQI="]] "shop.items" true none))).bind SqlInserts.statement =
      some ⟨[units "shop", units "items"], [units "price", units "note", units "file"], tuples⟩ := by
  obtain ⟨tuples, read, -⟩ := serializeRowsAsInsert_denotes (fun _ => "1.5") id
    [⟨"price", "double", none⟩, ⟨"note", "varchar", none⟩, ⟨"file", "blob", none⟩]
    [[.float 0x3FF8000000000000, .text "it's", .binary "AQI="]] "shop.items" true none (by decide) (by decide) (by
      have price : Produced (fun _ => "1.5") (.float 0x3FF8000000000000) :=
        .float ⟨by decide, ⟨_, spelled_pointed⟩, by decide +kernel⟩
      have file : Produced (fun _ => "1.5") (.binary "AQI=") := .binary [1, 2]
      simpa using ⟨price, .text "it's", file⟩)
  exact ⟨tuples, read⟩

end Statements

end Pipa.ResultExport
