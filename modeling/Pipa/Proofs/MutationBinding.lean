import Pipa.MutationBinding
import Pipa.Proofs.TableSqlFilterNumbers

/-! Edited text from the editor to a statement: what the editor types is bound as what it
denotes, apart from documents and bytes that only the editor reads. -/

namespace Pipa.MutationBinding
open Text ColumnPatterns Regex TableSql TableMutations TableEdits

theorem digit_solid {c : Char} (digit : c.isDigit = true) : isWhitespace c = false := by
  have bounds : 48 ≤ c.toNat ∧ c.toNat ≤ 57 := Char.isDigit_iff_toNat.mp digit
  simp only [isWhitespace, Bool.or_eq_false_iff, Bool.and_eq_false_iff, decide_eq_false_iff_not, beq_eq_false_iff_ne]
  omega

/-! ### Whole numbers -/

theorem negSucc_text (number : Nat) :
    (toString (Int.negSucc number)).toList = '-' :: Nat.toDigits 10 (number + 1) := by
  have text : toString (Int.negSucc number) = "-" ++ toString (number + 1) := rfl
  rw [text, String.toList_append, toList_toString]
  rfl

theorem ofNat_text (number : Nat) : toString (Int.ofNat number) = toString number := rfl

theorem integer_solid (number : Int) : ∀ c ∈ (toString number).toList, isWhitespace c = false := by
  intro c member
  cases number with
  | ofNat number =>
    rw [ofNat_text, toList_toString] at member
    exact digit_solid (toDigits_isDigit c member)
  | negSucc number =>
    rw [negSucc_text] at member
    rcases List.mem_cons.mp member with rfl | member
    · decide
    · exact digit_solid (toDigits_isDigit c member)

theorem trim_toString (number : Int) : trim (toString number) = toString number := trimMatches_of_none (integer_solid number)

theorem parseI64_negSucc {number : Nat} (small : number < 9223372036854775808) :
    parseI64 (toString (Int.negSucc number)) = some (Int.negSucc number) := by
  have digits : (Nat.toDigits 10 (number + 1)).all Char.isDigit = true := List.all_eq_true.mpr toDigits_isDigit
  have negated : -Int.ofNat (number + 1) = Int.negSucc number := rfl
  have bounded : (-9223372036854775808 : Int) ≤ Int.negSucc number := by omega
  rw [parseI64, negSucc_text]
  simp only [Nat.toDigits_ne_nil, digits, Bool.true_eq_false, or_self, if_false, Nat.ofDigitChars_ten_toDigits]
  rw [negated, Option.filter_some, if_pos (decide_eq_true bounded)]

theorem natText_unsigned (number : Nat) : (toString number).toList.head? ≠ some '-' := by
  intro signed
  rw [toList_toString] at signed
  exact absurd (toDigits_isDigit '-' (List.mem_of_head? signed)) (by decide)

/-- The number of a bound integer. -/
def Bound.integer {Double : Type} : Bound Double → Option Int
  | .signed value => some value
  | .unsigned value => some (Int.ofNat value)
  | _ => none

section Binding
variable (doubles : Doubles) (readers : Readers)

/-- Every integer of 64 bits, signed or unsigned, is bound as itself. -/
theorem pushValue_integer {number : Int} (lower : -9223372036854775808 ≤ number) (upper : number < 18446744073709551616) :
    ∃ bound, pushValue doubles readers (.integer (toString number)) = .ok bound ∧ bound.integer = some number := by
  simp only [pushValue, trim_toString]
  cases number with
  | ofNat number =>
    refine ⟨.unsigned number, ?_, rfl⟩
    rw [ofNat_text, if_neg (natText_unsigned number), parseU64_toString (Int.ofNat_lt.mp upper)]
    rfl
  | negSucc number =>
    refine ⟨.signed (Int.negSucc number), ?_, rfl⟩
    rw [negSucc_text, List.head?_cons, if_pos rfl, parseI64_negSucc (by omega)]
    rfl

end Binding

/-! ### Decimals -/

theorem decimalText_mantissa {text : List Char} (matched : decimalText.isMatch text = true) :
    Spells mantissa (TableFilter.stripSign text) :=
  (spells_signed fun spells => by simpa using mantissa_unsigned spells []).mp (isMatch_anchored matched)

theorem decimalText_solid {text : List Char} (matched : decimalText.isMatch text = true) :
    ∀ c ∈ text, isWhitespace c = false := by
  have spells := decimalText_mantissa matched
  have marks : ∀ c ∈ TableFilter.stripSign text, isWhitespace c = false := by
    intro c member
    rcases mantissa_marks spells c member with digit | rfl
    · exact digit_solid digit
    · decide
  cases text with
  | nil => exact marks
  | cons c text =>
    rw [TableFilter.stripSign] at marks
    split at marks
    next sign =>
      refine List.forall_mem_cons.mpr ⟨?_, marks⟩
      rcases sign with rfl | rfl <;> decide
    next => exact marks

/-- What the editor accepts as a decimal is a number. -/
theorem readDecimal_isSome {text : String} (matched : decimalText.isMatch text.toList = true) :
    ∃ number, readDecimal text = some number := by
  have accepted := spells_mantissa.mp (decimalText_mantissa matched)
  rw [readDecimal]
  generalize TableFilter.stripSign text.toList = unsigned at accepted ⊢
  refine ⟨_, if_neg ?_⟩
  rw [isMantissa] at accepted
  cases tail : unsigned.dropWhile (· != '.') with
  | nil =>
    simp only [tail, Bool.and_eq_true, Bool.not_eq_true', List.isEmpty_eq_false_iff] at accepted
    simp only [List.tail_nil, List.append_nil, accepted.1, Bool.true_eq_false, or_false]
    exact accepted.2
  | cons point fraction =>
    simp only [tail, Bool.and_eq_true, Bool.or_eq_true, Bool.not_eq_true', List.isEmpty_eq_false_iff] at accepted
    obtain ⟨⟨whole, part⟩, some_digit⟩ := accepted
    simp only [List.tail_cons, List.all_append, whole, part, Bool.true_and, Bool.true_eq_false, or_false,
      List.append_eq_nil_iff, not_and_or]
    exact some_digit

/-! ### Bytes -/

theorem sign_solid {c : Char} (sign : isBase64Sign c = true) : isWhitespace c = false := by
  obtain ⟨number, small, -, rfl⟩ := Base64.signed sign
  have solid : ∀ number : Fin 64, isWhitespace (Base64.sign number) = false := by decide
  exact solid ⟨number, small⟩

theorem spells_exactly {text : String} {word : List Char} (spells : Spells (exactly text) word) : word = text.toList := by
  have same := (spells_spelled.mp spells).imp fun _ _ same => eq_of_beq same
  rw [List.forall₂_eq_eq_eq] at same
  exact same.symm

theorem spells_four {word : List Char}
    (spells : Spells (.all [.char isBase64Sign, .char isBase64Sign, .char isBase64Sign, .char isBase64Sign]) word) :
    ∃ first second third fourth, word = [first, second, third, fourth] ∧
      ∀ c ∈ [first, second, third, fourth], isBase64Sign c = true := by
  have each := (@spells_chars [isBase64Sign, isBase64Sign, isBase64Sign, isBase64Sign] word).mp spells
  simp only [List.forall₂_cons_left_iff, List.forall₂_nil_left_iff] at each
  obtain ⟨first, _, sign, ⟨second, _, sign', ⟨third, _, sign'', ⟨fourth, _, last, rfl, rfl⟩, rfl⟩, rfl⟩, rfl⟩ := each
  exact ⟨first, second, third, fourth, rfl, by simp [sign, sign', sign'', last]⟩

/-- Whole groups in front of what may end a text. -/
theorem grouped_append {front back : List Char}
    (spells : Spells (.star (.all [.char isBase64Sign, .char isBase64Sign, .char isBase64Sign, .char isBase64Sign])) front)
    (grouped : Base64.Grouped back) : Base64.Grouped (front ++ back) := by
  generalize starred : Regex.star _ = regex at spells
  induction spells with
  | done => exact grouped
  | round once more first rest =>
    cases starred
    obtain ⟨first, second, third, fourth, rfl, signs⟩ := spells_four once
    exact .group signs (rest rfl)
  | empty | char | seq | left | right | start | finish | boundary | notAhead => cases starred

theorem isValidBase64_grouped {text : String} (valid : isValidBase64 text = true) : Base64.Grouped text.toList := by
  rw [isValidBase64, Bool.or_eq_true, beq_iff_eq] at valid
  rcases valid with rfl | matched
  · exact .done
  · obtain ⟨groups, tail, inner, padded, same⟩ := spells_seq.mp (isMatch_anchored matched)
    rw [same]
    refine grouped_append inner ?_
    rcases spells_optional.mp padded with padded | rfl
    · rcases spells_alt.mp padded with two | three
      · obtain ⟨_, _, former, more, rfl⟩ := spells_seq.mp two
        obtain ⟨_, _, former', more', rfl⟩ := spells_seq.mp more
        obtain ⟨_, _, padding, ends, rfl⟩ := spells_seq.mp more'
        obtain ⟨first, sign, rfl⟩ := spells_char.mp former
        obtain ⟨second, sign', rfl⟩ := spells_char.mp former'
        rw [spells_exactly padding, spells_empty.mp ends]
        exact .one sign sign'
      · obtain ⟨_, _, former, more, rfl⟩ := spells_seq.mp three
        obtain ⟨_, _, former', more', rfl⟩ := spells_seq.mp more
        obtain ⟨_, _, former'', more'', rfl⟩ := spells_seq.mp more'
        obtain ⟨_, _, padding, ends, rfl⟩ := spells_seq.mp more''
        obtain ⟨first, sign, rfl⟩ := spells_char.mp former
        obtain ⟨second, sign', rfl⟩ := spells_char.mp former'
        obtain ⟨third, sign'', rfl⟩ := spells_char.mp former''
        rw [spells_exactly padding, spells_empty.mp ends]
        exact .two sign sign' sign''
    · exact .done

theorem isValidBase64_solid {text : String} (valid : isValidBase64 text = true) : ∀ c ∈ text.toList, isWhitespace c = false := by
  intro c member
  rcases (isValidBase64_grouped valid).signs c member with sign | rfl
  · exact sign_solid sign
  · decide

/-! ### What the editor accepts -/

section Guards
variable {condition : Prop} [Decidable condition] {reason : String} {value typed : TableMutationValue}

theorem passed {rest : Except String TableMutationValue} (accepted : (if condition then .error reason else rest) = .ok typed) :
    ¬condition ∧ rest = .ok typed := by
  by_cases refused : condition
  · rw [if_pos refused] at accepted
    cases accepted
  · rw [if_neg refused] at accepted
    exact ⟨refused, accepted⟩

theorem granted (accepted : (if condition then Except.ok value else .error reason) = .ok typed) : condition ∧ typed = value := by
  by_cases holds : condition
  · rw [if_pos holds] at accepted
    exact ⟨holds, (Except.ok.inj accepted).symm⟩
  · rw [if_neg holds] at accepted
    cases accepted

theorem checked_ok {error : Option String} (accepted : checked error value = .ok typed) : error = none ∧ typed = value := by
  cases error with
  | some reason => cases accepted
  | none => exact ⟨rfl, (Except.ok.inj accepted).symm⟩

end Guards

section Whole
variable (builtins : Builtins)

def typedFamilies : List String :=
  integerTypeNames ++ ["decimal", "numeric"] ++ ["float", "double", "real"] ++ ["json"] ++ binaryTypeNames ++
    ["date", "time", "datetime", "timestamp"]

/-- What the editor has checked when it types a text. -/
inductive Accepted (column : TableColumnDefinition) (value : String) : TableMutationValue → Prop
  | integer (family : baseType builtins column ∈ integerTypeNames)
      (range : integerRangeError builtins (jsTrim value) (baseType builtins column)
        (hasKeyword "unsigned" (normalizedType builtins column)) = none) :
      Accepted column value (.integer (toString (bigInt (jsTrim value))))
  | decimal (family : baseType builtins column ∈ ["decimal", "numeric"])
      (matched : decimalText.isMatch (jsTrim value).toList = true) : Accepted column value (.decimal (jsTrim value))
  | float (family : baseType builtins column ∈ ["float", "double", "real"])
      (finite : builtins.isFinite (normalized builtins column (builtins.number (jsTrim value))) = true) :
      Accepted column value (.float (numberToExactText builtins (normalized builtins column (builtins.number (jsTrim value)))))
  | json (family : baseType builtins column = "json") (parses : jsonParses value = true) : Accepted column value (.json value)
  | binary (family : baseType builtins column ∈ binaryTypeNames) (valid : isValidBase64 (jsTrim value) = true) :
      Accepted column value (.binary (jsTrim value))
  | dateTime (family : baseType builtins column ∈ ["date", "time", "datetime", "timestamp"]) :
      Accepted column value (.dateTime (jsTrim value))
  | text (family : baseType builtins column ∉ typedFamilies) : Accepted column value (.text value)

theorem floatMutationValue_ok {trimmed : String} {column : TableColumnDefinition} {typed : TableMutationValue}
    (accepted : floatMutationValue builtins trimmed column = .ok typed) :
    builtins.isFinite (normalized builtins column (builtins.number trimmed)) = true ∧
      typed = .float (numberToExactText builtins (normalized builtins column (builtins.number trimmed))) := by
  rw [floatMutationValue] at accepted
  obtain ⟨-, accepted⟩ := passed accepted
  obtain ⟨-, accepted⟩ := passed accepted
  obtain ⟨-, accepted⟩ := passed accepted
  cases scale : floatingScaleError builtins trimmed (normalizedType builtins column) with
  | some reason =>
    rw [scale] at accepted
    cases accepted
  | none =>
    rw [scale] at accepted
    obtain ⟨finite, accepted⟩ := passed accepted
    rw [not_or, Bool.not_eq_false] at finite
    exact ⟨finite.1, (Except.ok.inj accepted).symm⟩

theorem memberMutationValue_ok {value : String} {column : TableColumnDefinition} {typed : TableMutationValue}
    (accepted : memberMutationValue builtins value column = .ok typed) : typed = .text value := by
  rw [memberMutationValue] at accepted
  cases members : parseEnumSetValues (jsTrim column.columnType) (baseType builtins column) with
  | none =>
    rw [members] at accepted
    cases accepted
  | some allowedValues =>
    simp only [members] at accepted
    by_cases enum : baseType builtins column = "enum"
    · rw [if_pos enum] at accepted
      exact (granted accepted).2
    · rw [if_neg enum] at accepted
      exact (granted accepted).2

theorem accepted_of_typed {value : String} {column : TableColumnDefinition} {typed : TableMutationValue}
    (accepted : editableValueToMutationValue builtins (some value) column = .ok typed) : Accepted builtins column value typed := by
  simp only [editableValueToMutationValue] at accepted
  replace accepted := (passed accepted).2
  by_cases integers : baseType builtins column ∈ integerTypeNames
  · rw [if_pos integers] at accepted
    obtain ⟨range, rfl⟩ := checked_ok (passed accepted).2
    exact .integer integers range
  rw [if_neg integers] at accepted
  by_cases decimals : baseType builtins column ∈ ["decimal", "numeric"]
  · rw [if_pos decimals] at accepted
    obtain ⟨matched, accepted⟩ := passed accepted
    obtain ⟨-, rfl⟩ := checked_ok (passed accepted).2
    exact .decimal decimals (Bool.not_eq_false _ ▸ matched)
  rw [if_neg decimals] at accepted
  by_cases floats : baseType builtins column ∈ ["float", "double", "real"]
  · rw [if_pos floats] at accepted
    obtain ⟨finite, rfl⟩ := floatMutationValue_ok builtins accepted
    exact .float floats finite
  rw [if_neg floats] at accepted
  by_cases documents : baseType builtins column = "json"
  · rw [if_pos documents] at accepted
    obtain ⟨parses, rfl⟩ := granted accepted
    exact .json documents parses
  rw [if_neg documents] at accepted
  by_cases binaries : baseType builtins column ∈ binaryTypeNames
  · rw [if_pos binaries] at accepted
    obtain ⟨valid, accepted⟩ := passed accepted
    obtain ⟨-, rfl⟩ := checked_ok accepted
    exact .binary binaries (Bool.not_eq_false _ ▸ valid)
  rw [if_neg binaries] at accepted
  replace accepted := (passed accepted).2
  have others (untimed : baseType builtins column ∉ ["date", "time", "datetime", "timestamp"]) :
      baseType builtins column ∉ typedFamilies := by
    simp only [typedFamilies, List.mem_append, List.mem_singleton, integers, decimals, floats, documents, binaries, untimed,
      or_self, not_false_iff]
  by_cases members : baseType builtins column = "enum" ∨ baseType builtins column = "set"
  · rw [if_pos members] at accepted
    obtain rfl := memberMutationValue_ok builtins accepted
    refine .text (others ?_)
    rcases members with member | member
    · rw [member]
      decide
    · rw [member]
      decide
  rw [if_neg members] at accepted
  by_cases times : baseType builtins column ∈ ["date", "time", "datetime", "timestamp"]
  · rw [if_pos times] at accepted
    obtain ⟨-, rfl⟩ := granted accepted
    exact .dateTime times
  rw [if_neg times] at accepted
  obtain ⟨-, rfl⟩ := checked_ok accepted
  exact .text (others times)

/-! ### The number of an integer column -/

theorem integerBits_bound {baseType : String} (family : baseType ∈ integerTypeNames) (counted : baseType ≠ "year") :
    ∃ bits ≤ 64, integerBits.lookup baseType = some bits := by
  have each : ∀ name ∈ integerTypeNames, name = "year" ∨ ∃ bits ∈ integerBits.lookup name, bits ≤ 64 := by
    decide
  obtain ⟨bits, found, small⟩ := (each baseType family).resolve_left counted
  exact ⟨bits, small, found⟩

theorem shift_le {few many : Nat} (le : few ≤ many) : 1 <<< few ≤ 1 <<< many := by
  rw [Nat.one_shiftLeft, Nat.one_shiftLeft]
  exact Nat.pow_le_pow_right (by decide) le

/-- An integer that is in range fits into 64 bits, with or without a sign. -/
theorem integerRange_bounds {value baseType : String} {unsigned : Bool} (family : baseType ∈ integerTypeNames)
    (range : integerRangeError builtins value baseType unsigned = none) :
    -9223372036854775808 ≤ bigInt value ∧ bigInt value < 18446744073709551616 := by
  rw [integerRangeError] at range
  by_cases year : baseType = "year"
  · rw [if_pos year] at range
    simp only [ite_eq_left_iff, reduceCtorEq, imp_false, not_not] at range
    omega
  · obtain ⟨bits, small, found⟩ := integerBits_bound family year
    rw [if_neg year, found] at range
    simp only [ite_eq_right_iff, reduceCtorEq, imp_false, not_or] at range
    have signed := shift_le (show bits - 1 ≤ 63 by omega)
    have whole := shift_le small
    simp only [Nat.reduceShiftLeft] at signed whole
    cases unsigned with
    | false =>
      simp only [Bool.false_eq_true, if_false, Int.ofNat_eq_natCast] at range
      omega
    | true =>
      simp only [if_true, Int.ofNat_eq_natCast] at range
      omega


/-! ### What is bound -/

section Bound
variable (readers : Readers)

/-- What serde_json demands of a document. -/
def Held (tokens : List JsonText.Token) : Prop :=
  (∀ number ∈ numbers tokens, readers.inRange number = true) ∧ (∀ units ∈ strings tokens, JsonText.paired units = true) ∧
    JsonText.deepest 0 tokens ≤ 127

theorem json_iff {text : String} (parses : jsonParses text = true) :
    readers.json text = true ↔ ∀ tokens, JsonText.tokens (SqlLexer.units text) = some tokens → Held readers tokens := by
  rw [jsonParses] at parses
  obtain ⟨tokens, read, accepts⟩ := (Option.any_eq_true _ _).mp parses
  constructor
  · intro accepted found same
    exact ⟨readers.json_numbers text found same accepted, readers.json_strings text found same accepted,
      readers.json_nesting text found same accepted⟩
  · intro held
    obtain ⟨numbers, strings, nesting⟩ := held tokens read
    exact readers.json_documents text tokens read ((JsonText.accepts_iff tokens).mp accepts) numbers strings nesting

/-- Valid base64 is decoded exactly where no bit is spare, and then to what a browser reads. -/
theorem base64_iff {text : String} (valid : isValidBase64 text = true) :
    (∃ content, readers.base64 (trim text) = some content ∧ Base64.atob text.toList = some content) ↔
      Base64.spareBits text.toList = 0 := by
  have solid : trim text = text := trimMatches_of_none (isValidBase64_solid valid)
  rw [solid, ← Base64.encode_iff (isValidBase64_grouped valid)]
  constructor
  · intro ⟨content, decoded, _⟩
    exact ⟨content, (readers.base64_standard text content).mp decoded⟩
  · intro ⟨content, encoded⟩
    refine ⟨content, (readers.base64_standard text content).mpr encoded, ?_⟩
    rw [← encoded]
    exact Base64.atob_encode content

/-- A finite double is bound as itself. -/
theorem pushValue_float {value : builtins.Double} (finite : builtins.isFinite value = true) :
    pushValue builtins.toDoubles readers (.float (numberToExactText builtins value)) = .ok (.float value) := by
  rw [numberToExactText]
  cases negativeZero : builtins.isNegativeZero value with
  | true =>
    have solid : trim "-0" = "-0" := by decide
    have bare : hasNonZeroMantissa "-0" = false := by decide
    simp only [if_true, pushValue, solid, builtins.parse_negativeZero value negativeZero, orInvalid]
    exact if_neg (by simp [finite, bare])
  | false =>
    have solid : trim (builtins.string value) = builtins.string value := trimMatches_of_none (builtins.string_solid value)
    have bare : ¬(builtins.isZero value = true ∧ hasNonZeroMantissa (builtins.string value) = true) := by
      intro ⟨zero, digit⟩
      rw [builtins.string_zero value zero negativeZero] at digit
      exact absurd digit (by decide)
    simp only [Bool.false_eq_true, if_false, pushValue, solid, builtins.parse_string value finite negativeZero, orInvalid]
    exact if_neg (not_or.mpr ⟨by simp [finite], bare⟩)

/-- A bound parameter is what an edited text denotes in its column. -/
def Denotes (column : TableColumnDefinition) : EditableCellValue → Bound builtins.Double → Prop
  | none, bound => bound = .null
  | some value, bound =>
    let baseType := baseType builtins column
    if baseType ∈ integerTypeNames then bound.integer = some (bigInt (jsTrim value))
    else if baseType ∈ ["decimal", "numeric"] then
      ∃ number, readDecimal (jsTrim value) = some number ∧ bound = .decimal number
    else if baseType ∈ ["float", "double", "real"] then bound = .float (normalized builtins column (builtins.number (jsTrim value)))
    else if baseType ∈ binaryTypeNames then ∃ content, Base64.atob (jsTrim value).toList = some content ∧ bound = .bytes content
    else if baseType ∈ ["date", "time", "datetime", "timestamp"] then bound = .text (jsTrim value)
    else bound = .text value

theorem denotes_late {column : TableColumnDefinition} {value : String} {bound : Bound builtins.Double}
    (late : baseType builtins column ∉ integerTypeNames ++ ["decimal", "numeric"] ++ ["float", "double", "real"]) :
    Denotes builtins column (some value) bound ↔
      if baseType builtins column ∈ binaryTypeNames then
        ∃ content, Base64.atob (jsTrim value).toList = some content ∧ bound = .bytes content
      else if baseType builtins column ∈ ["date", "time", "datetime", "timestamp"] then bound = .text (jsTrim value)
      else bound = .text value := by
  obtain ⟨numeric, floating⟩ := not_or.mp (mt List.mem_append.mpr late)
  obtain ⟨whole, decimal⟩ := not_or.mp (mt List.mem_append.mpr numeric)
  simp only [Denotes, if_neg whole, if_neg decimal, if_neg floating]

/-- Documents hold what serde_json demands, and base64 wastes no bit. -/
def Bindable (column : TableColumnDefinition) (value : EditableCellValue) : Prop :=
  ∀ text, value = some text →
    (baseType builtins column = "json" →
      ∀ tokens, JsonText.tokens (SqlLexer.units text) = some tokens → Held readers tokens) ∧
    (baseType builtins column ∈ binaryTypeNames → Base64.spareBits (jsTrim text).toList = 0)

theorem apart {name : String} {first second : List String} (family : name ∈ first) (disjoint : ∀ name ∈ first, name ∉ second) :
    name ∉ second := disjoint name family

theorem bindable_of_apart {column : TableColumnDefinition} {value : String} 
    (plain : baseType builtins column ∉ "json" :: binaryTypeNames) : Bindable builtins readers column (some value) :=
  fun _ _ => ⟨fun document => absurd (document ▸ List.mem_cons_self) plain, fun binary => absurd (List.mem_cons_of_mem _ binary) plain⟩

theorem bindable_json {column : TableColumnDefinition} {value : String} (family : baseType builtins column = "json") :
    Bindable builtins readers column (some value) ↔
      ∀ tokens, JsonText.tokens (SqlLexer.units value) = some tokens → Held readers tokens := by
  constructor
  · intro bindable
    exact (bindable value rfl).1 family
  · intro held text same
    obtain rfl := Option.some.inj same
    refine ⟨fun _ => held, fun binary => ?_⟩
    rw [family] at binary
    exact absurd binary (by decide)

theorem bindable_binary {column : TableColumnDefinition} {value : String} (family : baseType builtins column ∈ binaryTypeNames) :
    Bindable builtins readers column (some value) ↔ Base64.spareBits (jsTrim value).toList = 0 := by
  constructor
  · intro bindable
    exact (bindable value rfl).2 family
  · intro whole text same
    obtain rfl := Option.some.inj same
    refine ⟨fun document => ?_, fun _ => whole⟩
    rw [document] at family
    exact absurd family (by decide)

/-- What the editor types is bound as what it denotes exactly where a document holds what
serde_json demands and base64 wastes no bit. -/
theorem pushValue_denotes_iff {column : TableColumnDefinition} {value : EditableCellValue} {typed : TableMutationValue}
    (accepted : editableValueToMutationValue builtins value column = .ok typed) :
    (∃ bound, pushValue builtins.toDoubles readers typed = .ok bound ∧ Denotes builtins column value bound) ↔
      Bindable builtins readers column value := by
  cases value with
  | none =>
    have null : typed = .null := by
      rw [editableValueToMutationValue] at accepted
      split at accepted
      next => exact (Except.ok.inj accepted).symm
      next => cases accepted
    rw [null]
    exact iff_of_true ⟨.null, rfl, rfl⟩ nofun
  | some value =>
    cases accepted_of_typed builtins accepted with
    | integer family range =>
      obtain ⟨lower, upper⟩ := integerRange_bounds builtins family range
      obtain ⟨bound, binds, number⟩ := pushValue_integer builtins.toDoubles readers lower upper
      refine iff_of_true ⟨bound, binds, ?_⟩ (bindable_of_apart builtins readers (apart family (by decide)))
      simp only [Denotes, if_pos family]
      exact number
    | decimal family matched =>
      obtain ⟨number, read⟩ := readDecimal_isSome matched
      have solid : trim (jsTrim value) = jsTrim value := trimMatches_of_none (decimalText_solid matched)
      refine iff_of_true ⟨.decimal number, ?_, ?_⟩ (bindable_of_apart builtins readers (apart family (by decide)))
      · rw [pushValue, solid, readers.bigDecimal_reads _ number read]
        rfl
      · have whole : baseType builtins column ∉ integerTypeNames := apart family (by decide)
        simp only [Denotes, if_neg whole, if_pos family]
        exact ⟨number, read, rfl⟩
    | float family finite =>
      refine iff_of_true ⟨_, pushValue_float builtins readers finite, ?_⟩
        (bindable_of_apart builtins readers (apart family (by decide)))
      have whole : baseType builtins column ∉ integerTypeNames := apart family (by decide)
      have decimal : baseType builtins column ∉ ["decimal", "numeric"] := apart family (by decide)
      simp only [Denotes, if_neg whole, if_neg decimal, if_pos family]
    | json family parses =>
      rw [bindable_json builtins readers family, ← json_iff readers parses]
      have denotes (bound : Bound builtins.Double) : Denotes builtins column (some value) bound ↔ bound = .text value := by
        rw [denotes_late builtins (by rw [family]; decide), if_neg (by rw [family]; decide), if_neg (by rw [family]; decide)]
      simp only [pushValue, denotes]
      constructor
      · intro ⟨bound, binds, _⟩
        by_contra refused
        rw [if_neg refused] at binds
        cases binds
      · intro reads
        exact ⟨.text value, if_pos reads, rfl⟩
    | binary family valid =>
      rw [bindable_binary builtins readers family, ← base64_iff readers valid]
      have denotes (bound : Bound builtins.Double) : Denotes builtins column (some value) bound ↔
          ∃ content, Base64.atob (jsTrim value).toList = some content ∧ bound = .bytes content := by
        rw [denotes_late builtins (apart family (by decide)), if_pos family]
      simp only [pushValue, denotes]
      constructor
      · intro ⟨bound, binds, content, decoded, same⟩
        obtain ⟨content', reads, rfl⟩ : ∃ content, readers.base64 (trim (jsTrim value)) = some content ∧ .bytes content = bound := by
          cases reads : readers.base64 (trim (jsTrim value)) with
          | none =>
            rw [reads] at binds
            cases binds
          | some content =>
            rw [reads] at binds
            exact ⟨content, rfl, Except.ok.inj binds⟩
        cases same
        exact ⟨content, reads, decoded⟩
      · intro ⟨content, reads, decoded⟩
        refine ⟨.bytes content, ?_, content, decoded, rfl⟩
        rw [reads]
        rfl
    | dateTime family =>
      refine iff_of_true ⟨_, rfl, ?_⟩ (bindable_of_apart builtins readers (apart family (by decide)))
      rw [denotes_late builtins (apart family (by decide)), if_neg (apart family (by decide)), if_pos family]
    | text family =>
      have late : baseType builtins column ∉ integerTypeNames ++ ["decimal", "numeric"] ++ ["float", "double", "real"] :=
        fun early => family (List.mem_append_left _ (List.mem_append_left _ (List.mem_append_left _ early)))
      have plain : baseType builtins column ∉ "json" :: binaryTypeNames :=
        fun other => family (List.mem_append_left _ (by rw [List.append_assoc]; exact List.mem_append_right _ other))
      have binary : baseType builtins column ∉ binaryTypeNames := fun other => plain (List.mem_cons_of_mem _ other)
      refine iff_of_true ⟨_, rfl, ?_⟩ (bindable_of_apart builtins readers plain)
      rw [denotes_late builtins late, if_neg binary, if_neg fun time => family (List.mem_append_right _ time)]

end Bound

end Whole

/-! ### Plain builtins and readers -/

theorem bigInt_toString (number : Int) : bigInt (toString number) = number := by
  cases number with
  | ofNat number =>
    rw [bigInt, ofNat_text]
    split
    next digits text => exact absurd (congrArg List.head? text) (natText_unsigned number)
    next digits text =>
      rw [toList_toString] at text
      exact absurd (toDigits_isDigit '+' (text ▸ List.mem_cons_self)) (by decide)
    next =>
      rw [toList_toString, Nat.ofDigitChars_ten_toDigits]
      rfl
  | negSucc number =>
    rw [bigInt, negSucc_text]
    simp only [Nat.ofDigitChars_ten_toDigits]
    rfl

/-- Whole numbers as the only doubles, and letters of ASCII. -/
def wholeNumbers : Builtins where
  Double := Int
  number := bigInt
  string := toString
  isFinite := fun _ => true
  isZero := (· == 0)
  isNegative := (· < 0)
  isNegativeZero := fun _ => false
  fround := id
  parse := fun text => some (bigInt text)
  string_solid := integer_solid
  string_zero := by
    intro value zero _
    rw [eq_of_beq zero]
    rfl
  parse_string := fun value _ _ => congrArg some (bigInt_toString value)
  parse_negativeZero := nofun
  toLowerCase := fun text => String.ofList (text.toList.map Char.toLower)
  toUpperCase := fun text => String.ofList (text.toList.map Char.toUpper)

instance : DecidableEq wholeNumbers.Double := inferInstanceAs (DecidableEq Int)

/-- Numbers that are short and have no exponent. -/
def plainNumber (number : List Nat) : Bool := decide (number.length ≤ 300 ∧ 101 ∉ number ∧ 69 ∉ number)

def strictJson (text : String) : Bool :=
  (JsonText.tokens (SqlLexer.units text)).any fun tokens =>
    JsonText.accepts tokens && (numbers tokens).all plainNumber && (strings tokens).all JsonText.paired &&
      decide (JsonText.deepest 0 tokens ≤ 127)

theorem strictJson_iff {text : String} {tokens : List JsonText.Token} (read : JsonText.tokens (SqlLexer.units text) = some tokens) :
    strictJson text = true ↔ JsonText.Value tokens ∧ (∀ number ∈ numbers tokens, plainNumber number = true) ∧
      (∀ units ∈ strings tokens, JsonText.paired units = true) ∧ JsonText.deepest 0 tokens ≤ 127 := by
  rw [strictJson, read, Option.any_some]
  simp only [Bool.and_eq_true, List.all_eq_true, decide_eq_true_eq, JsonText.accepts_iff, and_assoc]

/-- Readers that accept what they must, with plain numbers as those in range. -/
def strictReaders : Readers where
  bigDecimal := readDecimal
  base64 := fun text => (Base64.atob text.toList).filter fun bytes => Base64.encode bytes = text.toList
  json := strictJson
  inRange := plainNumber
  bigDecimal_reads := fun _ _ read => read
  base64_standard := by
    intro text bytes
    rw [Option.filter_eq_some_iff, decide_eq_true_eq]
    constructor
    · exact fun decoded => decoded.2
    · intro encoded
      rw [← encoded]
      exact ⟨Base64.atob_encode bytes, rfl⟩
  json_documents := fun _ _ read value inRange paired shallow => (strictJson_iff read).mpr ⟨value, inRange, paired, shallow⟩
  json_numbers := fun _ _ read accepted => ((strictJson_iff read).mp accepted).2.1
  json_strings := fun _ _ read accepted => ((strictJson_iff read).mp accepted).2.2.1
  json_nesting := fun _ _ read accepted => ((strictJson_iff read).mp accepted).2.2.2

def columnOf (columnType : String) : TableColumnDefinition := { (default : TableColumnDefinition) with columnType }

/-- Bytes without spare bits reach the statement. -/
theorem pushValue_denotes_bytes : ∃ bound, pushValue wholeNumbers.toDoubles strictReaders (.binary "AAH/") = .ok bound ∧
    Denotes wholeNumbers (columnOf "VARBINARY(8)") (some " AAH/ ") bound := by
  have whole : Bindable wholeNumbers strictReaders (columnOf "VARBINARY(8)") (some " AAH/ ") := by
    refine (bindable_binary wholeNumbers strictReaders ?_).mpr ?_
    · decide +kernel
    · decide +kernel
  exact (pushValue_denotes_iff wholeNumbers strictReaders (by decide +kernel)).mpr whole

/-- Spare bits and half a character are accepted in the editor and refused at the statement. -/
theorem pushValue_refuses_accepted :
    (editableValueToMutationValue wholeNumbers (some "AB==") (columnOf "VARBINARY(8)") = .ok (.binary "AB==") ∧
      pushValue wholeNumbers.toDoubles strictReaders (.binary "AB==") = .error (invalidValue "base64 binary")) ∧
    editableValueToMutationValue wholeNumbers (some "\"\\ud800\"") (columnOf "JSON") = .ok (.json "\"\\ud800\"") ∧
      pushValue wholeNumbers.toDoubles strictReaders (.json "\"\\ud800\"") = .error (invalidValue "JSON") := by
  decide +kernel

end Pipa.MutationBinding
