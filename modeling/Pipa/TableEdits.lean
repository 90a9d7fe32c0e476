import Pipa.Library.Base64
import Pipa.Library.JsonText
import Pipa.Library.SqlLexer
import Pipa.TableMutations
import Pipa.TableSql
import Pipa.TableSqlFilter

/-! Edited text on its way to a typed value: each family of column types reads the text by
its own rules, and everything it refuses comes with a reason. -/

namespace Pipa.TableEdits
open Text ColumnPatterns TableSql TableMutations

/-- Double-precision numbers as both languages have them, with what is documented of their
texts: JavaScript writes a number so that it is read back, and Rust reads what JavaScript writes. -/
structure Doubles where
  Double : Type
  number : String → Double
  string : Double → String
  isFinite : Double → Bool
  isZero : Double → Bool
  isNegative : Double → Bool
  isNegativeZero : Double → Bool
  fround : Double → Double
  parse : String → Option Double
  string_solid : ∀ value, ∀ c ∈ (string value).toList, isWhitespace c = false
  string_zero : ∀ value, isZero value = true → isNegativeZero value = false → string value = "0"
  parse_string : ∀ value, isFinite value = true → isNegativeZero value = false → parse (string value) = some value
  parse_negativeZero : ∀ value, isNegativeZero value = true → parse "-0" = some value

/-- What JavaScript brings to the edited texts. -/
structure Builtins extends Doubles where
  toLowerCase : String → String
  toUpperCase : String → String

/-! ### Numbers -/

def sign : Regex := .optional (.char fun c => c == '+' || c == '-')

/-- `^[+-]?\d+$` -/
def integerText : Regex := .seq .start (.seq (.seq sign (digits exactClasses)) .finish)

/-- Digits behind an optional sign. -/
def bigInt (text : String) : Int :=
  match text.toList with
  | '-' :: digits => -Int.ofNat (Nat.ofDigitChars 10 digits 0)
  | '+' :: digits => Nat.ofDigitChars 10 digits 0
  | digits => Nat.ofDigitChars 10 digits 0

def digitsNumber (digits : List Char) : Nat := Nat.ofDigitChars 10 digits 0

/-- A keyword between word boundaries. -/
def hasKeyword (keyword databaseType : String) : Bool :=
  (Regex.all [.boundary isAsciiWord, exactly keyword, .boundary isAsciiWord]).isMatch databaseType.toList

/-- `^(?:names)\s*\(\s*` -/
def namedArguments (names : List String) : Regex :=
  .all [.start, .any (names.map exactly), spaces exactClasses, symbol '(', spaces exactClasses]

def closing : Regex := .seq (spaces exactClasses) (symbol ')')

/-- The number that stands alone in the parentheses behind one of the names. -/
def declaredLength (names : List String) (databaseType : String) : Option (List Char) :=
  match (Regex.captures [namedArguments names, digits exactClasses, closing] (Regex.begin databaseType.toList)).head? with
  | some [_, length, _] => some length
  | _ => none

/-- The two numbers in the parentheses behind one of the names. -/
def declaredScale (names : List String) (databaseType : String) : Option (List Char × List Char) :=
  match (Regex.captures
      [namedArguments names, digits exactClasses, .all [spaces exactClasses, symbol ',', spaces exactClasses], digits exactClasses,
        closing] (Regex.begin databaseType.toList)).head? with
  | some [_, first, _, second, _] => some (first, second)
  | _ => none

section Builtins
variable (builtins : Builtins)

def integerBits : List (String × Nat) :=
  [("tinyint", 8), ("smallint", 16), ("mediumint", 24), ("int", 32), ("integer", 32), ("bigint", 64)]

/-- A type-specific range error of an integer. -/
def integerRangeError (value baseType : String) (unsigned : Bool) : Option String :=
  if baseType = "year" then
    let year := bigInt value
    if year = 0 ∨ 1901 ≤ year ∧ year ≤ 2155 then none else some "YEAR 仅允许 0 或 1901–2155"
  else
    match integerBits.lookup baseType with
    | none => none
    | some bits =>
      let integer := bigInt value
      let minimum : Int := if unsigned then 0 else -Int.ofNat (1 <<< (bits - 1))
      let maximum : Int := if unsigned then Int.ofNat (1 <<< bits) - 1 else Int.ofNat (1 <<< (bits - 1)) - 1
      if integer < minimum ∨ maximum < integer then
        some ("超出 " ++ builtins.toUpperCase baseType ++ (if unsigned then " UNSIGNED" else "") ++ " 范围")
      else none

/-- Validates DECIMAL(M,D) integer and fraction widths before MySQL can round or truncate them. -/
def decimalRangeError (value databaseType : String) : Option String :=
  match declaredScale ["decimal", "numeric"] databaseType with
  | none => none
  | some (total, fraction) =>
    let totalDigits := digitsNumber total
    let fractionDigits := digitsNumber fraction
    let unsignedValue := if value.toList.head?.any (fun c => c == '+' || c == '-') then value.toList.tail else value.toList
    let integerPart := unsignedValue.takeWhile (· ≠ '.')
    let fractionPart := (unsignedValue.dropWhile (· ≠ '.')).tail.takeWhile (· ≠ '.')
    let integerDigits := (integerPart.dropWhile (· = '0')).length
    if fractionPart.length > fractionDigits ∨ (integerDigits : Int) > (totalDigits : Int) - fractionDigits then
      some ("超出 DECIMAL(" ++ toString totalDigits ++ "," ++ toString fractionDigits ++ ") 范围或小数位数")
    else none

/-- `^[+-]?(?:\d+(?:\.\d*)?|\.\d+)$` -/
def decimalText : Regex := numericLiteral exactClasses

/-- Validates FLOAT(M,D) and DOUBLE(M,D) scale before the server can round it. -/
def floatingScaleError (value databaseType : String) : Option String :=
  match declaredScale ["float", "double", "real"] databaseType with
  | none => none
  | some (total, fraction) =>
    if decimalText.isMatch value.toList = false then some "FLOAT/DOUBLE(M,D) 请输入不带指数的普通小数"
    else
      (decimalRangeError value ("decimal(" ++ String.ofList total ++ "," ++ String.ofList fraction ++ ")")).map fun _ =>
        "超出 " ++ builtins.toUpperCase databaseType ++ " 范围或小数位数"

/-- FLOAT(p) has single precision up to 24. -/
def usesSinglePrecisionFloat (databaseType baseType : String) : Bool :=
  if baseType ≠ "float" then false
  else
    match (Regex.captures
        [namedArguments ["float"], digits exactClasses, closing,
          .all [.optional (.seq (.plus (.char isJsWhitespace)) (exactly "unsigned")),
            .optional (.seq (.plus (.char isJsWhitespace)) (exactly "zerofill")), .finish]]
        (Regex.begin databaseType.toList)).head? with
    | some [_, precision, _, _] => digitsNumber precision ≤ 24
    | _ => true

/-- Detects non-zero decimal mantissas after numeric parsing underflows to zero. -/
def hasNonZeroMantissa (value : String) : Bool :=
  (value.toList.takeWhile fun c => c ≠ 'e' ∧ c ≠ 'E').any fun c => '1' ≤ c && c ≤ '9'

/-- Formats one finite number while retaining the sign of negative zero. -/
def numberToExactText (value : builtins.Double) : String :=
  if builtins.isNegativeZero value then "-0" else builtins.string value

/-! ### Bytes -/

def isBase64Sign (c : Char) : Bool := (Base64.value c).isSome

/-- Canonical padded Base64 text, or nothing. -/
def isValidBase64 (value : String) : Bool :=
  let four := Regex.all [.char isBase64Sign, .char isBase64Sign, .char isBase64Sign, .char isBase64Sign]
  let two := Regex.all [.char isBase64Sign, .char isBase64Sign, exactly "=="]
  let three := Regex.all [.char isBase64Sign, .char isBase64Sign, .char isBase64Sign, exactly "="]
  value == "" || (Regex.seq .start (.seq (.seq (.star four) (.optional (.alt two three))) .finish)).isMatch value.toList

/-- The first decoded byte of valid text. -/
def base64FirstByte (value : String) : Option Nat :=
  match value.toList with
  | first :: second :: _ => do
    let high ← Base64.value first
    let low ← Base64.value second
    return high * 4 + low / 16
  | _ => none

def blobMaximum : List (String × Nat) := [("tinyblob", 255), ("blob", 65535), ("mediumblob", 16777215)]

/-- Validates binary byte length against fixed and variable binary and BLOB limits. -/
def binaryLengthError (value databaseType baseType : String) : Option String :=
  let padding := if ['=', '='].isSuffixOf value.toList then 2 else if ['='].isSuffixOf value.toList then 1 else 0
  let byteLength := value.length / 4 * 3 - padding
  let declared : Option String :=
    match declaredLength ["bit", "binary", "varbinary"] databaseType with
    | none => none
    | some length =>
      let bitLength := digitsNumber length
      let maximum := if baseType = "bit" then (bitLength + 7) / 8 else bitLength
      if baseType = "bit" ∧ byteLength ≠ maximum then
        some ("BIT(" ++ toString bitLength ++ ") 必须提供 " ++ toString maximum ++ " 字节 Base64 数据")
      else if byteLength > maximum then some ("二进制内容超过 " ++ builtins.toUpperCase databaseType ++ " 容量")
      else if baseType = "bit" ∧ bitLength % 8 ≠ 0 ∧ (base64FirstByte value).any (fun byte => byte ≥ 1 <<< (bitLength % 8)) = true then
        some ("二进制内容超出 BIT(" ++ toString bitLength ++ ") 位范围")
      else none
  declared.or
    (if (blobMaximum.lookup baseType).any (fun maximum => byteLength > maximum) = true then
      some ("二进制内容超过 " ++ builtins.toUpperCase baseType ++ " 容量") else none)

/-! ### Members -/

/-- What a character behind a backslash stands for in a member. -/
def unescaped (c : Char) : Char :=
  if c = '0' then '\x00' else if c = 'b' then '\x08' else if c = 'n' then '\n' else if c = 'r' then '\r'
  else if c = 't' then '\t' else if c = 'Z' then '\x1A' else c

/-- A member behind its opening quote, and what follows its closing one. -/
def enumMember : List Char → Option (List Char × List Char)
  | [] => none
  | '\'' :: '\'' :: rest => (enumMember rest).map fun (member, after) => ('\'' :: member, after)
  | '\'' :: rest => some ([], rest)
  | '\\' :: c :: rest => (enumMember rest).map fun (member, after) => (unescaped c :: member, after)
  | c :: rest => (enumMember rest).map fun (member, after) => (c :: member, after)

/-- Every round takes at least a pair of quotes, so the length of the text bounds the rounds. -/
def enumMembers : Nat → List Char → Option (List String)
  | 0, _ => none
  | fuel + 1, text =>
    match text.dropWhile isJsWhitespace with
    | '\'' :: rest => do
      let (member, after) ← enumMember rest
      match after.dropWhile isJsWhitespace with
      | ',' :: later => (enumMembers fuel later).map (String.ofList member :: ·)
      | ')' :: later => if jsTrim (String.ofList later) = "" then some [String.ofList member] else none
      | _ => none
    | _ => none

/-- The quoted members of an ENUM or SET type. -/
def parseEnumSetValues (databaseType baseType : String) : Option (List String) :=
  match (Regex.run (.all [.start, anyCase baseType, spaces foldedClasses, symbol '(']) (Regex.begin databaseType.toList)).head? with
  | none => none
  | some position => enumMembers position.ahead.length position.ahead

/-! ### Times -/

def twoDigits : Regex := .all [.char Char.isDigit, .char Char.isDigit]

/-- From one to `most` digits. -/
def upToDigits : Nat → Regex
  | 0 => .empty
  | most + 1 => .seq (.char Char.isDigit) (.optional (upToDigits most))

/-- The parts of a text in front of an optional fraction of a second, and the fraction. -/
def secondsParts (parts : List Regex) (value : String) : Option (List (List Char) × List Char) :=
  match (Regex.captures (parts ++ [symbol '.', .seq (upToDigits 6) .finish]) (Regex.begin value.toList)).head? with
  | some found => some (found.take parts.length, found.getLastD [])
  | none => (Regex.captures (parts ++ [.finish]) (Regex.begin value.toList)).head?.map fun found => (found.take parts.length, [])

/-- Fractional seconds do not exceed the declared precision. -/
def validFractionPrecision (fraction : List Char) (databaseType : String) : Bool :=
  let declared := (Regex.positions [] databaseType.toList).findSome? fun position =>
    (Regex.captures [.seq (symbol '(') (spaces exactClasses), .char Char.isDigit, closing] position).head?
  match declared with
  | some [_, digit, _] => fraction.length ≤ digitsNumber digit
  | _ => fraction.length ≤ 0

def daysInMonth (year month : Nat) : Nat :=
  let leapYear := year % 400 = 0 ∨ year % 4 = 0 ∧ year % 100 ≠ 0
  [31, if leapYear then 29 else 28, 31, 30, 31, 30, 31, 31, 30, 31, 30, 31].getD (month - 1) 0

/-- Calendar components, with the zero dates of the server. -/
def isValidDateParts (value : List Char) : Bool :=
  match (Regex.captures
      [.seq .start (.seq twoDigits twoDigits), symbol '-', twoDigits, symbol '-', .seq twoDigits .finish] (Regex.begin value)).head? with
  | some [year, _, month, _, day] =>
    let year := digitsNumber year
    let month := digitsNumber month
    let day := digitsNumber day
    if month = 0 ∨ day = 0 then month ≤ 12 && day ≤ 31
    else if month > 12 then false
    else day ≤ daysInMonth year month
  | _ => false

/-- Date and time text, without coercion to a timezone. -/
def isValidTemporal (value baseType databaseType : String) : Bool :=
  if baseType = "date" then isValidDateParts value.toList
  else if baseType = "time" then
    match secondsParts [.seq .start (.optional (symbol '-')), upToDigits 3, symbol ':', twoDigits, symbol ':', twoDigits] value with
    | some ([_, hours, _, minutes, _, seconds], fraction) =>
      digitsNumber hours ≤ 838 && digitsNumber minutes ≤ 59 && digitsNumber seconds ≤ 59 &&
        validFractionPrecision fraction databaseType
    | _ => false
  else
    match secondsParts
        [.all [.start, twoDigits, twoDigits, symbol '-', twoDigits, symbol '-', twoDigits], .char fun c => c == ' ' || c == 'T',
          twoDigits, symbol ':', twoDigits, symbol ':', twoDigits] value with
    | some ([date, _, hours, _, minutes, _, seconds], fraction) =>
      isValidDateParts date && digitsNumber hours ≤ 23 && digitsNumber minutes ≤ 59 && digitsNumber seconds ≤ 59 &&
        validFractionPrecision fraction databaseType
    | _ => false

/-! ### Texts -/

def textMaximum : List (String × Nat) := [("tinytext", 255), ("text", 65535), ("mediumtext", 16777215)]

/-- Character and TEXT byte lengths. -/
def textValueLengthError (value databaseType baseType : String) : Option String :=
  if (declaredLength ["char", "varchar"] databaseType).any (fun length => value.length > digitsNumber length) = true then
    some ("内容超过 " ++ builtins.toUpperCase databaseType ++ " 字符长度")
  else if (textMaximum.lookup baseType).any (fun maximum => value.utf8ByteSize > maximum) = true then
    some ("内容超过 " ++ builtins.toUpperCase baseType ++ " 容量")
  else none

/-- `JSON.parse` does not throw. -/
def jsonParses (text : String) : Bool := (JsonText.tokens (SqlLexer.units text)).any JsonText.accepts

/-! ### The whole -/

def integerTypeNames : List String := ["tinyint", "smallint", "mediumint", "int", "integer", "bigint", "year"]

def binaryTypeNames : List String := ["bit", "binary", "varbinary", "tinyblob", "blob", "mediumblob", "longblob"]

def normalizedType (column : TableColumnDefinition) : String := builtins.toLowerCase (jsTrim column.columnType)

/-- The letters that a type begins with, or the whole type. -/
def baseType (column : TableColumnDefinition) : String :=
  let letters := (normalizedType builtins column).toList.takeWhile fun c => 'a' ≤ c && c ≤ 'z'
  if letters = [] then normalizedType builtins column else String.ofList letters

/-- An error, or a value where there is none. -/
def checked (error : Option String) (value : TableMutationValue) : Except String TableMutationValue :=
  match error with
  | some reason => .error reason
  | none => .ok value

/-- The single or double that a column keeps. -/
def normalized (column : TableColumnDefinition) (parsed : builtins.Double) : builtins.Double :=
  if usesSinglePrecisionFloat (normalizedType builtins column) (baseType builtins column) then builtins.fround parsed else parsed

def floatMutationValue (trimmed : String) (column : TableColumnDefinition) : Except String TableMutationValue :=
  let parsed := builtins.number trimmed
  let normalized := normalized builtins column parsed
  if filterNumber.isMatch trimmed.toList = false then .error "请输入有效浮点数"
  else if builtins.isFinite parsed = false ∨ builtins.isZero parsed = true ∧ hasNonZeroMantissa trimmed = true then
    .error "浮点数超出可表示范围"
  else if hasKeyword "unsigned" (normalizedType builtins column) = true ∧
      (builtins.isNegative parsed = true ∨ builtins.isNegativeZero parsed = true) then .error "UNSIGNED 浮点数不能为负数"
  else
    match floatingScaleError builtins trimmed (normalizedType builtins column) with
    | some reason => .error reason
    | none =>
      if builtins.isFinite normalized = false ∨ builtins.isZero normalized = true ∧ builtins.isZero parsed = false then
        .error "浮点数超出 FLOAT 可表示范围"
      else .ok (.float (numberToExactText builtins normalized))

def memberMutationValue (value : String) (column : TableColumnDefinition) : Except String TableMutationValue :=
  match parseEnumSetValues (jsTrim column.columnType) (baseType builtins column) with
  | none => .error (builtins.toUpperCase (baseType builtins column) ++ " 定义无法安全解析，请使用显式 SQL")
  | some allowedValues =>
    if baseType builtins column = "enum" then
      if value ∈ allowedValues then .ok (.text value) else .error "值不在 ENUM 定义中"
    else
      let selectedValues := if value = "" then [] else split ',' value
      if selectedValues.Nodup ∧ ∀ item ∈ selectedValues, item ∈ allowedValues then .ok (.text value)
      else .error "值不在 SET 定义中或包含重复项"

/-- Validates edited text and selects the bind type for its column. -/
def editableValueToMutationValue (value : EditableCellValue) (column : TableColumnDefinition) : Except String TableMutationValue :=
  match value with
  | none => if column.nullable then .ok .null else .error "该字段不允许 NULL"
  | some value =>
    let trimmed := jsTrim value
    let normalizedType := normalizedType builtins column
    let baseType := baseType builtins column
    if column.generationExpression ≠ "" then .error "生成列不能手动赋值"
    else if baseType ∈ integerTypeNames then
      if integerText.isMatch trimmed.toList = false then .error "请输入有效整数"
      else
        checked (integerRangeError builtins trimmed baseType (hasKeyword "unsigned" normalizedType))
          (.integer (toString (bigInt trimmed)))
    else if baseType ∈ ["decimal", "numeric"] then
      if decimalText.isMatch trimmed.toList = false then .error "请输入有效精确小数"
      else if hasKeyword "unsigned" normalizedType = true ∧ trimmed.toList.head? = some '-' then .error "UNSIGNED 小数不能为负数"
      else checked (decimalRangeError trimmed normalizedType) (.decimal trimmed)
    else if baseType ∈ ["float", "double", "real"] then floatMutationValue builtins trimmed column
    else if baseType = "json" then
      if jsonParses value then .ok (.json value) else .error "请输入有效 JSON"
    else if baseType ∈ binaryTypeNames then
      if isValidBase64 trimmed = false then .error "二进制字段请输入标准 Base64"
      else checked (binaryLengthError builtins trimmed normalizedType baseType) (.binary trimmed)
    else if baseType ∈ spatialTypeNames then .error "空间字段暂不允许可视化修改，请使用显式空间函数"
    else if baseType = "enum" ∨ baseType = "set" then memberMutationValue builtins value column
    else if baseType ∈ ["date", "time", "datetime", "timestamp"] then
      if isValidTemporal trimmed baseType normalizedType then .ok (.dateTime trimmed) else .error "时间格式无效"
    else checked (textValueLengthError builtins value normalizedType baseType) (.text value)

end Builtins

end Pipa.TableEdits
