import Pipa.TableSql

/-! The parts of a column type that the structure view edits, and the comment of a table
as its CREATE TABLE statement has it. -/

namespace Pipa.TableSql
open Text ColumnPatterns TableDdl

/-- Parsed parts of a visual column type declaration. -/
structure ParsedMysqlColumnType where
  baseType : String
  lengthArgs : Option String
  unsigned : Bool
  zerofill : Bool
deriving DecidableEq, Repr

def unsignedBaseTypes : List String :=
  ["tinyint", "smallint", "mediumint", "int", "integer", "bigint", "decimal", "numeric", "float", "double", "real"]

def lengthBaseTypes : List String :=
  ["tinyint", "smallint", "mediumint", "int", "integer", "bigint", "decimal", "numeric", "float", "double", "real", "bit", "year",
    "char", "varchar", "binary", "varbinary", "time", "datetime", "timestamp"]

/-- `[a-zA-Z]` in any case. -/
def isFoldedLetter (c : Char) : Bool := c.isAlpha || c == '\u017F' || c == '\u212A'

def typeName : Regex := .seq .start (.plus (.char isFoldedLetter))

/-- `\d+(?:\s*,\s*\d+)?` -/
def typeLength : Regex :=
  .seq (digits foldedClasses) (.optional (.all [spaces foldedClasses, symbol ',', spaces foldedClasses, digits foldedClasses]))

def typeModifiers : List Regex := [modifier foldedClasses "unsigned", .seq (modifier foldedClasses "zerofill") .finish]

def withoutSpaces (text : List Char) : String := String.ofList (text.filter fun c => !isJsWhitespace c)

/-- Splits a declaration into editable parts: nothing where it is not a simple visual type. -/
def parseMysqlColumnType (databaseType : String) : Option ParsedMysqlColumnType :=
  let position := Regex.begin (trimmed databaseType)
  let opening := Regex.all [spaces foldedClasses, symbol '(', spaces foldedClasses]
  let closing := Regex.seq (spaces foldedClasses) (symbol ')')
  match (Regex.captures ([typeName, opening, typeLength, closing] ++ typeModifiers) position).head? with
  | some [baseType, _, lengthArgs, _, unsigned, zerofill] => some {
      baseType := String.ofList (toLowercase baseType)
      lengthArgs := some (withoutSpaces lengthArgs)
      unsigned := unsigned ≠ []
      zerofill := zerofill ≠ [] }
  | _ =>
    match (Regex.captures (typeName :: typeModifiers) position).head? with
    | some [baseType, unsigned, zerofill] => some {
        baseType := String.ofList (toLowercase baseType)
        lengthArgs := none
        unsigned := unsigned ≠ []
        zerofill := zerofill ≠ [] }
    | _ => none

/-- Whether a type declaration can carry CHARACTER SET and COLLATE. -/
def typeSupportsCharset (databaseType : String) : Bool :=
  (typePrefix foldedClasses anyCase characterTypeNames).isMatch (trimmed databaseType)

section
variable (toLowerCase : String → String)

def typeSupportsUnsigned (baseType : String) : Bool := unsignedBaseTypes.contains (toLowerCase (jsTrim baseType))

def typeSupportsLength (baseType : String) : Bool := lengthBaseTypes.contains (toLowerCase (jsTrim baseType))

/-- Rebuilds a declaration from its parts. -/
def formatMysqlColumnType (parts : ParsedMysqlColumnType) : String :=
  let lowered := toLowerCase (jsTrim parts.baseType)
  let baseType := if lowered = "" then "varchar" else lowered
  let lengthArgs := withoutSpaces ((parts.lengthArgs.getD "").toList)
  let supportsUnsigned := typeSupportsUnsigned toLowerCase baseType
  " ".intercalate
    ([if lengthArgs ≠ "" ∧ typeSupportsLength toLowerCase baseType = true then baseType ++ "(" ++ lengthArgs ++ ")" else baseType] ++
      (if supportsUnsigned && parts.unsigned then ["unsigned"] else []) ++
      (if supportsUnsigned && parts.zerofill then ["zerofill"] else []))

/-- Base types whose default the visual editor cannot write. -/
def explicitDefaultTypeNames : List String :=
  ["bit", "binary", "varbinary", "tinyblob", "blob", "mediumblob", "longblob", "tinytext", "text", "mediumtext", "longtext", "json"] ++
    spatialTypeNames

def columnDefaultValidationError (column : TableColumnDefinition) : Option String :=
  if column.defaultValue = none ∨ column.defaultExpression = true ∨ column.generationExpression ≠ "" then none
  else
    let baseType := String.ofList ((toLowerCase (jsTrim column.columnType)).toList.takeWhile fun c => 'a' ≤ c ∧ c ≤ 'z')
    if explicitDefaultTypeNames.contains baseType then some "该类型的默认值需要显式类型表达式，请移除默认值并使用原始 ALTER TABLE"
    else none

end

def buildAlterTableCommentStatement (database table comment : String) : String :=
  "ALTER TABLE " ++ target database table ++ " COMMENT = " ++ mysqlStringLiteral comment ++ ";"

/-- What stands behind the top-level list: the text is read inside `depth` parentheses,
within a quoted text, and past an escaped character. -/
def behindList (depth : Nat) (inString : Option Char) (escaped : Bool) : List Char → List Char
  | [] => []
  | c :: rest =>
    if escaped then behindList depth inString false rest
    else match inString with
    | some quote =>
      if c = quote then
        if quote = '\'' ∧ rest.head? = some '\'' then behindList depth inString true rest else behindList depth none false rest
      else behindList depth inString (quote ≠ '\x60' ∧ c = '\\' ∧ rest ≠ []) rest
    | none =>
      if c = '\'' ∨ c = '"' ∨ c = '\x60' then behindList depth (some c) false rest
      else if c = '(' then behindList (depth + 1) none false rest
      else if c = ')' then if depth - 1 = 0 then rest else behindList (depth - 1) none false rest
      else behindList depth none false rest

/-- The table options of a CREATE TABLE statement. -/
def extractCreateTableOptions (createSql : String) : List Char :=
  behindList 0 none false (createSql.toList.dropWhile (· ≠ '('))

def decodeMysqlQuotedString : List Char → List Char
  | '\'' :: '\'' :: rest => '\'' :: decodeMysqlQuotedString rest
  | c :: rest => c :: decodeMysqlQuotedString rest
  | [] => []

/-- `\bCOMMENT\s*=\s*'((?:''|[^'])*)'` in any case. -/
def tableCommentParts : List Regex :=
  [.all [.boundary isFoldedWord, anyCase "COMMENT", spaces foldedClasses, symbol '=', spaces foldedClasses, symbol '\''],
    .star (.alt (exactly "''") (.char fun c => c ≠ '\'')), symbol '\'']

def parseCreateTableComment (createSql : String) : String :=
  match (Regex.positions [] (extractCreateTableOptions createSql)).findSome? fun position =>
      (Regex.captures tableCommentParts position).head? with
  | some [_, body, _] => String.ofList (decodeMysqlQuotedString body)
  | _ => ""

end Pipa.TableSql
