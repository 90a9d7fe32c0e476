import Pipa.TableDdl

/-! The structure view's preview of a draft: the statements that the frontend shows while
the user edits. It writes the same pieces as the backend, recognised by ECMAScript's
patterns. -/

namespace Pipa.TableSql
open Text ColumnPatterns TableDdl

/-- The classes of patterns with the flags `i` and `u`. -/
def foldedClasses : PatternClasses := { space := isJsWhitespace, digit := Char.isDigit, word := isFoldedWord }

/-- The classes of patterns with the flag `u` alone. -/
def exactClasses : PatternClasses := { space := isJsWhitespace, digit := Char.isDigit, word := isAsciiWord }

def trimmed (text : String) : List Char := (jsTrim text).toList

/-- Validates the type grammar accepted by the visual DDL editor. -/
def columnTypeValidationError (databaseType : String) : Option String :=
  if (safeColumnType foldedClasses).isMatch (trimmed databaseType) then none
  else some "字段类型包含可视化编辑器不支持的复杂语法，请使用显式 ALTER TABLE"

def isCurrentTimestamp (value : String) : Bool := (currentTimestamp foldedClasses).isMatch (trimmed value)

def isCurrentTimestampExpression (value : Option String) : Bool := value.any isCurrentTimestamp

/-- `\bon update CURRENT_TIMESTAMP(?:\(\d*\))?(?![A-Z0-9_])`: it takes nothing behind
the token. -/
def knownOnUpdate : Regex := .seq (onUpdate foldedClasses) (.notAhead isFoldedWord)

/-- What is left of EXTRA when every clause the preview can reproduce is removed. -/
def knownExtra (extra : String) : List Char :=
  [defaultGenerated foldedClasses, autoIncrement foldedClasses, generatedStorage foldedClasses, invisible foldedClasses,
    knownOnUpdate].foldl (fun left pattern => pattern.removeAll left) extra.toList

/-- Whether the visual editor can safely reconstruct an existing column. -/
def isStructureColumnEditable (column : TableColumnDefinition) : Bool :=
  let normalizedType := toLowercase (trimmed column.columnType)
  if (typePrefix exactClasses exactly spatialTypeNames).isMatch normalizedType = true ∨
      column.generationExpression ≠ "" ∨
      (column.defaultValue.isSome = true ∧
        (typePrefix exactClasses exactly binaryDefaultTypeNames).isMatch normalizedType = true) ∨
      (column.defaultExpression = true ∧ isCurrentTimestampExpression column.defaultValue = false) then false
  else jsTrim (String.ofList (knownExtra column.extra)) = "" && (columnTypeValidationError column.columnType).isNone

def timestampToken (value : String) : String := String.ofList (toUppercase (trimmed value))

/-- Keeps recognized default expressions raw and quotes ordinary values. -/
def defaultLiteral (value databaseType : String) : DefaultSql :=
  if (typePrefix foldedClasses anyCase temporalDefaultTypeNames).isMatch (trimmed databaseType) = true ∧
      isCurrentTimestamp value = true then .timestamp (timestampToken value)
  else if numericType.isMatch (trimmed databaseType) = true ∧
      (numericLiteral exactClasses).isMatch (trimmed value) = true then .number (jsTrim value)
  else .literal value

def expressionDefault (value : String) : DefaultSql :=
  if isCurrentTimestamp value then .timestamp (timestampToken value) else .expression value

/-- The clauses represented by EXTRA. -/
def preservedExtraClauses (extra : String) : List Piece :=
  let text := extra.toList
  (if (autoIncrement foldedClasses).isMatch text then [.autoIncrement] else []) ++
    ((Regex.capture (onUpdatePrefix foldedClasses) (currentTimestampToken foldedClasses) text).toList.map fun token =>
      .onUpdate (String.ofList (toUppercase token))) ++
    (if (invisible foldedClasses).isMatch text then [.invisible] else [])

/-- One complete column definition for ADD or CHANGE, in pieces. An empty character set
or collation counts as none. -/
def columnPieces (column : TableColumnDefinition) : List Piece :=
  let declaration := jsTrim column.columnType
  let characterType := (typePrefix foldedClasses anyCase characterTypeNames).isMatch declaration.toList
  [.name column.name, .declaration (if declaration = "" then "VARCHAR(255)" else declaration)] ++
    (if characterType then
      (column.characterSet.filter (· ≠ "")).toList.map .characterSet ++ (column.collation.filter (· ≠ "")).toList.map .collate
    else []) ++
    (if column.generationExpression ≠ "" then
      [.generated column.generationExpression
        (if (storedGenerated foldedClasses).isMatch column.extra.toList then "STORED" else "VIRTUAL")]
    else []) ++
    [.nullability column.nullable] ++
    (if column.generationExpression = "" then
      column.defaultValue.toList.map fun value =>
        .default (if column.defaultExpression then expressionDefault value else defaultLiteral value column.columnType)
    else []) ++
    preservedExtraClauses column.extra ++
    (if column.comment ≠ "" then [.comment column.comment] else [])

def columnSql (column : TableColumnDefinition) : String := " ".intercalate ((columnPieces column).map Piece.sql)

/-- The statement of an action as the preview shows it. -/
def actionSql (database table : String) : DdlAction → String
  | .dropColumn name => "ALTER TABLE " ++ target database table ++ " DROP COLUMN " ++ quoteIdentifier name ++ ";"
  | .addColumn column => "ALTER TABLE " ++ target database table ++ " ADD COLUMN " ++ columnSql column ++ ";"
  | .changeColumn sourceName column =>
    "ALTER TABLE " ++ target database table ++ " CHANGE COLUMN " ++ quoteIdentifier sourceName ++ " " ++ columnSql column ++ ";"

/-- What one draft column comes to; what cannot be written is left out. -/
def draftAction (originalColumns : List TableColumnDefinition) (column : TableColumnDefinition) : Option DdlAction :=
  match column.sourceName with
  | none => if columnTypeValidationError column.columnType = none then some (.addColumn column) else none
  | some sourceName =>
    match originalColumns.find? (·.name = sourceName) with
    | none => none
    | some original =>
      if isStructureColumnEditable original = true ∧ columnTypeValidationError column.columnType = none ∧
          sameColumn original column = false then some (.changeColumn sourceName column)
      else none

/-- Previews the statements the visual draft describes. -/
def buildDdlStatements (database table : String) (originalColumns draftColumns : List TableColumnDefinition) : List String :=
  (dropActions originalColumns draftColumns ++ draftColumns.filterMap (draftAction originalColumns)).map
    (actionSql database table)

end Pipa.TableSql
