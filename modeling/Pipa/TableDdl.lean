import Pipa.ColumnPatterns
import Pipa.Text
import Pipa.TableColumn

/-! The structure editor's DDL as the backend compiles it: the column definitions, piece
by piece, and the plan of statements that change a table into its draft. -/

namespace Pipa.TableDdl
open Text ColumnPatterns

/-- The Unicode tables of the regex crate behind `\d` and `\b`, with what is documented
of them: they extend the ASCII classes, letters are words, digits are words, and
whitespace and the byte order mark are not. -/
structure RegexTables where
  digit : Char → Bool
  word : Char → Bool
  digit_ascii : ∀ c, c.toNat < 128 → digit c = c.isDigit
  word_ascii : ∀ c, c.toNat < 128 → word c = isAsciiWord c
  word_folded : ∀ c, isFoldedWord c = true → word c = true
  digit_word : ∀ c, digit c = true → word c = true
  word_not_space : ∀ c, word c = true → isWhitespace c = false
  word_not_mark : word '\uFEFF' = false

/-- The tables of an engine that knows only ASCII and what folds to it. -/
def asciiTables : RegexTables where
  digit := Char.isDigit
  word := isFoldedWord
  digit_ascii _ _ := rfl
  word_ascii c ascii := by
    have long : (c == '\u017F') = false := beq_eq_false_iff_ne.mpr fun same => by simp [same] at ascii
    have kelvin : (c == '\u212A') = false := beq_eq_false_iff_ne.mpr fun same => by simp [same] at ascii
    simp [isFoldedWord, long, kelvin]
  word_folded _ folded := folded
  digit_word c digit := by simp [isFoldedWord, isAsciiWord, Char.isAlphanum, digit]
  word_not_space c word := by
    have codes := (foldedWord_iff c).mp word
    simp only [isWhitespace, Bool.or_eq_false_iff, Bool.and_eq_false_iff, decide_eq_false_iff_not, beq_eq_false_iff_ne]
    omega
  word_not_mark := rfl

variable (tables : RegexTables)

def RegexTables.classes : PatternClasses := { space := isWhitespace, digit := tables.digit, word := tables.word }

def trimmed (text : String) : List Char := (trim text).toList

/-- Why one type declaration cannot be emitted by the visual editor. -/
def columnTypeValidationError (databaseType : String) : Option String :=
  if (safeColumnType tables.classes).isMatch (trimmed databaseType) then none
  else some "字段类型包含可视化编辑器不支持的复杂语法，请使用显式 ALTER TABLE"

def isCurrentTimestamp (value : String) : Bool := (currentTimestamp tables.classes).isMatch (trimmed value)

def isCurrentTimestampExpression (value : Option String) : Bool := value.any (isCurrentTimestamp tables)

/-- `(?i)\bon update CURRENT_TIMESTAMP(?:\(\d*\))?(?:[^A-Za-z0-9_]|$)`: it takes the
character behind the token. -/
def knownOnUpdate : Regex :=
  .seq (onUpdate tables.classes) (.alt (.char fun c => !isFoldedWord c) .finish)

/-- What is left of EXTRA when every clause the generator can reproduce is removed. -/
def unknownExtra (extra : String) : List Char :=
  [defaultGenerated tables.classes, autoIncrement tables.classes, generatedStorage tables.classes,
    invisible tables.classes, knownOnUpdate tables].foldl (fun left pattern => pattern.removeAll left) extra.toList

/-- Whether the visual editor may rewrite one existing column. -/
def isStructureColumnEditable (column : TableColumnDefinition) : Bool :=
  let normalizedType := toLowercase (trimmed column.columnType)
  if (typePrefix tables.classes anyCase spatialTypeNames).isMatch normalizedType = true ∨
      column.generationExpression ≠ "" ∨
      (column.defaultValue.isSome = true ∧
        (typePrefix tables.classes anyCase binaryDefaultTypeNames).isMatch normalizedType = true) ∨
      (column.defaultExpression = true ∧ isCurrentTimestampExpression tables column.defaultValue = false) then false
  else
    trim (String.ofList (unknownExtra tables column.extra)) = "" && (columnTypeValidationError tables column.columnType).isNone

/-! ### Column definitions -/

/-- A default as it is rendered: the current timestamp, a number, a string literal of the
value, or an expression in parentheses. -/
inductive DefaultSql where
  | timestamp (token : String)
  | number (text : String)
  | literal (value : String)
  | expression (value : String)
deriving DecidableEq, Repr

def DefaultSql.sql : DefaultSql → String
  | .timestamp token => token
  | .number text => text
  | .literal value => mysqlStringLiteral value
  | .expression value => "(" ++ value ++ ")"

def timestampToken (value : String) : String := String.ofList (toUppercase (trimmed value))

/-- Encodes a literal default for its column type. -/
def defaultLiteral (value databaseType : String) : DefaultSql :=
  let declaration := trimmed databaseType
  if (typePrefix tables.classes anyCase temporalDefaultTypeNames).isMatch declaration = true ∧
      isCurrentTimestamp tables value = true then .timestamp (timestampToken value)
  else if numericType.isMatch declaration = true ∧ (numericLiteral tables.classes).isMatch (trimmed value) = true then
    .number (trim value)
  else .literal value

/-- Reconstructs a server expression default, preserving the timestamp shorthand. -/
def expressionDefault (value : String) : DefaultSql :=
  if isCurrentTimestamp tables value then .timestamp (timestampToken value) else .expression value

/-- One piece of a column definition. -/
inductive Piece where
  | name (identifier : String)
  | declaration (text : String)
  | characterSet (identifier : String)
  | collate (identifier : String)
  | generated (expression storage : String)
  | nullability (nullable : Bool)
  | default (value : DefaultSql)
  | autoIncrement
  | onUpdate (token : String)
  | invisible
  | comment (text : String)
deriving DecidableEq, Repr

def Piece.sql : Piece → String
  | .name identifier => quoteIdentifier identifier
  | .declaration text => text
  | .characterSet identifier => "CHARACTER SET " ++ quoteIdentifier identifier
  | .collate identifier => "COLLATE " ++ quoteIdentifier identifier
  | .generated expression storage => "GENERATED ALWAYS AS (" ++ expression ++ ") " ++ storage
  | .nullability nullable => if nullable then "NULL" else "NOT NULL"
  | .default value => "DEFAULT " ++ value.sql
  | .autoIncrement => "AUTO_INCREMENT"
  | .onUpdate token => "ON UPDATE " ++ token
  | .invisible => "INVISIBLE"
  | .comment text => "COMMENT " ++ mysqlStringLiteral text

/-- The column clauses the generator can reproduce from EXTRA. -/
def preservedExtraClauses (extra : String) : List Piece :=
  let text := extra.toList
  (if (autoIncrement tables.classes).isMatch text then [.autoIncrement] else []) ++
    ((Regex.capture (onUpdatePrefix tables.classes) (currentTimestampToken tables.classes) text).toList.map fun token =>
      .onUpdate (String.ofList (toUppercase token))) ++
    (if (invisible tables.classes).isMatch text then [.invisible] else [])

/-- One complete column definition for ADD or CHANGE, in pieces. -/
def columnPieces (column : TableColumnDefinition) : List Piece :=
  let declaration := trim column.columnType
  let characterType := (typePrefix tables.classes anyCase characterTypeNames).isMatch declaration.toList
  [.name column.name, .declaration (if declaration = "" then "VARCHAR(255)" else declaration)] ++
    (if characterType then column.characterSet.toList.map .characterSet ++ column.collation.toList.map .collate else []) ++
    (if column.generationExpression ≠ "" then
      [.generated column.generationExpression
        (if (storedGenerated tables.classes).isMatch column.extra.toList then "STORED" else "VIRTUAL")]
    else []) ++
    [.nullability column.nullable] ++
    (if column.generationExpression = "" then
      column.defaultValue.toList.map fun value =>
        .default (if column.defaultExpression then expressionDefault tables value
          else defaultLiteral tables value column.columnType)
    else []) ++
    preservedExtraClauses tables column.extra ++
    (if column.comment ≠ "" then [.comment column.comment] else [])

def columnSql (column : TableColumnDefinition) : String := " ".intercalate ((columnPieces tables column).map Piece.sql)

/-! ### The plan -/

/-- Compares every field the visual structure editor can reconstruct. -/
def sameColumn (left right : TableColumnDefinition) : Bool :=
  left.name == right.name && left.columnType == right.columnType && left.nullable == right.nullable &&
    left.defaultValue == right.defaultValue && left.defaultExpression == right.defaultExpression &&
    left.comment == right.comment && left.extra == right.extra && left.characterSet == right.characterSet &&
    left.collation == right.collation && left.generationExpression == right.generationExpression

/-- One action on the table. -/
inductive DdlAction where
  | dropColumn (name : String)
  | addColumn (column : TableColumnDefinition)
  | changeColumn (sourceName : String) (column : TableColumnDefinition)
deriving DecidableEq, Repr

def target (database table : String) : String := quoteIdentifier database ++ "." ++ quoteIdentifier table

/-- The statement of an action as it is emitted. -/
def DdlAction.sql (database table : String) : DdlAction → String
  | .dropColumn name => "ALTER TABLE " ++ target database table ++ " DROP COLUMN " ++ quoteIdentifier name ++ ";"
  | .addColumn column => "ALTER TABLE " ++ target database table ++ " ADD COLUMN " ++ columnSql tables column ++ ";"
  | .changeColumn sourceName column =>
    "ALTER TABLE " ++ target database table ++ " CHANGE COLUMN " ++ quoteIdentifier sourceName ++ " " ++
      columnSql tables column ++ ";"

structure TableDdlPlan where
  statements : List String
  errors : List String
deriving DecidableEq, Repr

def dropActions (originalColumns draftColumns : List TableColumnDefinition) : List DdlAction :=
  let retainedSourceNames := draftColumns.filterMap (·.sourceName)
  (originalColumns.filter fun column => column.name ∉ retainedSourceNames).map fun column => .dropColumn column.name

/-- What one draft column comes to: an action, an error, or nothing where it names no
original or does not change it. -/
def draftAction (originalColumns : List TableColumnDefinition) (column : TableColumnDefinition) :
    Except String (Option DdlAction) :=
  match column.sourceName with
  | none =>
    match columnTypeValidationError tables column.columnType with
    | none => .ok (some (.addColumn column))
    | some reason => .error s!"{column.name}：{reason}"
  | some sourceName =>
    match originalColumns.find? (·.name = sourceName) with
    | none => .ok none
    | some original =>
      if sameColumn original column then .ok none
      else if isStructureColumnEditable tables original = false then
        .error s!"{sourceName}：该列包含可视化编辑器无法重建的定义，请使用显式 ALTER TABLE"
      else
        match columnTypeValidationError tables column.columnType with
        | some reason => .error s!"{column.name}：{reason}"
        | none => .ok (some (.changeColumn sourceName column))

/-- Drops come first, then the drafts in order. -/
def planActions (originalColumns draftColumns : List TableColumnDefinition) : List DdlAction :=
  dropActions originalColumns draftColumns ++
    draftColumns.filterMap fun column => (draftAction tables originalColumns column).toOption.join

/-- Compiles the visual structure edits into ordered MySQL DDL. -/
def buildTableDdlPlan (database table : String) (originalColumns draftColumns : List TableColumnDefinition) :
    TableDdlPlan where
  statements := (planActions tables originalColumns draftColumns).map (DdlAction.sql tables database table)
  errors := (draftColumns.filterMap fun column =>
    match draftAction tables originalColumns column with
    | .error error => some error
    | .ok _ => none).eraseDups

end Pipa.TableDdl
