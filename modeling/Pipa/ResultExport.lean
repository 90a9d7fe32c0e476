import Pipa.Binlog
import Pipa.ColumnPatterns
import Pipa.QueryRunner
import Pipa.Text

/-! Query results as text: CSV, TSV and Markdown of a selection, JSON without rounding,
and INSERT statements. What JavaScript writes for a double is a parameter. -/

namespace Pipa.ResultExport
open Text ColumnPatterns

/-- A rectangle of cells between two corners, in any order. -/
structure ResultSelectionRect where
  startRow : Nat
  startCol : Nat
  endRow : Nat
  endCol : Nat
deriving DecidableEq, Repr

/-- Both corners in order. -/
def normalizeSelection (selection : ResultSelectionRect) : ResultSelectionRect where
  startRow := min selection.startRow selection.endRow
  startCol := min selection.startCol selection.endCol
  endRow := max selection.startRow selection.endRow
  endCol := max selection.startCol selection.endCol

/-- The indexes of a loop from the first to the last one. -/
def indexes (first last : Nat) : List Nat := List.range' first (last + 1 - first)

def selectedRows (selection : ResultSelectionRect) : List Nat :=
  indexes (normalizeSelection selection).startRow (normalizeSelection selection).endRow

def selectedColumns (selection : ResultSelectionRect) : List Nat :=
  indexes (normalizeSelection selection).startCol (normalizeSelection selection).endCol

/-- A cell, or nothing outside of the loaded rows. -/
def cellAt (rows : List (List CellValue)) (row column : Nat) : Option CellValue := rows[row]?.bind (·[column]?)

def columnName (columns : List QueryColumn) (column : Nat) : String := (columns[column]?.map (·.name)).getD ""

section FloatText
variable (floatText : UInt64 → String)

/-- The plain text of a cell, for the clipboard and for files. -/
def cellValueToPlainText (cell : Option CellValue) : String :=
  match cell with
  | none | some .null => "NULL"
  | some (.boolean value) => if value then "true" else "false"
  | some (.integer value) | some (.decimal value) | some (.text value) | some (.dateTime value) => value
  | some (.float bits) => floatText bits
  | some (.json value) => value
  | some (.binary _) => "[Binary]"

/-! ### Lines of fields -/

/-- `[",\n\r]` -/
def csvQuoted (c : Char) : Bool := c == '"' || c == ',' || c == '\n' || c == '\r'

def escapeCsvField (value : String) : String :=
  if value.toList.any csvQuoted = false then value else "\"" ++ replace '"' "\"\"" value ++ "\""

/-- Tabs become blanks. -/
def untabbed (value : String) : String := replace '\t' " " value

/-- The line breaks that Markdown cells lose. -/
def collapseBreaks : List Char → List Char
  | '\r' :: '\n' :: rest => ' ' :: collapseBreaks rest
  | '\n' :: rest => ' ' :: collapseBreaks rest
  | c :: rest => c :: collapseBreaks rest
  | [] => []

def escapeMarkdownCell (value : String) : String := String.ofList (collapseBreaks (replace '|' "\\|" value).toList)

/-- The selected names and cells, each escaped and put between separators. -/
def selectionLines (separator : String) (escape : String → String) (columns : List QueryColumn) (rows : List (List CellValue))
    (selection : ResultSelectionRect) (includeHeaders : Bool) : List String :=
  let columnIndexes := selectedColumns selection
  (if includeHeaders then [separator.intercalate (columnIndexes.map fun column => escape (columnName columns column))] else []) ++
    (selectedRows selection).map fun row =>
      separator.intercalate (columnIndexes.map fun column => escape (cellValueToPlainText floatText (cellAt rows row column)))

def serializeSelectionAsTsv (columns : List QueryColumn) (rows : List (List CellValue)) (selection : ResultSelectionRect)
    (includeHeaders : Bool) : String :=
  "\n".intercalate (selectionLines floatText "\t" untabbed columns rows selection includeHeaders)

def serializeSelectionAsCsv (columns : List QueryColumn) (rows : List (List CellValue)) (selection : ResultSelectionRect)
    (includeHeaders : Bool) : String :=
  "\n".intercalate (selectionLines floatText "," escapeCsvField columns rows selection includeHeaders)

/-- Cells between bars. -/
def markdownLine (cells : List String) : String := "| " ++ " | ".intercalate cells ++ " |"

def serializeSelectionAsMarkdown (columns : List QueryColumn) (rows : List (List CellValue)) (selection : ResultSelectionRect) :
    String :=
  let columnIndexes := selectedColumns selection
  let headers := columnIndexes.map fun column => escapeMarkdownCell (columnName columns column)
  let body := (selectedRows selection).map fun row =>
    markdownLine (columnIndexes.map fun column => escapeMarkdownCell (cellValueToPlainText floatText (cellAt rows row column)))
  "\n".intercalate (markdownLine headers :: markdownLine (headers.map fun _ => "---") :: body)

def serializeSelectionColumnNames (columns : List QueryColumn) (selection : ResultSelectionRect) : String :=
  "\t".intercalate ((selectedColumns selection).map (columnName columns))

/-- The names stay as they are; only the cells lose their tabs. -/
def serializeResultAsTsv (columns : List QueryColumn) (rows : List (List CellValue)) : String :=
  let header := "\t".intercalate (columns.map (·.name))
  let body := rows.map fun row =>
    "\t".intercalate ((List.range columns.length).map fun column => untabbed (cellValueToPlainText floatText row[column]?))
  "\n".intercalate (header :: body)

def serializeResultAsCsv (columns : List QueryColumn) (rows : List (List CellValue)) : String :=
  let header := ",".intercalate (columns.map fun column => escapeCsvField column.name)
  let body := rows.map fun row =>
    ",".intercalate ((List.range columns.length).map fun column => escapeCsvField (cellValueToPlainText floatText row[column]?))
  "\n".intercalate (header :: body)

/-! ### INSERT statements -/

/-- Every character under a test of its own. -/
def shape (tests : List (Char → Bool)) : Regex := .all (tests.map .char)

def digitsShape (count : Nat) : List (Char → Bool) := List.replicate count Char.isDigit

/-- `\d{4}-\d{2}-\d{2}` -/
def dateShape : List (Char → Bool) := digitsShape 4 ++ (· == '-') :: digitsShape 2 ++ (· == '-') :: digitsShape 2

/-- `:\d{2}:\d{2}` -/
def minutesShape : List (Char → Bool) := (· == ':') :: digitsShape 2 ++ (· == ':') :: digitsShape 2

/-- `(?:\.\d{1,6})?` -/
def secondFraction : Regex :=
  .optional (.any ([6, 5, 4, 3, 2, 1].map fun count => shape ((· == '.') :: digitsShape count)))

/-- `\d{4}-\d{2}-\d{2}(?: \d{2}:\d{2}:\d{2}(?:\.\d{1,6})?)?` -/
def dateText : Regex :=
  .seq (shape dateShape) (.optional (.all [symbol ' ', shape (digitsShape 2 ++ minutesShape), secondFraction]))

/-- `-?\d{1,3}:\d{2}:\d{2}(?:\.\d{1,6})?` -/
def timeText : Regex :=
  .all [.optional (symbol '-'), .any ([3, 2, 1].map fun count => shape (digitsShape count)), shape minutesShape, secondFraction]

def validTemporalValue : Regex := .seq .start (.seq (.alt dateText timeText) .finish)

/-- `^\d{4}-\d{2}-\d{2}T\d{2}:\d{2}:\d{2}` -/
def separatedTemporal : Regex := .seq .start (.all [shape dateShape, symbol 'T', shape (digitsShape 2 ++ minutesShape)])

/-- A blank instead of the letter between date and time. -/
def normalizedTemporal (value : String) : String :=
  if separatedTemporal.isMatch value.toList then String.ofList (value.toList.take 10 ++ ' ' :: value.toList.drop 11) else value

def mysqlTemporalLiteral (value : String) : String :=
  if validTemporalValue.isMatch (normalizedTemporal value).toList then "'" ++ normalizedTemporal value ++ "'"
  else mysqlStringLiteral value

/-- `^-?(?:\d+|\d*\.\d+)$` -/
def numericText : Regex :=
  .seq .start (.seq (.seq (.optional (symbol '-')) (.alt (.plus (.char Char.isDigit))
    (.all [.star (.char Char.isDigit), symbol '.', .plus (.char Char.isDigit)]))) .finish)

def startsWithAny (names : List String) (text : String) : Bool := names.any fun name => name.toList.isPrefixOf text.toList

def floatTypeNames : List String := ["float", "double", "real", "decimal", "numeric"]

def numericTypeNames : List String :=
  ["tinyint", "smallint", "mediumint", "int", "integer", "bigint", "decimal", "numeric", "float", "double", "real", "bit"]

section Locale
variable (toLowerCase : String → String)

/-- The literal of a cell for INSERT statements. -/
def cellValueToSqlLiteral (cell : Option CellValue) (databaseType : String) : String :=
  match cell with
  | none | some .null => "NULL"
  | some (.boolean value) => if value then "1" else "0"
  | some (.integer value) | some (.decimal value) => value
  | some (.float bits) =>
    if startsWithAny floatTypeNames (toLowerCase databaseType) then floatText bits else mysqlStringLiteral (floatText bits)
  | some (.json value) => mysqlStringLiteral value
  | some (.binary value) => "FROM_BASE64(" ++ mysqlStringLiteral value ++ ")"
  | some (.dateTime value) => mysqlTemporalLiteral value
  | some (.text value) =>
    if startsWithAny numericTypeNames (toLowerCase databaseType) ∧ numericText.isMatch (jsTrim value).toList = true then jsTrim value
    else mysqlStringLiteral value

/-- The columns that are named `id`, in any case. -/
def isPrimaryKey (column : QueryColumn) : Bool := toLowerCase column.name == "id"

/-- The parts of a table name between its points, without blanks and quotes around them. -/
def insertTargetParts (tableName : String) : List String :=
  ((split '.' tableName).map fun part => trimMatches (· == '\x60') (jsTrim part)).filter (!·.isEmpty)

def formatInsertTableTarget (tableName : String) : String :=
  if insertTargetParts tableName = [] then quoteIdentifier "your_table"
  else ".".intercalate ((insertTargetParts tableName).map quoteIdentifier)

/-- The indexes of the columns that the statement names. -/
def insertedColumns (columns : List QueryColumn) (includePrimaryKey : Bool) : List Nat :=
  (List.range columns.length).filter fun index =>
    includePrimaryKey || !(columns[index]?.any (isPrimaryKey toLowerCase))

def valueTuple (columns : List QueryColumn) (rows : List (List CellValue)) (columnIndexes : List Nat) (row : Nat) : String :=
  "(" ++ ", ".intercalate (columnIndexes.map fun column =>
    cellValueToSqlLiteral floatText toLowerCase (cellAt rows row column) ((columns[column]?.map (·.databaseType)).getD "")) ++ ")"

/-- One INSERT statement for the rows, or nothing without columns or rows. -/
def serializeRowsAsInsert (columns : List QueryColumn) (rows : List (List CellValue)) (tableName : String)
    (includePrimaryKey : Bool) (rowIndexes : Option (List Nat)) : String :=
  let columnIndexes := insertedColumns toLowerCase columns includePrimaryKey
  if columnIndexes = [] then ""
  else
    let target := formatInsertTableTarget tableName
    let columnList := ", ".intercalate (columnIndexes.map fun column => quoteIdentifier (columnName columns column))
    let indexes := rowIndexes.getD (List.range rows.length)
    if indexes = [] then ""
    else
      let valueTuples := indexes.map (valueTuple floatText toLowerCase columns rows columnIndexes)
      if valueTuples.length = 1 then
        "INSERT INTO " ++ target ++ " (" ++ columnList ++ ") VALUES " ++ valueTuples.headD "" ++ ";"
      else "INSERT INTO " ++ target ++ " (" ++ columnList ++ ") VALUES\n" ++ ",\n".intercalate valueTuples ++ ";"

end Locale

/-! ### JSON -/

/-- A double with an exponent field of its own for infinities and what is no number. -/
def isFiniteBits (bits : UInt64) : Bool := (bits >>> 52) &&& 0x7FF != 0x7FF

/-- What a character becomes inside of a JSON string. -/
def jsonEscape (c : Char) : List Char :=
  if c = '"' then ['\\', '"']
  else if c = '\\' then ['\\', '\\']
  else if c = '\x08' then ['\\', 'b']
  else if c = '\x0C' then ['\\', 'f']
  else if c = '\n' then ['\\', 'n']
  else if c = '\r' then ['\\', 'r']
  else if c = '\t' then ['\\', 't']
  else if c.toNat < 32 then ['\\', 'u', '0', '0', Nat.digitChar (c.toNat / 16), Nat.digitChar (c.toNat % 16)]
  else [c]

/-- ECMAScript's `JSON.stringify` of a text. -/
def stringifyText (text : String) : String := "\"" ++ String.ofList (text.toList.flatMap jsonEscape) ++ "\""

def cellValueToJsonLiteral (cell : Option CellValue) : String :=
  match cell with
  | none | some .null => "null"
  | some (.boolean value) => if value then "true" else "false"
  | some (.float bits) => if isFiniteBits bits then floatText bits else "null"
  | some (.json value) => value
  | some (.integer value) | some (.decimal value) | some (.text value) | some (.dateTime value) | some (.binary value) =>
    stringifyText value

def jsonField (columns : List QueryColumn) (rows : List (List CellValue)) (row column : Nat) : String :=
  "  " ++ stringifyText ((columns[column]?.map (·.name)).getD ("column_" ++ toString column)) ++ ": " ++
    cellValueToJsonLiteral floatText (cellAt rows row column)

def jsonObject (columns : List QueryColumn) (rows : List (List CellValue)) (columnIndexes : List Nat) (row : Nat) : String :=
  "\x7b\n" ++ ",\n".intercalate (columnIndexes.map (jsonField floatText columns rows row)) ++ "\n\x7d"

/-- Two blanks in front of every line. -/
def indented (text : String) : String := "\n".intercalate ((split '\n' text).map ("  " ++ ·))

/-- One value, one object, or an array of objects. -/
def serializeSelectionAsJson (columns : List QueryColumn) (rows : List (List CellValue)) (selection : ResultSelectionRect) :
    String :=
  let bounds := normalizeSelection selection
  let columnIndexes := selectedColumns selection
  if bounds.startRow = bounds.endRow ∧ columnIndexes.length = 1 then
    cellValueToJsonLiteral floatText (cellAt rows bounds.startRow (columnIndexes.headD 0))
  else
    let objects := (selectedRows selection).map (jsonObject floatText columns rows columnIndexes)
    if objects.length = 1 then objects.headD "\x7b\x7d"
    else "[\n" ++ ",\n".intercalate (objects.map indented) ++ "\n]"

end FloatText

/-! ### Formatting JSON -/

/-- The formatted text so far, the depth of its brackets, and whether it is inside of a
string or behind a backslash there. -/
structure FormatState where
  result : List Char
  depth : Nat
  inString : Bool
  escaped : Bool
deriving DecidableEq, Repr

def lineAt (depth : Nat) : List Char := '\n' :: List.replicate (2 * depth) ' '

def formatStep (state : FormatState) (c : Char) : FormatState :=
  if state.inString then
    { state with
      result := state.result ++ [c]
      escaped := !state.escaped && c == '\\'
      inString := state.escaped || c != '"' }
  else if c = '"' then { state with result := state.result ++ [c], inString := true }
  else if c = '\x7b' ∨ c = '[' then
    { state with result := state.result ++ c :: lineAt (state.depth + 1), depth := state.depth + 1 }
  else if c = '\x7d' ∨ c = ']' then
    { state with
      result := state.result.rdropWhile isJsWhitespace ++ lineAt (state.depth - 1) ++ [c]
      depth := state.depth - 1 }
  else if c = ',' then { state with result := state.result ++ ',' :: lineAt state.depth }
  else if c = ':' then { state with result := state.result ++ [':', ' '] }
  else if isJsWhitespace c then state
  else { state with result := state.result ++ [c] }

/-- Lays out JSON without parsing it. -/
def formatJsonText (value : String) : String :=
  String.ofList (value.toList.foldl formatStep ⟨[], 0, false, false⟩).result

end Pipa.ResultExport

/-! Exporting a whole table: the query that reads it, and the file that its result becomes. -/

namespace Pipa.TableExport
open ResultExport

inductive TableExportAction where
  | exportCsv | exportJson | exportSql
deriving DecidableEq, Repr

structure TableQueryResult where
  columns : List QueryColumn
  rows : List (List CellValue)
deriving DecidableEq, Repr

structure TableExportFile where
  content : String
  fileName : String
  mimeType : String
  label : String
deriving DecidableEq, Repr

def buildSelectAllStatement (database tableName : String) : String :=
  "SELECT * FROM " ++ quoteIdentifier database ++ "." ++ quoteIdentifier tableName ++ ";"

/-- `[\w\u4e00-\u9fff]` -/
def isNameCharacter (c : Char) : Bool := c.isAlphanum || c == '_' || (0x4E00 ≤ c.toNat && c.toNat ≤ 0x9FFF)

/-- Every run of characters that are not safe in a file name becomes one `_`. -/
def sanitized : Bool → List Char → List Char
  | _, [] => []
  | inRun, c :: rest =>
    if isNameCharacter c || c == '.' || c == '-' then c :: sanitized false rest
    else if inRun then sanitized true rest
    else '_' :: sanitized true rest

def tableExportFileBase (database tableName : String) : String :=
  let base := (sanitized false (database ++ "-" ++ tableName).toList).take 80
  if base.any isNameCharacter then String.ofList base else "table"

section Platform
variable (floatText : UInt64 → String) (toLowerCase : String → String)

/-- The rectangle of a whole result. -/
def wholeSelection (result : TableQueryResult) : ResultSelectionRect where
  startRow := 0
  startCol := 0
  endRow := result.rows.length - 1
  endCol := result.columns.length - 1

def insertContent (database tableName : String) (result : TableQueryResult) : String :=
  serializeRowsAsInsert floatText toLowerCase result.columns result.rows (database ++ "." ++ tableName) true none

def buildTableExportFile (action : TableExportAction) (database tableName : String) (result : TableQueryResult) :
    TableExportFile :=
  let fileBase := tableExportFileBase database tableName
  match action with
  | .exportCsv => {
      content := serializeResultAsCsv floatText result.columns result.rows
      fileName := fileBase ++ ".csv"
      mimeType := "text/csv;charset=utf-8"
      label := "CSV" }
  | .exportJson => {
      content :=
        if 0 < result.rows.length ∧ 0 < result.columns.length then
          serializeSelectionAsJson floatText result.columns result.rows (wholeSelection result)
        else "[]"
      fileName := fileBase ++ ".json"
      mimeType := "application/json;charset=utf-8"
      label := "JSON" }
  | .exportSql => {
      content :=
        if insertContent floatText toLowerCase database tableName result = "" then
          "-- " ++ database ++ "." ++ tableName ++ " 暂无可导出的数据\n"
        else insertContent floatText toLowerCase database tableName result
      fileName := fileBase ++ ".sql"
      mimeType := "application/sql;charset=utf-8"
      label := "SQL INSERT" }

end Platform

end Pipa.TableExport
