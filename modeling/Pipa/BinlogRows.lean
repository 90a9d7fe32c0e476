import Pipa.BinlogParser
import Pipa.Library.Base64
import Pipa.Text

/-! Decoding of rows events: the change that a rows event of the wire comes to, with
the row images of the table map that was in force, and the diagnostics it gives rise to. -/

namespace Pipa

/-- The wire variants of a rows event. -/
inductive RowsEventKind where
  | writeRowsV1 | writeRows
  | updateRowsV1 | updateRows | partialUpdateRows
  | deleteRowsV1 | deleteRows
deriving DecidableEq, Repr

/-- A table map event. `columnNames` is nothing where its optional metadata cannot be
decoded, and holds nothing for a name that cannot. -/
structure TableMap where
  databaseName : String
  tableName : String
  columnNames : Option (List (Option String))
deriving DecidableEq, Repr

/-- A protocol value of a logged column. A double is carried by its bit pattern. -/
inductive MysqlValue where
  | null
  | bytes (bytes : List UInt8)
  | int (value : Int)
  | uint (value : Nat)
  | float (bits : UInt32)
  | double (bits : UInt64)
  | date (year month day hour minute second micros : Nat)
  | time (negative : Bool) (days hours minutes seconds micros : Nat)
deriving DecidableEq, Repr

/-- A logged value; `jsonDiff` is a partial update of a JSON value. -/
inductive BinlogValue (Jsonb : Type) where
  | value (value : MysqlValue)
  | jsonb (value : Jsonb)
  | jsonDiff
deriving DecidableEq, Repr

/-- The column types that decoding tells apart. -/
inductive MysqlColumnType where
  | timestamp | timestamp2 | newDecimal | year
  | other (isCharacterType : Bool)
deriving DecidableEq, Repr

structure MysqlColumn where
  columnType : MysqlColumnType
  characterSet : Nat
deriving DecidableEq, Repr

/-- What decoding uses of the packages outside this repository: the text of a binary JSON
value and the charset of a collation. -/
structure ValueLibrary (Jsonb : Type) where
  jsonText : Jsonb → Option String
  charset : Nat → String

/-- The rows events of the decoder outside this repository. A row image is its compact
list of logged values, each with its column; `none` in `rows` is a row that fails to decode. -/
structure RowsEvents (Reader Rows Value : Type) where
  kind : Rows → RowsEventKind
  numColumns : Rows → Nat
  columnsBeforeImage : Rows → Option (List Bool)
  columnsAfterImage : Rows → Option (List Bool)
  tableMap : Reader → Rows → Option TableMap
  rows : TableMap → Rows → List (Option (Option (List Value) × Option (List Value)))
  decodeBinlogValue : Value → BinlogCell

namespace BinlogRows
open BinlogParser Text

/-- Maps every wire variant to its user-facing operation. -/
def rowsOperation : RowsEventKind → BinlogOperation
  | .writeRowsV1 | .writeRows => .insert
  | .updateRowsV1 | .updateRows | .partialUpdateRows => .update
  | .deleteRowsV1 | .deleteRows => .delete

def fallbackColumnNames (numColumns : Nat) : List String :=
  (List.range numColumns).map fun index => s!"@{index + 1}"

/-- The column names of the metadata, with one-based placeholders for missing ones. -/
def tableColumnNames (tableMap : TableMap) (numColumns : Nat) (location : EventLocation) :
    List String × List BinlogDiagnostic :=
  match tableMap.columnNames with
  | none =>
    (fallbackColumnNames numColumns, [locatedWarning "optional_metadata_decode_failed"
      "TableMap optional metadata could not be decoded; placeholder columns are used" location])
  | some read =>
    let names := (read.mapM id).getD []
    let names := (names ++ List.replicate (numColumns - names.length) "").take numColumns
    (names.mapIdx fun index name => if name.isEmpty then s!"@{index + 1}" else name, [])

section Values

/-- Preserves an undecoded byte sequence while marking it unsafe for Reset SQL. -/
def rawPartialCell (bytes : List UInt8) (message : String) : BinlogCell :=
  .partialValue (.binary (String.ofList (Base64.encode bytes))) (some message)

/-- Validates the unsigned fixed-point form emitted for MySQL TIMESTAMP values. -/
def validUnixSeconds (value : String) : Bool :=
  match value.toList.splitOn '.' with
  | [seconds] => seconds ≠ [] && seconds.all Char.isDigit
  | [seconds, fraction] => (seconds ≠ [] && seconds.all Char.isDigit) && (fraction ≠ [] && fraction.all Char.isDigit)
  | _ => false

/-- Decimal Unix seconds, or the error that says why there are none. -/
def unixSeconds : MysqlValue → Except String String
  | .int value => if 0 ≤ value then .ok (toString value) else .error "The TIMESTAMP value has an unsupported wire representation"
  | .uint value => .ok (toString value)
  | .bytes bytes =>
    match fromUtf8 bytes with
    | some value => .ok value
    | none => .error "The TIMESTAMP value is not valid decimal Unix seconds"
  | _ => .error "The TIMESTAMP value has an unsupported wire representation"

/-- Retains MySQL TIMESTAMP values as decimal Unix seconds. -/
def decodeMysqlTimestamp (value : MysqlValue) : BinlogCell :=
  match unixSeconds value with
  | .error message => .decodeError message
  | .ok value =>
    if validUnixSeconds value then .unixTimestamp value
    else .decodeError "The TIMESTAMP value is not valid decimal Unix seconds"

/-- Formats a possibly zero MySQL date. -/
def formatMysqlDate (year month day hour minute second micros : Nat) : String :=
  let base := zeroPadded 4 year ++ "-" ++ zeroPadded 2 month ++ "-" ++ zeroPadded 2 day ++ " " ++ zeroPadded 2 hour ++ ":" ++
    zeroPadded 2 minute ++ ":" ++ zeroPadded 2 second
  if micros = 0 then base else base ++ "." ++ zeroPadded 6 micros

/-- Formats MySQL time values including negative and multi-day durations. -/
def formatMysqlTime (negative : Bool) (days hours minutes seconds micros : Nat) : String :=
  let base := (if negative then "-" else "") ++ zeroPadded 2 (days * 24 + hours) ++ ":" ++ zeroPadded 2 minutes ++ ":" ++
    zeroPadded 2 seconds
  if micros = 0 then base else base ++ "." ++ zeroPadded 6 micros

/-- The double that equals a finite single. -/
def widen (bits : UInt32) : UInt64 :=
  let sign := bits.toNat / 2 ^ 31
  let exponent := bits.toNat / 2 ^ 23 % 2 ^ 8
  let fraction := bits.toNat % 2 ^ 23
  let magnitude :=
    if exponent ≠ 0 then (exponent + 896) * 2 ^ 52 + fraction * 2 ^ 29
    else if fraction = 0 then 0
    else (fraction.log2 + 874) * 2 ^ 52 + (fraction - 2 ^ fraction.log2) * 2 ^ (52 - fraction.log2)
  UInt64.ofNat (sign * 2 ^ 63 + magnitude)

/-- Rust's text of an infinity or of no number. -/
def nonFiniteText (negative : Bool) (fraction : Nat) : String :=
  if fraction ≠ 0 then "NaN" else if negative then "-inf" else "inf"

section Decoding
variable {Jsonb : Type} (library : ValueLibrary Jsonb)

/-- Decodes UTF-compatible character data and retains every other charset. -/
def decodeCharacterBytes (bytes : List UInt8) (characterSet : Nat) : BinlogCell :=
  if characterSet = 63 then .value (.binary (String.ofList (Base64.encode bytes)))
  else
    let charset := library.charset characterSet
    if charset = "ascii" ∨ charset = "utf8mb3" ∨ charset = "utf8mb4" then
      match fromUtf8 bytes with
      | some value => .value (.text value)
      | none => rawPartialCell bytes "Character data did not match its declared UTF encoding; raw bytes were retained"
    else
      rawPartialCell bytes (if charset = "unknown" then "Character-set metadata is unavailable; raw bytes were retained"
        else s!"Character data uses {charset}; raw bytes were retained")

/-- Interprets byte-backed wire values only when their type metadata is unambiguous. -/
def decodeBytes (bytes : List UInt8) (column : MysqlColumn) : BinlogCell :=
  match column.columnType with
  | .newDecimal =>
    match fromUtf8 bytes with
    | some value => .value (.decimal value)
    | none => rawPartialCell bytes "The decimal value was retained as raw bytes"
  | .year =>
    match fromUtf8 bytes with
    | some value => .value (.text value)
    | none => rawPartialCell bytes "The YEAR value was retained as raw bytes"
  | .other true => decodeCharacterBytes library bytes column.characterSet
  | _ => .value (.binary (String.ofList (Base64.encode bytes)))

/-- A value that is neither NULL nor of a TIMESTAMP column. -/
def decodePlainValue (column : MysqlColumn) : MysqlValue → BinlogCell
  | .null => .null
  | .int value => .value (.integer (toString value))
  | .uint value => .value (.integer (toString value))
  | .float bits =>
    if bits.toNat / 2 ^ 23 % 2 ^ 8 ≠ 2 ^ 8 - 1 then .value (.float (widen bits))
    else .value (.text (nonFiniteText (2 ^ 31 ≤ bits.toNat) (bits.toNat % 2 ^ 23)))
  | .double bits =>
    if bits.toNat / 2 ^ 52 % 2 ^ 11 ≠ 2 ^ 11 - 1 then .value (.float bits)
    else .value (.text (nonFiniteText (2 ^ 63 ≤ bits.toNat) (bits.toNat % 2 ^ 52)))
  | .date year month day hour minute second micros =>
    .value (.dateTime (formatMysqlDate year month day hour minute second micros))
  | .time negative days hours minutes seconds micros =>
    .value (.dateTime (formatMysqlTime negative days hours minutes seconds micros))
  | .bytes bytes => decodeBytes library bytes column

/-- Maps a protocol value without numeric precision loss or lossy binary decoding. -/
def decodeMysqlValue (value : MysqlValue) (column : MysqlColumn) : BinlogCell :=
  if value = .null then .null
  else if column.columnType = .timestamp ∨ column.columnType = .timestamp2 then decodeMysqlTimestamp value
  else decodePlainValue library column value

/-- Converts one logged value, with its column, into the shared transport type. -/
def decodeBinlogValue : BinlogValue Jsonb × MysqlColumn → BinlogCell
  | (.value value, column) => decodeMysqlValue library value column
  | (.jsonb value, _) =>
    match library.jsonText value with
    | some text => .value (.json text)
    | none => .decodeError "The binary JSON value could not be decoded"
  | (.jsonDiff, _) => .decodeError "A partial JSON update is not materialized in this version"

end Decoding

end Values

section Images
variable {Value : Type}

/-- Whether the bitmap logs the column at this index. -/
def isPresent (present : List Bool) (index : Nat) : Bool := present[index]?.getD false

/-- The columns from an index on, with the compact values that are left. -/
def expandColumns (decode : Value → BinlogCell) (present : List Bool) : Nat → List String → List Value → RowImage → RowImage
  | _, [], _, image => image
  | index, column :: columns, values, image =>
    if isPresent present index then
      match values with
      | value :: values => expandColumns decode present (index + 1) columns values (image.insert column (decode value))
      | [] =>
        expandColumns decode present (index + 1) columns []
          (image.insert column (.decodeError "The row image is missing a logged column value"))
    else expandColumns decode present (index + 1) columns values (image.insert column .notLogged)

/-- Expands a compact row back to the full bitmap width. -/
def expandRowImage (decode : Value → BinlogCell) (row : List Value) (present : List Bool) (columnNames : List String) :
    RowImage :=
  expandColumns decode present 0 columnNames row ∅

/-- Marks every logged column as a decode error. -/
def failedRowImage (present : List Bool) (columnNames : List String) (message : String) : RowImage :=
  (columnNames.mapIdx fun index column =>
    (column, if isPresent present index then BinlogCell.decodeError message else .notLogged)).foldl
      (fun image entry => image.insert entry.1 entry.2) ∅

end Images

section Decoding
variable {Reader Rows Value : Type} (mysql : RowsEvents Reader Rows Value)

/-- The decoded rows up to the first one that fails, which is the last. -/
def decodeRows (before after : Option (List Bool)) (columns : List String) (location : EventLocation) :
    List (Option (Option (List Value) × Option (List Value))) → List BinlogRowChange × List BinlogDiagnostic
  | [] => ([], [])
  | some (old, new) :: rest =>
    let (changes, diagnostics) := decodeRows before after columns location rest
    ({ before := old.map fun row => expandRowImage mysql.decodeBinlogValue row (before.getD []) columns
       after := new.map fun row => expandRowImage mysql.decodeBinlogValue row (after.getD []) columns } :: changes,
      diagnostics)
  | none :: _ =>
    let message := "The logged row image could not be decoded"
    ([{ before := before.map fun present => failedRowImage present columns message
        after := after.map fun present => failedRowImage present columns message }],
      [locatedWarning "row_decode_failed" message location])

/-- Decodes one rows event using its exact matching table map. -/
def decodeRowsEvent (reader : Reader) (rows : Rows) (location : EventLocation) : BinlogChange × List BinlogDiagnostic :=
  let operation := rowsOperation (mysql.kind rows)
  let numColumns := mysql.numColumns rows
  match mysql.tableMap reader rows with
  | none =>
    ({ database := ""
       table := ""
       operation
       rowCount := 0
       columns := fallbackColumnNames numColumns
       rows := []
       tableConfidence := .unknown
       sql := none },
      [locatedWarning "missing_table_map" "A row event has no matching TableMap event" location])
  | some tableMap =>
    let (columns, unnamed) := tableColumnNames tableMap numColumns location
    let (decoded, undecoded) := decodeRows mysql (mysql.columnsBeforeImage rows) (mysql.columnsAfterImage rows) columns
      location (mysql.rows tableMap rows)
    ({ database := tableMap.databaseName
       table := tableMap.tableName
       operation
       rowCount := decoded.length
       columns
       rows := decoded
       tableConfidence := .exact
       sql := none },
      unnamed ++ undecoded)

/-- A rows event is never data definition. -/
theorem decodeRowsEvent_operation (reader : Reader) (rows : Rows) (location : EventLocation) :
    (decodeRowsEvent mysql reader rows location).1.operation ≠ .ddl := by
  have mapped : rowsOperation (mysql.kind rows) ≠ .ddl := by
    cases mysql.kind rows <;> exact nofun
  rw [decodeRowsEvent]
  cases mysql.tableMap reader rows with
  | none => exact mapped
  | some tableMap => exact mapped

end Decoding

end BinlogRows

end Pipa
