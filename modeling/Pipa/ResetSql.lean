import Pipa.Binlog
import Pipa.Text

/-! Reviewable reset SQL: each committed row mutation is reversed by one statement,
in reverse order, and every row that cannot be reversed leaves a warning. -/

namespace Pipa

/-- The conversions of foreign crates and of float formatting that literals use:
`BigDecimal::from_str`, base64 decoding, and the display of a finite double. -/
structure ResetCodec where
  parseDecimal : String → Option Rat
  decodeBase64 : String → Option (List UInt8)
  displayFloat : UInt64 → String

/-- One statement of the output, with its literals in SQL text. -/
inductive ResetStatement where
  | delete (database table : String) (predicates : List (String × String))
  | update (database table : String) (assignments predicates : List (String × String))
  | insert (database table : String) (values : List (String × String))
deriving DecidableEq, Repr

namespace ResetStatement

def qualified (database table : String) : String := s!"{quoteIdentifier database}.{quoteIdentifier table}"

def assigned (values : List (String × String)) : String :=
  ", ".intercalate (values.map fun pair => s!"{quoteIdentifier pair.1} = {pair.2}")

def constrained (values : List (String × String)) : String :=
  " AND ".intercalate (values.map fun pair => s!"{quoteIdentifier pair.1} <=> {pair.2}")

/-- The statement as it is emitted. -/
def sql : ResetStatement → String
  | .delete database table predicates =>
    s!"DELETE FROM {qualified database table} WHERE {constrained predicates} LIMIT 1;"
  | .update database table assignments predicates =>
    s!"UPDATE {qualified database table} SET {assigned assignments} WHERE {constrained predicates} LIMIT 1;"
  | .insert database table values =>
    let columns := ", ".intercalate (values.map fun pair => quoteIdentifier pair.1)
    let literals := ", ".intercalate (values.map Prod.snd)
    s!"INSERT INTO {qualified database table} ({columns}) VALUES ({literals});"

end ResetStatement

structure BinlogResetSql where
  sql : String
  statementCount : Nat
  complete : Bool
  warnings : List String
deriving DecidableEq, Repr

namespace ResetSql

def maxResetStatements : Nat := 10000
def maxResetWarnings : Nat := 100

/-- Output retained while row mutations are visited in reverse order. -/
structure ResetSqlBuilder where
  statements : List ResetStatement := []
  warnings : List String := []
  warningsTruncated : Bool := false

namespace ResetSqlBuilder

/-- Adds one safe diagnostic without allowing malformed logs to create unbounded feedback. -/
def pushWarning (self : ResetSqlBuilder) (warning : String) : ResetSqlBuilder :=
  if self.warnings.length < maxResetWarnings then { self with warnings := self.warnings ++ [warning] }
  else if self.warningsTruncated then self
  else
    { self with
      warningsTruncated := true
      warnings := self.warnings ++ ["Additional reset SQL warnings were omitted"] }

/-- Adds one statement within the copy-size bound; tells whether it was added. -/
def pushStatement (self : ResetSqlBuilder) (statement : ResetStatement) : Bool × ResetSqlBuilder :=
  if self.statements.length ≥ maxResetStatements then
    (false, self.pushWarning s!"Reset SQL was truncated after {maxResetStatements} statements")
  else (true, { self with statements := self.statements ++ [statement] })

end ResetSqlBuilder

/-- Whether a row-image cell was present in the physical event. -/
def isRecorded : Option BinlogCell → Bool
  | none | some .notLogged => false
  | some _ => true

/-- Whether a cell can be serialized into an exact SQL literal. -/
def isSqlValue : Option BinlogCell → Bool
  | some .null | some (.value _) | some (.unixTimestamp _) => true
  | _ => false

/-- Parser placeholders such as `@1` are not source column names. -/
def placeholderColumn (column : String) : Bool :=
  match column.toList with
  | '@' :: suffix => !suffix.isEmpty && suffix.all Char.isDigit
  | _ => false

def isUnusable : BinlogCell → Bool
  | .decodeError _ | .partialValue _ _ => true
  | _ => false

/-- An early return with an error. -/
def refuse (refused : Bool) (reason : String) : Except String Unit :=
  if refused then .error reason else .ok ()

/-- Rejects cells that were logged but not decoded. -/
def rejectUnusableLoggedCells (image : RowImage) : Except String Unit :=
  refuse (image.values.any isUnusable) "a logged column could not be decoded completely"

def hexDigit (digit : Nat) : Char := "0123456789ABCDEF".toList.getD digit '0'

/-- Uppercase hexadecimal. -/
def hex (bytes : List UInt8) : String :=
  String.ofList (bytes.flatMap fun byte => [hexDigit (byte.toNat / 16), hexDigit (byte.toNat % 16)])

/-- `f64::is_finite`: the exponent is not all ones. -/
def isFinite (bits : UInt64) : Bool := (bits.toNat >>> 52) % 2048 != 2047

section
variable (codec : ResetCodec)

/-- Exact Unix seconds go back through the session's TIMESTAMP semantics. -/
def unixTimestampLiteral (value : String) : Except String String :=
  let value := Text.trim value
  match codec.parseDecimal value with
  | none => .error "a TIMESTAMP value is not valid decimal Unix seconds"
  | some parsed =>
    if parsed < 0 then .error "a TIMESTAMP value is not valid decimal Unix seconds"
    else .ok s!"FROM_UNIXTIME({value})"

def valueLiteral : CellValue → Except String String
  | .null => .ok "NULL"
  | .boolean value => .ok (if value then "1" else "0")
  | .integer value | .decimal value =>
    match codec.parseDecimal (Text.trim value) with
    | some _ => .ok (Text.trim value)
    | none => .error "a numeric value is not valid MySQL syntax"
  | .float bits =>
    if isFinite bits then .ok (codec.displayFloat bits) else .error "a floating-point value is not finite"
  | .text value | .dateTime value | .json value => .ok (mysqlStringLiteral value)
  | .binary value =>
    match codec.decodeBase64 value with
    | some bytes => .ok s!"X'{hex bytes}'"
    | none => .error "a binary value is not valid base64"

/-- Serializes one decoded cell without relying on connection SQL modes. -/
def cellLiteral : BinlogCell → Except String String
  | .null => .ok "NULL"
  | .value value => valueLiteral codec value
  | .unixTimestamp value => unixTimestampLiteral codec value
  | .notLogged => .error "the row image is incomplete"
  | .decodeError _ | .partialValue _ _ => .error "a logged column could not be decoded completely"

/-- What one column of the change contributes to the ordered values. -/
def orderedValue (image : RowImage) (requireComplete : Bool) (column : String) :
    Except String (Option (String × String)) :=
  if placeholderColumn column then
    if requireComplete || isRecorded image[column]? then .error "the binlog does not contain real column names"
    else .ok none
  else match image[column]? with
    | some .notLogged | none =>
      if requireComplete then .error "the row image is incomplete" else .ok none
    | some cell => do
      let literal ← cellLiteral codec cell
      return some (column, literal)

/-- Converts one row image to ordered SQL literals, optionally requiring every column. -/
def orderedValues (change : BinlogChange) (image : RowImage) (requireComplete : Bool) :
    Except String (List (String × String)) := do
  rejectUnusableLoggedCells image
  let values ← change.columns.mapM (orderedValue codec image requireComplete)
  return values.filterMap id

/-- NULL-safe predicates from every usable value in one current row image. -/
def predicateValues (change : BinlogChange) (image : RowImage) (requireComplete : Bool) :
    Except String (List (String × String)) := do
  let predicates ← orderedValues codec change image requireComplete
  refuse predicates.isEmpty "the current row image has no values usable as a predicate"
  return predicates

/-- Refuses a reference to a table that is not exactly attributed. -/
def qualifiedTable (change : BinlogChange) : Except String Unit :=
  refuse (change.database.isEmpty || change.table.isEmpty) "the database or table name is unknown"

/-- Copies the usable cells of an image over the current row. -/
def overlay (current image : RowImage) : RowImage :=
  image.foldl (fun current column cell =>
    if isSqlValue (some cell) then current.insert column cell else current) current

def orError (value : Option α) (reason : String) : Except String α :=
  match value with
  | some value => .ok value
  | none => .error reason

/-- Reverses an INSERT with a single-row DELETE. -/
def resetInsert (change : BinlogChange) (after : Option RowImage) : Except String ResetStatement := do
  qualifiedTable change
  let after ← orError after "the INSERT after image is missing"
  let predicates ← predicateValues codec change after false
  return .delete change.database change.table predicates

/-- Reverses an UPDATE by restoring the before values in the current row. -/
def resetUpdate (change : BinlogChange) (before after : Option RowImage) : Except String ResetStatement := do
  qualifiedTable change
  let before ← orError before "the UPDATE before image is missing"
  let after ← orError after "the UPDATE after image is missing"
  rejectUnusableLoggedCells before
  rejectUnusableLoggedCells after
  refuse (change.columns.any fun column => isRecorded after[column]? && !isSqlValue before[column]?)
    "a changed column is missing its restorable before value"
  let assignments ← orderedValues codec change before false
  refuse assignments.isEmpty "the UPDATE before image has no restorable values"
  let current := overlay (overlay ∅ before) after
  let predicates ← predicateValues codec change current false
  return .update change.database change.table assignments predicates

/-- Reverses a DELETE with an INSERT of its complete before image. -/
def resetDelete (change : BinlogChange) (before : Option RowImage) : Except String ResetStatement := do
  qualifiedTable change
  let before ← orError before "the DELETE before image is missing"
  let values ← orderedValues codec change before true
  refuse values.isEmpty "the DELETE before image has no restorable values"
  return .insert change.database change.table values

def resetRow (change : BinlogChange) (row : BinlogRowChange) : Except String ResetStatement :=
  match change.operation with
  | .insert => resetInsert codec change row.after
  | .update => resetUpdate codec change row.before row.after
  | .delete => resetDelete codec change row.before
  | .ddl => .error "DDL is handled before row iteration"

/-- The row loop of one change, last row first; tells whether it ran to its end. -/
def rewindRows (changeIndex : Nat) (change : BinlogChange) :
    List (BinlogRowChange × Nat) → ResetSqlBuilder → Bool × ResetSqlBuilder
  | [], builder => (true, builder)
  | (row, rowIndex) :: rows, builder =>
    match resetRow codec change row with
    | .ok statement =>
      let (pushed, builder) := builder.pushStatement statement
      if pushed then rewindRows changeIndex change rows builder else (false, builder)
    | .error reason =>
      rewindRows changeIndex change rows
        (builder.pushWarning s!"Skipped change {changeIndex + 1} row {rowIndex + 1}: {reason}")

/-- The change loop, last change first. -/
def rewindChanges : List (BinlogChange × Nat) → ResetSqlBuilder → ResetSqlBuilder
  | [], builder => builder
  | (change, changeIndex) :: changes, builder =>
    if change.operation = .ddl then
      rewindChanges changes
        (builder.pushWarning s!"Skipped change {changeIndex + 1} because DDL cannot be reversed safely")
    else if change.rows.isEmpty then
      rewindChanges changes
        (builder.pushWarning s!"Skipped change {changeIndex + 1} because it has no decoded row images")
    else
      let (finished, builder) := rewindRows codec changeIndex change change.rows.zipIdx.reverse builder
      if finished then rewindChanges changes builder else builder

/-- The statements and warnings of a transaction. -/
def rewind (transaction : BinlogTransaction) : ResetSqlBuilder :=
  let builder : ResetSqlBuilder := {}
  if transaction.status ≠ .committed then
    builder.pushWarning "Reset SQL is generated only for transactions with an observed commit boundary"
  else if transaction.changes.isEmpty then
    builder.pushWarning "The transaction contains no reversible row changes"
  else
    let builder := rewindChanges codec transaction.changes.zipIdx.reverse builder
    if builder.statements.isEmpty && builder.warnings.isEmpty then
      builder.pushWarning "The transaction contains no reversible row changes"
    else builder

end

/-- Renders comments and statements without row values in warnings. -/
def finish (transaction : BinlogTransaction) (builder : ResetSqlBuilder) : BinlogResetSql where
  sql :=
    if builder.statements.isEmpty then ""
    else "\n".intercalate (
      [s!"-- Pipa Reset SQL for transaction {transaction.sequence}",
        "-- Review before execution. MySQL row events do not identify primary keys; predicates use every reconstructed current value."] ++
      builder.warnings.map (fun warning => s!"-- WARNING: {warning}") ++ [""] ++
      builder.statements.map ResetStatement.sql)
  statementCount := builder.statements.length
  complete := 0 < builder.statements.length && builder.warnings.isEmpty
  warnings := builder.warnings

/-- Generates the statements that reverse one committed transaction; they are never executed here. -/
def generateTransactionResetSql (codec : ResetCodec) (transaction : BinlogTransaction) : BinlogResetSql :=
  finish transaction (rewind codec transaction)

end ResetSql
end Pipa
