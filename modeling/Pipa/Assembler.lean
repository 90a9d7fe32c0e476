import Mathlib.Algebra.Ring.Nat
import Pipa.Binlog
import Pipa.Library.Runs
import Pipa.Text

/-! The transaction assembler: a state machine that groups ordered binlog events
into transactions. Each `on…` function is one entry point of the parser. -/

namespace Pipa

/-- Physical event location used for authoritative ordering. -/
structure EventLocation where
  timestamp : String
  serverId : Nat
  fileName : String
  startPosition : Nat
  endPosition : Nat
deriving DecidableEq, Repr

/-- Mutable transaction state retained until a commit, rollback, or incomplete boundary. -/
structure PendingTransaction where
  timestamp : String
  gtid : Option String
  xid : Option String
  serverId : Nat
  fileName : String
  startPosition : Nat
  endPosition : Nat
  explicit : Bool
  changes : List BinlogChange

structure TransactionAssembler where
  analysisId : Uuid
  transactions : List BinlogTransaction
  pending : Option PendingTransaction
  nextSequence : Nat
  pendingRowsQuery : Option String

namespace Assembler

/-- The first token after a keyword; `IF`, `NOT` and `EXISTS` may stand between. -/
def tokenAfterKeyword (tokens : List String) (keyword : String) : Option String :=
  let adjacent := (tokens.zip tokens.tail).find? (fun pair => Text.eqIgnoreAsciiCase pair.1 keyword)
  match (adjacent.map Prod.snd).filter (fun token => !Text.eqIgnoreAsciiCase token "IF") with
  | some token => some token
  | none => do
    let position ← tokens.findIdx? (fun token => Text.eqIgnoreAsciiCase token keyword)
    (tokens.drop (position + 1)).find? (fun token =>
      !Text.eqIgnoreAsciiCase token "IF" && !Text.eqIgnoreAsciiCase token "NOT" &&
        !Text.eqIgnoreAsciiCase token "EXISTS")

/-- Normalizes one optionally qualified and backquoted table token. -/
def parseQualifiedTable (token : String) : Option (Option String × String) :=
  let token := Text.trimMatches (fun c => c = '\x60' || c = ',' || c = ';' || c = '(' || c = ')') token
  if token.isEmpty then none
  else match (Text.split '.' token).map (Text.trimMatches (· = '\x60')) with
    | [table] => if table.isEmpty then none else some (none, table)
    | [database, table] =>
      if database.isEmpty || table.isEmpty then none else some (some database, table)
    | _ => none

/-- Classifies supported DML and DDL statements and infers their first target table. -/
def classifyStatement (schema query : String) : Option BinlogChange := do
  let tokens := Text.splitWhitespace query
  let first := Text.toAsciiUppercase (← tokens.head?)
  let (operation, tableToken) ←
    if first = "INSERT" || first = "REPLACE" then
      some (BinlogOperation.insert, tokenAfterKeyword tokens "INTO")
    else if first = "UPDATE" then some (.update, tokens[1]?)
    else if first = "DELETE" then some (.delete, tokenAfterKeyword tokens "FROM")
    else if first = "CREATE" || first = "ALTER" || first = "DROP" || first = "TRUNCATE" ||
        first = "RENAME" then
      some (.ddl, tokenAfterKeyword tokens "TABLE")
    else none
  let (database, table, confidence) := match tableToken.bind parseQualifiedTable with
    | some (database, table) => (database.getD schema, table, BinlogTableConfidence.sqlParsed)
    | none => (schema, "", .unknown)
  return {
    database, table, operation
    rowCount := 0
    columns := []
    rows := []
    tableConfidence := confidence
    sql := some query }

/-- Tables are aggregated in the order of their (database, table) keys. -/
abbrev TableKey := String × String

def compareKeys : TableKey → TableKey → Ordering := compareLex (compareOn Prod.fst) (compareOn Prod.snd)

def emptyTable (change : BinlogChange) : BinlogTransactionTable where
  database := change.database
  table := change.table
  insertCount := 0
  updateCount := 0
  deleteCount := 0
  ddlCount := 0
  rowChangeCount := 0

/-- Adds one change to the running totals of its table. -/
def tallyChange (table : BinlogTransactionTable) (change : BinlogChange) : BinlogTransactionTable :=
  let table := { table with rowChangeCount := table.rowChangeCount + change.rowCount }
  match change.operation with
  | .insert => { table with insertCount := table.insertCount + change.rowCount }
  | .update => { table with updateCount := table.updateCount + change.rowCount }
  | .delete => { table with deleteCount := table.deleteCount + change.rowCount }
  | .ddl => { table with ddlCount := table.ddlCount + 1 }

def tallyTable (tables : Std.TreeMap TableKey BinlogTransactionTable compareKeys) (change : BinlogChange) :
    Std.TreeMap TableKey BinlogTransactionTable compareKeys :=
  if change.table.isEmpty then tables
  else
    let key := (change.database, change.table)
    tables.insert key (tallyChange (tables[key]?.getD (emptyTable change)) change)

/-- Aggregates repeated changes by database and table. -/
def summarizeTransactionTables (changes : List BinlogChange) : List BinlogTransactionTable :=
  (changes.foldl tallyTable ∅).toList.map Prod.snd

end Assembler

/-- Creates pending state at the first physical event in a transaction. -/
def PendingTransaction.new (location : EventLocation) : PendingTransaction where
  timestamp := location.timestamp
  gtid := none
  xid := none
  serverId := location.serverId
  fileName := location.fileName
  startPosition := location.startPosition
  endPosition := location.endPosition
  explicit := false
  changes := []

/-- The transport transaction that `finish` makes of the pending state. -/
def PendingTransaction.close (pending : PendingTransaction) (analysisId : Uuid) (sequence : Nat)
    (status : BinlogTransactionStatus) : BinlogTransaction where
  id := s!"{analysisId}:{sequence}"
  sequence := sequence
  timestamp := pending.timestamp
  gtid := pending.gtid
  xid := pending.xid
  serverId := pending.serverId
  fileName := pending.fileName
  startPosition := pending.startPosition
  endPosition := pending.endPosition
  status := status
  rowChangeCount := (pending.changes.map BinlogChange.rowCount).sum
  tables := Assembler.summarizeTransactionTables pending.changes
  changes := pending.changes

namespace TransactionAssembler

def new (analysisId : Uuid) : TransactionAssembler where
  analysisId := analysisId
  transactions := []
  pending := none
  nextSequence := 1
  pendingRowsQuery := none

/-- Applies an edit to the pending transaction, when there is one. -/
def modifyPending (self : TransactionAssembler) (edit : PendingTransaction → PendingTransaction) :
    TransactionAssembler :=
  { self with pending := self.pending.map edit }

/-- Ensures a pending transaction exists for a row or statement event. -/
def ensurePending (self : TransactionAssembler) (location : EventLocation) : TransactionAssembler :=
  if self.pending.isNone then { self with pending := some (.new location) } else self

/-- Converts the mutable pending state into an immutable transport transaction. -/
def finish (self : TransactionAssembler) (status : BinlogTransactionStatus) : TransactionAssembler :=
  match self.pending with
  | none => self
  | some pending =>
    { self with
      pending := none
      pendingRowsQuery := none
      nextSequence := self.nextSequence + 1
      transactions := self.transactions ++ [pending.close self.analysisId self.nextSequence status] }

/-- Extends the current transaction's physical range for non-change events. -/
def updateEnd (self : TransactionAssembler) (location : EventLocation) : TransactionAssembler :=
  self.modifyPending fun pending => { pending with endPosition := location.endPosition }

/-- Starts a new GTID transaction, closing an unterminated predecessor as incomplete. -/
def onGtid (self : TransactionAssembler) (gtid : String) (location : EventLocation) : TransactionAssembler :=
  let self := if self.pending.isSome then self.finish .incomplete else self
  { self with pending := some { PendingTransaction.new location with gtid := some gtid } }

/-- Marks an explicit BEGIN boundary without discarding a preceding GTID. -/
def onBegin (self : TransactionAssembler) (location : EventLocation) : TransactionAssembler :=
  (self.ensurePending location).modifyPending fun pending =>
    { pending with explicit := true, endPosition := location.endPosition }

/-- Retains the optional RowsQuery text for the next row mutation event. -/
def onRowsQuery (self : TransactionAssembler) (query : String) : TransactionAssembler :=
  { self with pendingRowsQuery := some query }

/-- Adds one change to the pending transaction. -/
def record (self : TransactionAssembler) (change : BinlogChange) (location : EventLocation) :
    TransactionAssembler :=
  self.modifyPending fun pending =>
    { pending with endPosition := location.endPosition, changes := pending.changes ++ [change] }

/-- Adds a precisely attributed row mutation; it takes the retained RowsQuery text
when it has no statement of its own. -/
def onRows (self : TransactionAssembler) (change : BinlogChange) (location : EventLocation) :
    TransactionAssembler :=
  let self := self.ensurePending location
  if change.sql.isNone then
    ({ self with pendingRowsQuery := none }).record { change with sql := self.pendingRowsQuery } location
  else self.record change location

/-- A statement as `on_query` compares it: trimmed, without trailing semicolons. -/
def normalizeQuery (query : String) : String :=
  Text.trim (Text.trimEndMatches (· = ';') (Text.trim query))

def isBegin (normalized : String) : Bool :=
  Text.eqIgnoreAsciiCase normalized "BEGIN" || Text.eqIgnoreAsciiCase normalized "START TRANSACTION"

/-- Applies a statement boundary or adds a best-effort statement change. -/
def onQuery (self : TransactionAssembler) (schema query : String) (location : EventLocation) :
    TransactionAssembler :=
  let normalized := normalizeQuery query
  if isBegin normalized then self.onBegin location
  else if Text.eqIgnoreAsciiCase normalized "COMMIT" then (self.updateEnd location).finish .committed
  else if Text.eqIgnoreAsciiCase normalized "ROLLBACK" then (self.updateEnd location).finish .rolledBack
  else match Assembler.classifyStatement schema normalized with
    | none => self.updateEnd location
    | some change =>
      let self := (self.ensurePending location).record change location
      match self.pending with
      | none => self
      | some pending =>
        -- DDL commits implicitly; so does a statement outside any announced transaction
        if change.operation = .ddl || (pending.gtid.isNone && !pending.explicit) then
          self.finish .committed
        else self

/-- Commits the current transaction at an XID event. -/
def onXid (self : TransactionAssembler) (xid : Nat) (location : EventLocation) : TransactionAssembler :=
  ((self.ensurePending location).modifyPending fun pending =>
    { pending with xid := some (toString xid), endPosition := location.endPosition }).finish .committed

/-- Finalizes any transaction still open at the end of the last input file. -/
def finishInput (self : TransactionAssembler) : TransactionAssembler :=
  if self.pending.isSome then self.finish .incomplete else self

/-- Returns the assembled transactions in stable sequence order. -/
def intoTransactions (self : TransactionAssembler) : List BinlogTransaction :=
  self.finishInput.transactions

end TransactionAssembler

/-- One call of the parser on the assembler. -/
inductive AssemblerEvent where
  | gtid (gtid : String) (location : EventLocation)
  | begin (location : EventLocation)
  | rowsQuery (query : String)
  | rows (change : BinlogChange) (location : EventLocation)
  | query (schema query : String) (location : EventLocation)
  | xid (xid : Nat) (location : EventLocation)
  | updateEnd (location : EventLocation)

def TransactionAssembler.step (self : TransactionAssembler) : AssemblerEvent → TransactionAssembler
  | .gtid gtid location => self.onGtid gtid location
  | .begin location => self.onBegin location
  | .rowsQuery query => self.onRowsQuery query
  | .rows change location => self.onRows change location
  | .query schema query location => self.onQuery schema query location
  | .xid xid location => self.onXid xid location
  | .updateEnd location => self.updateEnd location

/-- The transactions of one analysis: every call in order, then the end of input. -/
def assemble (analysisId : Uuid) (events : List AssemblerEvent) : List BinlogTransaction :=
  (Runs.run TransactionAssembler.step (.new analysisId) events).intoTransactions

end Pipa
