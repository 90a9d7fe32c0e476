import Std.Data.TreeMap.Lemmas

/-! Binlog records of the shared core crate: decoded cells, row images, changes,
the transactions that the assembler reports, and what an analysis shows of them.
Counters and offsets are `u64` in the code and natural numbers here. -/

namespace Pipa

/-- A UUID, known by its hyphenated text. -/
structure Uuid where
  hyphenated : String
deriving DecidableEq, Repr

instance : ToString Uuid := ⟨Uuid.hyphenated⟩

/-- A transport-safe result cell. Integers, decimals, JSON and binary data are
carried as text; a double is carried by its bit pattern. -/
inductive CellValue where
  | null
  | boolean (value : Bool)
  | integer (value : String)
  | float (bits : UInt64)
  | decimal (value : String)
  | text (value : String)
  | json (value : String)
  | binary (value : String)
  | dateTime (value : String)
deriving DecidableEq, Repr

inductive BinlogOperation where
  | insert | update | delete | ddl
deriving DecidableEq, Repr

inductive BinlogTableConfidence where
  | exact | sqlParsed | unknown
deriving DecidableEq, Repr

inductive BinlogTransactionStatus where
  | committed | rolledBack | incomplete | unknown
deriving DecidableEq, Repr

/-- A cell of a before or after row image. -/
inductive BinlogCell where
  | notLogged
  | null
  | value (value : CellValue)
  | unixTimestamp (value : String)
  | decodeError (message : String)
  | partialValue (value : CellValue) (message : Option String)
deriving DecidableEq, Repr

/-- A row image: the recorded cells by column name. -/
abbrev RowImage := Std.TreeMap String BinlogCell

structure BinlogRowChange where
  before : Option RowImage
  after : Option RowImage

structure BinlogChange where
  database : String
  table : String
  operation : BinlogOperation
  rowCount : Nat
  columns : List String
  rows : List BinlogRowChange
  tableConfidence : BinlogTableConfidence
  sql : Option String

structure BinlogTransactionTable where
  database : String
  table : String
  insertCount : Nat
  updateCount : Nat
  deleteCount : Nat
  ddlCount : Nat
  rowChangeCount : Nat
deriving DecidableEq, Repr

structure BinlogTransaction where
  id : String
  sequence : Nat
  timestamp : String
  gtid : Option String
  xid : Option String
  serverId : Nat
  fileName : String
  startPosition : Nat
  endPosition : Nat
  status : BinlogTransactionStatus
  rowChangeCount : Nat
  tables : List BinlogTransactionTable
  changes : List BinlogChange

/-- Timeline metadata of a transaction without its row images. -/
structure BinlogTransactionSummary where
  id : String
  sequence : Nat
  timestamp : String
  gtid : Option String
  xid : Option String
  serverId : Nat
  fileName : String
  startPosition : Nat
  endPosition : Nat
  status : BinlogTransactionStatus
  rowChangeCount : Nat
  tables : List BinlogTransactionTable
deriving DecidableEq, Repr

structure BinlogTransactionFilter where
  database : Option String
  table : Option String
  operation : Option BinlogOperation
  cursor : Option String
  limit : Option Nat
deriving DecidableEq, Repr

structure BinlogTransactionPage where
  items : List BinlogTransactionSummary
  nextCursor : Option String
deriving DecidableEq, Repr

inductive BinlogAnalysisStatus where
  | complete | warning | error | partialResult
deriving DecidableEq, Repr

inductive BinlogDiagnosticSeverity where
  | info | warning | error
deriving DecidableEq, Repr

structure BinlogFileSummary where
  path : String
  sizeBytes : Nat
deriving DecidableEq, Repr

structure BinlogDiagnostic where
  code : String
  message : String
  severity : BinlogDiagnosticSeverity
  fileName : Option String
  position : Option Nat
deriving DecidableEq, Repr

structure BinlogTableSummary where
  database : String
  table : String
  insertCount : Nat
  updateCount : Nat
  deleteCount : Nat
  ddlCount : Nat
  rowChangeCount : Nat
deriving DecidableEq, Repr

structure BinlogSummary where
  analysisId : Uuid
  files : List BinlogFileSummary
  status : BinlogAnalysisStatus
  startedAt : String
  endedAt : Option String
  firstEventAt : Option String
  lastEventAt : Option String
  transactionCount : Nat
  eventCount : Nat
  rowChangeCount : Nat
  tables : List BinlogTableSummary
  diagnostics : List BinlogDiagnostic
deriving DecidableEq, Repr

end Pipa
