import Mathlib.Algebra.Ring.Nat
import Pipa.Binlog
import Pipa.Text

/-! The in-memory repository of binlog analyses. Every operation holds the lock of
the session map from its first access to its last, and none of them panics while it
does, so the lock is never poisoned and `unavailable` is never returned. -/

namespace Pipa

structure AnalysisSession where
  summary : BinlogSummary
  transactions : List BinlogTransaction

inductive RepositoryError where
  | notFound | alreadyExists | invalidCursor | unavailable
deriving DecidableEq, Repr

/-- The open sessions by analysis id. -/
abbrev InMemoryAnalysisRepository := Uuid → Option AnalysisSession

namespace BinlogRepository

def defaultPageSize : Nat := 100

def maxPageSize : Nat := 500

/-- Treats a missing and an empty filter value as unrestricted. -/
def optionalExactMatch (filter : Option String) (actual : String) : Bool :=
  match filter.filter (fun value => !value.isEmpty) with
  | none => true
  | some expected => expected == actual

def optionalOperationMatch (expected : Option BinlogOperation) (actual : BinlogOperation) : Bool :=
  match expected with
  | none => true
  | some expected => expected == actual

/-- Whether no filter restricts the transactions. -/
def unfiltered (filter : BinlogTransactionFilter) : Bool :=
  !filter.database.any (fun value => !value.isEmpty) && !filter.table.any (fun value => !value.isEmpty) &&
    filter.operation.isNone

def changeMatches (filter : BinlogTransactionFilter) (change : BinlogChange) : Bool :=
  optionalExactMatch filter.database change.database && optionalExactMatch filter.table change.table &&
    optionalOperationMatch filter.operation change.operation

/-- The row changes that a filter selects, and nothing where it selects no change. -/
def matchingRowChangeCount (transaction : BinlogTransaction) (filter : BinlogTransactionFilter) : Option Nat :=
  if unfiltered filter then some transaction.rowChangeCount
  else
    let matching := transaction.changes.filter (changeMatches filter)
    if matching.isEmpty then none else some (matching.map BinlogChange.rowCount).sum

def summarizeTransaction (transaction : BinlogTransaction) (filter : BinlogTransactionFilter) :
    Option BinlogTransactionSummary := do
  let rowChangeCount ← matchingRowChangeCount transaction filter
  return {
    id := transaction.id
    sequence := transaction.sequence
    timestamp := transaction.timestamp
    gtid := transaction.gtid
    xid := transaction.xid
    serverId := transaction.serverId
    fileName := transaction.fileName
    startPosition := transaction.startPosition
    endPosition := transaction.endPosition
    status := transaction.status
    rowChangeCount
    tables := transaction.tables
  }

def projectTransaction (transaction : BinlogTransaction) (filter : BinlogTransactionFilter) : Option BinlogTransaction :=
  if unfiltered filter then some transaction
  else
    let changes := transaction.changes.filter (changeMatches filter)
    if changes.isEmpty then none
    else some { transaction with rowChangeCount := (changes.map BinlogChange.rowCount).sum, changes }

/-- The page size that a requested limit leads to. -/
def clampedLimit (limit : Option Nat) : Nat := max 1 (min (limit.getD defaultPageSize) maxPageSize)

def paginateTransactions (transactions : List BinlogTransaction) (filter : BinlogTransactionFilter) :
    Except RepositoryError BinlogTransactionPage := do
  let afterSequence ←
    match filter.cursor with
    | none => .ok 0
    | some cursor =>
      match Text.parseU64 cursor with
      | some sequence => .ok sequence
      | none => .error .invalidCursor
  let limit := clampedLimit filter.limit
  -- one entry more than the page holds shows whether another page follows
  let matching := ((transactions.filter (fun transaction => afterSequence < transaction.sequence)).filterMap
    (summarizeTransaction · filter)).take (limit + 1)
  let hasMore := limit < matching.length
  let items := if hasMore then matching.dropLast else matching
  return { items, nextCursor := if hasMore then items.getLast?.map (fun last => toString last.sequence) else none }

/-- Transactions as an analysis retains them: their sequences grow from one. -/
structure Timeline where
  transactions : List BinlogTransaction
  increasing : transactions.Pairwise (fun earlier later => earlier.sequence < later.sequence)
  positive : ∀ transaction ∈ transactions, 1 ≤ transaction.sequence
  small : ∀ transaction ∈ transactions, transaction.sequence < 18446744073709551616

variable (sessions : InMemoryAnalysisRepository)

def create (summary : BinlogSummary) : Except RepositoryError Unit × InMemoryAnalysisRepository :=
  if (sessions summary.analysisId).isSome then (.error .alreadyExists, sessions)
  else (.ok (), Function.update sessions summary.analysisId (some ⟨summary, []⟩))

def replace (summary : BinlogSummary) (transactions : List BinlogTransaction) :
    Except RepositoryError Unit × InMemoryAnalysisRepository :=
  if (sessions summary.analysisId).isSome then
    (.ok (), Function.update sessions summary.analysisId (some ⟨summary, transactions⟩))
  else (.error .notFound, sessions)

def getSummary (analysisId : Uuid) : Except RepositoryError BinlogSummary :=
  match sessions analysisId with
  | some session => .ok session.summary
  | none => .error .notFound

def listTransactions (analysisId : Uuid) (filter : BinlogTransactionFilter) : Except RepositoryError BinlogTransactionPage :=
  match sessions analysisId with
  | some session => paginateTransactions session.transactions filter
  | none => .error .notFound

def getTransaction (analysisId : Uuid) (sequence : Nat) (filter : BinlogTransactionFilter) :
    Except RepositoryError BinlogTransaction :=
  match sessions analysisId with
  | some session =>
    match (session.transactions.find? (·.sequence == sequence)).bind (projectTransaction · filter) with
    | some transaction => .ok transaction
    | none => .error .notFound
  | none => .error .notFound

def close (analysisId : Uuid) : InMemoryAnalysisRepository := Function.update sessions analysisId none

end BinlogRepository

end Pipa
