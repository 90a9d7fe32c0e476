import Pipa.Connection
import Pipa.McpQueue

/-! Collecting MySQL query execution for MCP tools and confirmed proposals. What a
query puts into its channel is a list of events, which ends when the channel closes;
rows are opaque to the collector. -/

namespace Pipa

inductive ExecutionSource where
  | ui | mcp
deriving DecidableEq, Repr

structure QueryColumn where
  name : String
  databaseType : String
  nullable : Option Bool
deriving DecidableEq, Repr

structure QueryRequest where
  queryId : Uuid
  connectionId : Uuid
  sql : String
  database : Option String
deriving DecidableEq, Repr

/-- Events emitted in order during one query. -/
inductive QueryEvent (Row : Type) where
  | started (queryId : Uuid)
  | schema (queryId : Uuid) (columns : List QueryColumn)
  | batch (queryId : Uuid) (rows : List Row)
  | completed (queryId : Uuid) (affectedRows : Nat)
  | canceled (queryId : Uuid)
  | failed (queryId : Uuid) (error : AppError)
deriving DecidableEq, Repr

namespace QueryRunner

variable {Row : Type}

structure CollectedQueryResult (Row : Type) where
  columns : List QueryColumn
  rows : List Row
  truncated : Bool
  affectedRows : Nat
  error : Option String
deriving DecidableEq, Repr

/-- One-line summary for activity logs. -/
def CollectedQueryResult.shortDetail (self : CollectedQueryResult Row) : String :=
  match self.error with
  | some error => error
  | none =>
    if self.columns.isEmpty then s!"affected_rows={self.affectedRows}"
    else
      let marker := if self.truncated then " (truncated)" else ""
      s!"rows={self.rows.length}{marker}"

/-- The collector's result so far, and whether it has canceled the query itself. -/
structure Collector (Row : Type) extends CollectedQueryResult Row where
  canceledForLimit : Bool
deriving DecidableEq, Repr

def Collector.new : Collector Row := ⟨⟨[], [], false, 0, none⟩, false⟩

/-- Takes the rows of one batch; the first row beyond the limit cancels the query. -/
def Collector.pushRows (rowLimit : Nat) (self : Collector Row) : List Row → Collector Row
  | [] => self
  | row :: rest =>
    if self.rows.length ≥ rowLimit then { self with truncated := true, canceledForLimit := true }
    else { self with rows := self.rows ++ [row] }.pushRows rowLimit rest

/-- Takes events until a terminal one or the end of the channel. -/
def Collector.receive (rowLimit : Nat) (self : Collector Row) : List (QueryEvent Row) → Collector Row
  | [] => self
  | .started _ :: later => self.receive rowLimit later
  | .schema _ columns :: later => { self with columns }.receive rowLimit later
  | .batch _ rows :: later => (self.pushRows rowLimit rows).receive rowLimit later
  | .completed _ affectedRows :: _ => { self with affectedRows }
  | .canceled _ :: _ => if self.canceledForLimit then self else { self with error := some "Query was canceled" }
  | .failed _ error :: _ => { self with error := some error.message }

def collectQueryEvents (rowLimit : Nat) (delivered : List (QueryEvent Row)) : CollectedQueryResult Row :=
  (Collector.new.receive rowLimit delivered).toCollectedQueryResult

structure LocalStore where
  listConnections : Except AppError (List ConnectionProfile)
  getConnectionCredential : Uuid → Except AppError String

/-- What the adapter emits for a request before it returns, and whether it fails then;
the flag asks for a read-only session. -/
abbrev MySqlAdapter (Row : Type) :=
  (readOnly : Bool) → ConnectionProfile → (password : String) → QueryRequest → List (QueryEvent Row) × Except AppError Unit

def riskLabel : SqlRisk → String
  | .read => "read"
  | .writeData => "write"
  | .schemaChange => "schema-change"
  | .unknown => "unknown/unsafe"

def riskDebug : SqlRisk → String
  | .read => "Read"
  | .writeData => "WriteData"
  | .schemaChange => "SchemaChange"
  | .unknown => "Unknown"

/-- The checks before a query and the events it then delivers. -/
def deliver (store : LocalStore) (mysql : MySqlAdapter Row) (queryId connectionId : Uuid) (sql : String)
    (source : ExecutionSource) : Except AppError (List (QueryEvent Row)) := do
  if source = .mcp then
    if let .error blocked := SqlPolicy.mcpMayExecute (SqlPolicy.asBytes sql) then
      throw {
        code := .permission
        message := s!"MCP cannot auto-execute {riskLabel blocked} SQL; use propose_sql and confirm in Pipa"
        technicalDetails := some s!"risk={riskDebug blocked}"
        retryable := false }
  let connections ← store.listConnections
  let profile ← match connections.find? (fun profile => profile.id = connectionId) with
    | some profile => pure profile
    | none => throw {
        code := .notFound
        message := "Database connection was not found"
        technicalDetails := none
        retryable := false }
  if profile.engine ≠ .mySql then
    throw {
      code := .validation
      message := "MCP query execution currently supports MySQL connections only"
      technicalDetails := some s!"engine={profile.engine.debug}"
      retryable := false }
  let password ← store.getConnectionCredential connectionId
  let (events, result) := mysql (source = .mcp) profile password { queryId, connectionId, sql, database := none }
  match result with
  | .ok () => return events
  | .error error => return events ++ [.failed queryId error]

def executeCollected (store : LocalStore) (mysql : MySqlAdapter Row) (queryId connectionId : Uuid) (sql : String)
    (source : ExecutionSource) (rowLimit : Nat) : Except AppError (CollectedQueryResult Row) :=
  (deliver store mysql queryId connectionId sql source).map (collectQueryEvents rowLimit)

def mcpReadonlyRowLimit : Nat := 200

/-- The outcome of a confirmed proposal: its status, its summary and the error shown. -/
def proposalOutcome : Except AppError (CollectedQueryResult Row) → ProposalStatus × String × Option String
  | .ok collected => (if collected.error.isNone then .executed else .failed, collected.shortDetail, collected.error)
  | .error error => (.failed, error.message, some error.message)

/-- What a confirmation answers, the status it marks the proposal with, and the queue behind it. -/
structure Confirmation where
  reply : Except AppError Unit
  marked : Option ProposalStatus
  queue : McpQueue

/-- Executes a pending proposal with the privileges of the user interface. While the
query runs, other tasks change the queue by `meanwhile`. -/
def mcpExecuteProposal (queue : McpQueue) (store : LocalStore) (mysql : MySqlAdapter Row)
    (meanwhile : McpQueue → McpQueue) (queryId proposalId : Uuid) : Confirmation :=
  match queue.claimForExecute proposalId with
  | (.error error, queue) => ⟨.error error, none, queue⟩
  | (.ok proposal, queue) =>
    let result := executeCollected store mysql queryId proposal.connectionId proposal.sql .ui mcpReadonlyRowLimit
    let (status, detail, dbError) := proposalOutcome result
    let settled := (meanwhile queue).updateProposal proposalId status (some detail)
    match dbError with
    | none => ⟨.ok (), some status, settled⟩
    | some message =>
      ⟨.error { code := .internal, message, technicalDetails := some detail, retryable := false }, some status, settled⟩

end QueryRunner

end Pipa
