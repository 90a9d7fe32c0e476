import Pipa.Library.Journals
import Pipa.QueryRunner
import Pipa.SettingsRepository
import Pipa.StoreCommands

/-! The tool surface of the MCP server and the commands of its panel. Tool calls, commands
and edits of the saved connections interleave at their locks. The history in the shared
state is no part of the code: it says what every call has done. -/

namespace Pipa.McpService
open Programs QueryRunner

/-- One activity log entry shown in the panel. -/
structure McpActivityEntry where
  id : Uuid
  createdAt : String
  tool : String
  connectionId : Option Uuid
  summary : String
  ok : Bool
  detail : Option String
deriving DecidableEq, Repr

def mcpActivityLimit : Nat := 200

/-- What calls the program: an MCP client, by a tool; the user, by a command of the panel
or by an edit of the store. -/
inductive Launch where
  | listConnections
  | listTables (connectionId : String)
  | describeTable (connectionId tableName : String)
  | runReadonlyQuery (connectionId sql : String)
  | proposeSql (connectionId sql : String)
  | executeProposal (proposalId : Uuid)
  | dismissProposal (proposalId : Uuid)
  | runManualSql (connectionId : Uuid) (sql : String)
  | setConnectionScope (restrictToConnection : Bool) (targetConnectionIds : List Uuid)
  | callStore (call : StoreCommands.Call)

/-- What a call does that others can see. -/
inductive Act where
  | started (launch : Launch)
  | listed (scope : McpConnectionScope)
  | granted (connectionId : Uuid) (scope : McpConnectionScope)
  | proposed (proposal : PendingSqlProposal)
  | claimed (proposal : PendingSqlProposal)
  | dispatched (readOnly : Bool) (profile : SavedProfile) (request : QueryRequest)
  | rescoped (scope : McpConnectionScope)

structure Shared where
  store : LocalStore
  connectionScope : McpConnectionScope
  queue : McpQueue
  activity : List McpActivityEntry
  history : List (Entry Act)

inductive Operation where
  | listConnections
  | readScope
  | requireMysql (connectionId : Uuid)
  | getConnection (connectionId : Uuid)
  | getConnectionCredential (connectionId : Uuid)
  | newUuid
  | query (readOnly : Bool) (profile : SavedProfile) (password : String) (request : QueryRequest)
  | propose (connectionId : Uuid) (sql : String) (risk : SqlRisk) (sourceTool : String)
  | claimForExecute (proposalId : Uuid)
  | claimForDismiss (proposalId : Uuid)
  | updateProposal (proposalId : Uuid) (status : ProposalStatus) (resultSummary : Option String)
  | pushActivity (tool : String) (connectionId : Option Uuid) (summary : String) (ok : Bool) (detail : Option String)
  | saveSettings
  | writeScope (scope : McpConnectionScope)
  | callStore (call : StoreCommands.Call)

/-- Errors that a tool reports to the client. -/
inductive McpError where
  | invalidParams (message : String)
  | internalError (message : String)
deriving DecidableEq, Repr

section
variable (Row : Type)

@[reducible]
def Reply : Operation → Type
  | .listConnections => Except AppError (List SavedProfile)
  | .readScope => McpConnectionScope
  | .requireMysql _ => Except McpError SavedProfile
  | .getConnection _ => Except AppError SavedProfile
  | .getConnectionCredential _ => Except AppError String
  | .newUuid => Uuid
  | .query .. => List (QueryEvent Row)
  | .propose .. | .claimForExecute _ | .claimForDismiss _ => Except AppError PendingSqlProposal
  | .updateProposal .. | .pushActivity .. | .writeScope _ => Unit
  | .saveSettings | .callStore _ => Except AppError Unit

/-- What the world decides while an operation runs. -/
structure World where
  faults : Faults
  uuid : Uuid
  now : String
  mysql : MySqlAdapter Row

abbrev Task (ε α : Type) := ExceptT ε (Program Operation (Reply Row)) α

end

variable {Row : Type}

def toolError (message : String) : McpError := .invalidParams message

/-- The profile of a connection inside the scope. The lock of the scope is held while the store is read. -/
def requireMysql (faults : Faults) (connectionId : Uuid) (shared : Shared) : Except McpError SavedProfile :=
  if !shared.connectionScope.allows connectionId then
    .error (toolError "Database connection is outside the configured MCP scope")
  else
    match (ConnectionRepository.getConnection connectionId (faults 0) shared.store).1 with
    | .error error => .error (toolError error.message)
    | .ok profile =>
      if profile.engine ≠ .mySql then
        .error (toolError "Only MySQL connections are supported by MCP tools in this version")
      else .ok profile

/-- What the spawned query delivers; a failure of the adapter comes behind the adapter's events. -/
def deliveredEvents (world : World Row) (readOnly : Bool) (profile : SavedProfile) (password : String) (request : QueryRequest) :
    List (QueryEvent Row) :=
  let (events, result) := world.mysql readOnly profile.toConnectionProfile password request
  match result with
  | .ok () => events
  | .error error => events ++ [.failed request.queryId error]

/-- Appends an entry in front and drops the oldest ones above the limit. -/
def Shared.pushActivity (self : Shared) (entry : McpActivityEntry) : Shared :=
  let activity := (entry :: self.activity).take mcpActivityLimit
  { self with activity }

section
variable (process : Nat)

def Shared.record (self : Shared) (act : Act) : Shared := { self with history := ⟨some process, act⟩ :: self.history }

/-- Records an act that goes with a success. -/
def Shared.recordOk {ε α : Type} (self : Shared) (result : Except ε α) (act : α → Act) : Except ε α × Shared :=
  match result with
  | .ok value => (.ok value, self.record process (act value))
  | .error error => (.error error, self)

def serve (world : World Row) (operation : Operation) (shared : Shared) : Reply Row operation × Shared :=
  match operation with
  | .listConnections => ((ConnectionRepository.listConnections world.faults shared.store).1, shared)
  | .readScope => (shared.connectionScope, shared.record process (.listed shared.connectionScope))
  | .requireMysql connectionId =>
    shared.recordOk process (requireMysql world.faults connectionId shared) fun _ => .granted connectionId shared.connectionScope
  | .getConnection connectionId => ((ConnectionRepository.getConnection connectionId (world.faults 0) shared.store).1, shared)
  | .getConnectionCredential connectionId =>
    ((ConnectionRepository.getConnectionCredential connectionId (world.faults 0) shared.store).1, shared)
  | .newUuid => (world.uuid, shared)
  | .query readOnly profile password request =>
    (deliveredEvents world readOnly profile password request, shared.record process (.dispatched readOnly profile request))
  | .propose connectionId sql risk sourceTool =>
    let (result, queue) := shared.queue.propose world.uuid connectionId sql risk sourceTool world.now
    Shared.recordOk process { shared with queue } result .proposed
  | .claimForExecute proposalId =>
    let (result, queue) := shared.queue.claimForExecute proposalId
    Shared.recordOk process { shared with queue } result .claimed
  | .claimForDismiss proposalId =>
    let (result, queue) := shared.queue.claimForDismiss proposalId
    (result, { shared with queue })
  | .updateProposal proposalId status resultSummary =>
    ((), { shared with queue := shared.queue.updateProposal proposalId status resultSummary })
  | .pushActivity tool connectionId summary ok detail =>
    ((), shared.pushActivity { id := world.uuid, createdAt := world.now, tool, connectionId, summary, ok, detail })
  | .saveSettings =>
    let result := match world.faults 0 with
      | some source => .error (LocalStore.storageError "Could not save application settings" "save settings" source)
      | none => .ok ()
    (result, shared)
  | .writeScope scope =>
    let rescoped := { shared with connectionScope := scope }
    ((), rescoped.record process (.rescoped scope))
  | .callStore call =>
    let (result, store) := call.run shared.store
    (result, { shared with store })

end

/-- A result that no operation is needed for. -/
def decided {ε α : Type} (result : Except ε α) : Task Row ε α := Program.done result

abbrev reading {ε α : Type} (operation : Operation) (reply : Reply Row operation → Except ε α) : Task Row ε α :=
  attempt operation reply

/-! ### Running a query -/

def requirePolicy (sql : String) (source : ExecutionSource) : Except AppError Unit :=
  if source = .mcp then
    match SqlPolicy.mcpMayExecute (SqlPolicy.asBytes sql) with
    | .ok () => .ok ()
    | .error blocked => .error {
        code := .permission
        message := s!"MCP cannot auto-execute {riskLabel blocked} SQL; use propose_sql and confirm in Pipa"
        technicalDetails := some s!"risk={riskDebug blocked}"
        retryable := false }
  else .ok ()

def findMySqlProfile (profiles : List SavedProfile) (connectionId : Uuid) : Except AppError SavedProfile :=
  match profiles.find? fun profile => profile.id = connectionId with
  | none => .error ConnectionRepository.connectionNotFoundError
  | some profile =>
    if profile.engine ≠ .mySql then .error {
      code := .validation
      message := "MCP query execution currently supports MySQL connections only"
      technicalDetails := some s!"engine={profile.engine.debug}"
      retryable := false }
    else .ok profile

/-- Executes SQL through the MySQL adapter after applying the execution-source policy. -/
def executeCollected (connectionId : Uuid) (sql : String) (source : ExecutionSource) (rowLimit : Nat) :
    Task Row AppError (CollectedQueryResult Row) := do
  decided (requirePolicy sql source)
  let profiles ← reading .listConnections id
  let profile ← decided (findMySqlProfile profiles connectionId)
  let password ← reading (.getConnectionCredential connectionId) id
  let queryId ← reading .newUuid .ok
  let events ← reading (.query (source = .mcp) profile password { queryId, connectionId, sql, database := none }) .ok
  return collectQueryEvents rowLimit events

def executeReadonlyMcp (connectionId : Uuid) (sql : String) : Task Row AppError (CollectedQueryResult Row) :=
  executeCollected connectionId sql .mcp mcpReadonlyRowLimit

/-! ### Tools -/

/-- What a tool answers; the summary of a query is sent without its error. -/
inductive ToolResponse (Row : Type) where
  | connections (profiles : List SavedProfile)
  | summary (result : CollectedQueryResult Row)
  | queuedForConfirmation (proposalId : Uuid) (risk : String)
  | queued (proposalId : Uuid) (risk : String)
deriving DecidableEq, Repr

def truncateSql (sql : String) : String :=
  let trimmed := Text.trim sql
  if trimmed.length ≤ 160 then trimmed else String.ofList (trimmed.toList.take 160) ++ "…"

def lowerRisk (risk : SqlRisk) : String := String.ofList ((riskDebug risk).toList.map Char.toLower)

/-- Whether a tool reports an application error, by its message. -/
def reported {α : Type} (result : Except AppError α) : Except McpError α := result.mapError fun error => toolError error.message

/-- `McpQueue::propose`: the activity is logged behind the lock of the queue. -/
def propose (connectionId : Uuid) (sql : String) (risk : SqlRisk) (sourceTool : String) : Task Row McpError PendingSqlProposal := do
  let proposal ← reading (.propose connectionId sql risk sourceTool) reported
  reading (.pushActivity proposal.sourceTool (some connectionId) (truncateSql sql) true
    (some s!"proposal_id={proposal.id} risk={riskDebug risk}")) .ok
  return proposal

/-- Logs a read-only query of a tool and answers with its summary or its error. -/
def reportQuery (tool : String) (connectionId : Uuid) (sql : String) : Task Row McpError (ToolResponse Row) := do
  let result ← (executeReadonlyMcp connectionId sql).adapt fun error => toolError error.message
  reading (.pushActivity tool (some connectionId) sql result.error.isNone (some result.shortDetail)) .ok
  decided <| match result.error with
    | some error => .error (toolError error)
    | none => .ok (.summary result)

section
variable (library : UuidLibrary)

def parseUuid (value : String) : Except McpError Uuid :=
  match library.parseStr (Text.trim value) with
  | some id => .ok id
  | none => .error (toolError "connection_id must be a valid UUID")

/-- The connection that a tool names, once it is parsed and authorized. -/
def authorized (connectionId : String) : Task Row McpError Uuid := do
  let connectionId ← decided (parseUuid library connectionId)
  let _ ← reading (.requireMysql connectionId) id
  return connectionId

/-- A trimmed argument that must not be empty. -/
def required (argument value : String) : Except McpError String :=
  let trimmed := Text.trim value
  if trimmed = "" then .error (toolError s!"{argument} must not be empty") else .ok trimmed

def listConnections : Task Row McpError (ToolResponse Row) := do
  let profiles ← reading .listConnections reported
  let scope ← reading .readScope .ok
  let available := if !scope.restrictToConnection then profiles else profiles.filter fun profile => scope.allows profile.id
  reading (.pushActivity "list_connections" none s!"listed {available.length} connection(s)" true none) .ok
  return .connections available

def listTables (connectionId : String) : Task Row McpError (ToolResponse Row) := do
  let connectionId ← authorized library connectionId
  reportQuery "list_tables" connectionId "SHOW FULL TABLES"

def describeTable (connectionId tableName : String) : Task Row McpError (ToolResponse Row) := do
  let connectionId ← authorized library connectionId
  let table ← decided (required "table_name" tableName)
  reportQuery "describe_table" connectionId ("DESCRIBE " ++ quoteIdentifier table)

def runReadonlyQuery (connectionId sql : String) : Task Row McpError (ToolResponse Row) := do
  let connectionId ← authorized library connectionId
  let sql ← decided (required "sql" sql)
  let risk := SqlPolicy.classifySql (SqlPolicy.asBytes sql)
  if risk ≠ .read then
    let proposal ← propose connectionId sql risk "run_readonly_query"
    return .queuedForConfirmation proposal.id (lowerRisk risk)
  else reportQuery "run_readonly_query" connectionId sql

def proposeSql (connectionId sql : String) : Task Row McpError (ToolResponse Row) := do
  let connectionId ← authorized library connectionId
  let sql ← decided (required "sql" sql)
  let risk := SqlPolicy.classifySql (SqlPolicy.asBytes sql)
  let proposal ← propose connectionId sql risk "propose_sql"
  return .queued proposal.id (lowerRisk risk)

end

/-! ### Commands of the panel -/

/-- Executes a pending proposal with the privileges of the user interface. -/
def mcpExecuteProposal (proposalId : Uuid) : Task Row AppError Unit := do
  let proposal ← reading (.claimForExecute proposalId) id
  let result ← ExceptT.lift (executeCollected proposal.connectionId proposal.sql .ui mcpReadonlyRowLimit).run
  let outcome := proposalOutcome result
  reading (.updateProposal proposalId outcome.1 (some outcome.2.1)) .ok
  reading (.pushActivity "proposal_execute" (some proposal.connectionId) proposal.sql outcome.2.2.isNone (some outcome.2.1)) .ok
  decided <| match outcome.2.2 with
    | some message => .error { code := .internal, message, technicalDetails := some outcome.2.1, retryable := false }
    | none => .ok ()

def mcpDismissProposal (proposalId : Uuid) : Task Row AppError Unit := do
  let proposal ← reading (.claimForDismiss proposalId) id
  reading (.pushActivity "proposal_dismiss" (some proposal.connectionId) proposal.sql true (some "dismissed by user")) .ok

def emptySqlError : AppError where
  code := .validation
  message := "SQL must not be empty"
  technicalDetails := none
  retryable := false

/-- Runs arbitrary SQL from the manual editor of the panel. -/
def mcpRunManualSql (connectionId : Uuid) (sql : String) : Task Row AppError Unit := do
  let trimmed ← decided (if Text.trim sql = "" then .error emptySqlError else .ok (Text.trim sql))
  let result ← executeCollected connectionId trimmed .ui mcpReadonlyRowLimit
  reading (.pushActivity "manual_sql" (some connectionId) trimmed result.error.isNone (some result.shortDetail)) .ok
  decided <| match result.error with
    | some message => .error { code := .internal, message, technicalDetails := none, retryable := false }
    | none => .ok ()

def requireConnections : List Uuid → Task Row AppError Unit
  | [] => return ()
  | connectionId :: connectionIds => do
    let _ ← reading (.getConnection connectionId) id
    requireConnections connectionIds

def validateConnectionScope (scope : McpConnectionScope) : Task Row AppError Unit := do
  decided <| if scope.restrictToConnection && scope.targetConnectionIds.isEmpty then
      .error {
        code := .validation
        message := "Select at least one connection before enabling MCP connection restriction"
        technicalDetails := none
        retryable := false }
    else .ok ()
  requireConnections scope.targetConnectionIds

/-- The settings of the server are saved under its own lock, and then the shared scope is written. -/
def mcpSetConnectionScope (restrictToConnection : Bool) (targetConnectionIds : List Uuid) : Task Row AppError Unit := do
  let scope : McpConnectionScope := ⟨restrictToConnection, uniqueIds targetConnectionIds⟩
  validateConnectionScope scope
  reading .saveSettings id
  reading (.writeScope scope) .ok

/-! ### The system -/

inductive Outcome (Row : Type) where
  | tool (result : Except McpError (ToolResponse Row))
  | command (result : Except AppError Unit)

def answering (task : Task Row McpError (ToolResponse Row)) : Program Operation (Reply Row) (Outcome Row) :=
  Program.bind task.run fun result => .done (.tool result)

def commanding (task : Task Row AppError Unit) : Program Operation (Reply Row) (Outcome Row) :=
  Program.bind task.run fun result => .done (.command result)

def program (library : UuidLibrary) : Launch → Program Operation (Reply Row) (Outcome Row)
  | .listConnections => answering listConnections
  | .listTables connectionId => answering (listTables library connectionId)
  | .describeTable connectionId tableName => answering (describeTable library connectionId tableName)
  | .runReadonlyQuery connectionId sql => answering (runReadonlyQuery library connectionId sql)
  | .proposeSql connectionId sql => answering (proposeSql library connectionId sql)
  | .executeProposal proposalId => commanding (mcpExecuteProposal proposalId)
  | .dismissProposal proposalId => commanding (mcpDismissProposal proposalId)
  | .runManualSql connectionId sql => commanding (mcpRunManualSql connectionId sql)
  | .setConnectionScope restrictToConnection targetConnectionIds =>
    commanding (mcpSetConnectionScope restrictToConnection targetConnectionIds)
  | .callStore call => commanding (reading (.callStore call) id)

/-- A restart of the application, which loads its settings, keeps the store alone. -/
def restarted (settings : McpSettings) (shared : Shared) : Shared where
  store := shared.store
  connectionScope := .fromSettings settings
  queue := ⟨[]⟩
  activity := []
  history := ⟨none, .rescoped (.fromSettings settings)⟩ :: shared.history

/-- Calls that start, end at any point, and a restart with the settings it loads. -/
def machine (library : UuidLibrary) : Machine Operation (Reply Row) Shared (World Row) Launch McpSettings (Outcome Row) where
  serve := serve
  enter process launch shared := shared.record process (.started launch)
  program _ := program library
  disrupt := restarted

/-- The application as it launches for the first time that is looked at. -/
def launched (store : LocalStore) (settings : McpSettings) : Shared :=
  restarted settings ⟨store, .fromSettings settings, ⟨[]⟩, [], []⟩

end Pipa.McpService
