import Pipa.Library.Sending
import Pipa.QueryRunner

/-! The MySQL adapter's query execution: it turns the items of a driver stream into
ordered query events. The driver is a parameter, known by what it answers. -/

namespace Pipa

inductive SqlxErrorKind where
  | poolTimedOut
  | database (number : Nat)
  | io
  | tls
  | poolClosed
  | workerCrashed
  | other
deriving DecidableEq, Repr

structure SqlxError where
  kind : SqlxErrorKind
  message : String
deriving DecidableEq, Repr

/-- A driver row: its columns with their type names, and each cell as it converts. -/
structure MySqlRow where
  columns : List (String × String)
  cells : List (Except SqlxError CellValue)

/-- An item of the driver stream: a row, the result behind a statement's rows, or an error. -/
inductive DriverItem where
  | row (row : MySqlRow)
  | result (rowsAffected : Nat)
  | failed (error : SqlxError)

/-- What the driver answers during one query. -/
structure DriverSession where
  acquire : Except SqlxError Unit
  setReadOnly : Except SqlxError Unit
  items : List DriverItem
  setReadWrite : Except SqlxError Unit

namespace MySqlQuery
open Sending

abbrev Cells := List CellValue

abbrev M := Sender (QueryEvent Cells) AppError

def maxBatchRows : Nat := 256

def normalizeDatabaseType (databaseType : String) : String :=
  if databaseType = "BOOLEAN" then "TINYINT" else databaseType

def queryColumns (row : MySqlRow) : List QueryColumn :=
  row.columns.map fun (name, type) => { name, databaseType := normalizeDatabaseType type, nullable := none }

def convertRow (row : MySqlRow) : Except SqlxError Cells := row.cells.mapM id

/-- Rust's `str::replace`, where the old text is not empty. -/
def replaceText (old new : List Char) : Nat → List Char → List Char
  | 0, text => text
  | _ + 1, [] => []
  | fuel + 1, c :: rest =>
    if old.isPrefixOf (c :: rest) then new ++ replaceText old new fuel ((c :: rest).drop old.length)
    else c :: replaceText old new fuel rest

def redact (password message : String) : String :=
  if password.isEmpty then message
  else String.ofList (replaceText password.toList "[REDACTED]".toList message.toList.length message.toList)

def stableError (code : AppErrorCode) (message : String) (error : SqlxError) (password : String) (retryable : Bool) : AppError :=
  { code, message, technicalDetails := some (redact password error.message), retryable }

def mapConnectionError (error : SqlxError) (password : String) : AppError :=
  match error.kind with
  | .poolTimedOut => stableError .timeout "Connection timed out" error password true
  | .database 1045 => stableError .authentication "Authentication failed" error password false
  | .io | .tls | .poolClosed | .workerCrashed =>
    stableError .connection "Could not connect to the database" error password true
  | .database _ | .other => stableError .connection "Could not connect to the database" error password false

def mapQueryError (error : SqlxError) (password : String) : AppError :=
  match error.kind with
  | .poolTimedOut => stableError .timeout "Query timed out" error password true
  | .database 1044 | .database 1045 | .database 1142 | .database 1227 =>
    stableError .permission "Query permission denied" error password false
  | .io | .tls | .workerCrashed => stableError .connection "Database connection lost" error password true
  | .database _ | .poolClosed | .other => stableError .query "Query execution failed" error password false

def receiverGone : AppError where
  code := .internal
  message := "Query event receiver is unavailable"
  technicalDetails := none
  retryable := false

def sendEvent (event : QueryEvent Cells) : M Unit := send receiverGone event

def sendQueryFailure (queryId : Uuid) (error : SqlxError) (password : String) : M Unit :=
  sendEvent (.failed queryId (mapQueryError error password))

def multipleResultSets : AppError where
  code := .query
  message := "Multiple result sets are not supported"
  technicalDetails := none
  retryable := false

/-- The local variables of the loop over the driver stream. -/
structure Streaming where
  schemaSent : Bool
  currentResultHasRows : Bool
  completedRowResult : Bool
  batch : List Cells
  affectedRows : Nat

def Streaming.start : Streaming where
  schemaSent := false
  currentResultHasRows := false
  completedRowResult := false
  batch := []
  affectedRows := 0

section Query
variable (queryId : Uuid) (password : String)

/-- Sends the rows collected so far, if there are any. -/
def flush (batch : List Cells) : M Unit := do
  if !batch.isEmpty then sendEvent (.batch queryId batch)

/-- Adds a converted row to the batch, which goes out once it is full. -/
def collect (state : Streaming) (row : MySqlRow) : M (Option Streaming) :=
  match convertRow row with
  | .error error => do
    sendQueryFailure queryId error password
    return none
  | .ok cells => do
    let batch := state.batch ++ [cells]
    if batch.length = maxBatchRows then
      sendEvent (.batch queryId batch)
      return some { state with currentResultHasRows := true, schemaSent := true, batch := [] }
    else return some { state with currentResultHasRows := true, schemaSent := true, batch }

/-- What one item does to the loop; `none` when it has ended the query. -/
def takeItem (state : Streaming) : DriverItem → M (Option Streaming)
  | .result rowsAffected => do
    let state := { state with affectedRows := min (state.affectedRows + rowsAffected) 18446744073709551615 }
    if state.currentResultHasRows then
      flush queryId state.batch
      return some { state with batch := [], currentResultHasRows := false, completedRowResult := true }
    else return some state
  | .row row => do
    if state.completedRowResult then
      sendEvent (.failed queryId multipleResultSets)
      return none
    else
      if !state.schemaSent then sendEvent (.schema queryId (queryColumns row))
      collect queryId password state row
  | .failed error => do
    sendQueryFailure queryId error password
    return none

/-- The loop over the stream, which ends with its last item. A token that is
cancelled by a turn of the loop is seen before the turn's item. -/
def stream (cancelAt : Option Nat) : Nat → Streaming → List DriverItem → M (Option Streaming)
  | turn, state, items => do
    if cancelAt.any (· ≤ turn) then
      sendEvent (.canceled queryId)
      return none
    else
      match items with
      | [] => return some state
      | item :: items =>
        match ← takeItem queryId password state item with
        | none => return none
        | some state => stream cancelAt (turn + 1) state items

/-- What follows the stream: the last rows, the session reset and the final event. -/
def finish (readOnly : Bool) (session : DriverSession) (state : Streaming) : M Unit := do
  flush queryId state.batch
  match readOnly, session.setReadWrite with
  | true, .error error => sendQueryFailure queryId error password
  | _, _ => sendEvent (.completed queryId state.affectedRows)

/-- Executes a query with optional database-enforced read-only session semantics. -/
def executeQuery (readOnly : Bool) (session : DriverSession) (cancelAt : Option Nat) : M Unit := do
  match session.acquire with
  | .error error => throw (mapConnectionError error password)
  | .ok () =>
    sendEvent (.started queryId)
    match readOnly, session.setReadOnly with
    | true, .error error => sendQueryFailure queryId error password
    | _, _ =>
      match ← stream queryId password cancelAt 0 .start session.items with
      | none => return
      | some state => finish queryId password readOnly session state

end Query

/-- The adapter that a driver makes: what it sends for a request, and how it returns. -/
def adapter (driver : ConnectionProfile → String → QueryRequest → DriverSession) (cancelAt room : Option Nat) :
    QueryRunner.MySqlAdapter Cells :=
  fun readOnly profile password request =>
    deliver room (executeQuery request.queryId password readOnly (driver profile password request) cancelAt)

end MySqlQuery

end Pipa
