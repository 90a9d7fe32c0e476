import Mathlib.Data.List.Sort
import Pipa.AppError
import Pipa.Connection
import Pipa.Library.KeyedTable
import Pipa.Library.Statements
import Pipa.Text
import Pipa.WorkspacePersistence

/-! The stored query tabs of all windows. A command reports the error of its
statement, and its transaction leaves the table as it was. -/

namespace Pipa

structure WorkspaceRow where
  tab : WorkspaceTab
  windowLabel : String
deriving DecidableEq, Repr

namespace LocalStore

def storageError (message operation source : String) : AppError where
  code := .storage
  message
  technicalDetails := some (operation ++ ": " ++ source)
  retryable := false

/-- The rows of `workspace_tabs`, whose primary key is the id of the tab. -/
abbrev WorkspaceTabs := KeyedTable fun row : WorkspaceRow => row.tab.id

section
variable (workspaceTabs : WorkspaceTabs)

/-- Replaces the tabs of one window. A statement may fail for reasons of its own. -/
def saveWorkspace (windowLabel : String) (tabs : List WorkspaceTab) (fault : Option String) : Except AppError WorkspaceTabs :=
  let failed := storageError "Could not save query workspace" "replace workspace tabs"
  match fault with
  | some source => .error (failed source)
  | none =>
    match (workspaceTabs.deleteWhere fun row => row.windowLabel = windowLabel).insertAll
        (tabs.map fun tab => { tab, windowLabel }) with
    | none => .error (failed "UNIQUE constraint failed: workspace_tabs.id")
    | some replaced => .ok replaced

/-- The order of the stored tabs: by position, and by id where the positions are equal. -/
def storedBefore (left right : WorkspaceTab) : Bool :=
  left.position < right.position || (left.position = right.position && left.id ≤ right.id)

def loadWorkspace (windowLabel : String) : List WorkspaceTab :=
  ((workspaceTabs.rows.filter fun row => row.windowLabel = windowLabel).map WorkspaceRow.tab).mergeSort storedBefore

/-- Moves a tab to another window, if it is stored for the one it leaves or for none. -/
def transferWorkspaceTab (tab : WorkspaceTab) (sourceWindowLabel targetWindowLabel : String) (fault : Option String) :
    Except AppError WorkspaceTabs :=
  match fault with
  | some source => .error (storageError "Could not move query workspace" "transfer workspace tab" source)
  | none =>
    match workspaceTabs.upsert { tab := { tab with position := 0 }, windowLabel := targetWindowLabel }
        fun row => row.windowLabel = sourceWindowLabel with
    | none => .error {
        code := .notFound
        message := "Query workspace was not found in the source window"
        technicalDetails := none
        retryable := false }
    | some moved => .ok moved

end

end LocalStore

end Pipa

/-! The encrypted store and its repositories, statement by statement. `faults` says which
statements of a call fail for reasons of their own, by their place in the call. -/

namespace Pipa

inductive Environment where
  | production | development | unspecified
deriving DecidableEq, Repr

inductive TlsMode where
  | disabled | preferred | required
deriving DecidableEq, Repr

/-- A profile with every field that is saved. -/
structure SavedProfile extends ConnectionProfile where
  environment : Environment
  host : String
  port : Nat
  username : String
  tlsMode : TlsMode
deriving DecidableEq, Repr

structure ConnectionRow extends SavedProfile where
  updatedAt : String
deriving DecidableEq, Repr

structure CredentialRow where
  connectionId : Uuid
  password : String
deriving DecidableEq, Repr

structure QueryHistoryEntry where
  id : Uuid
  connectionId : Uuid
  sqlText : String
  executedAt : String
deriving DecidableEq, Repr

structure SqlFolder where
  id : Uuid
  engine : Engine
  name : String
  updatedAt : String
deriving DecidableEq, Repr

structure CommonSql where
  id : Uuid
  engine : Engine
  folderId : Option Uuid
  name : String
  sqlText : String
  updatedAt : String
deriving DecidableEq, Repr

/-- The tables of the store, each with its primary key. -/
structure LocalStore where
  connections : KeyedTable fun row : ConnectionRow => row.id
  credentials : KeyedTable CredentialRow.connectionId
  workspaceTabs : LocalStore.WorkspaceTabs
  queryHistory : KeyedTable QueryHistoryEntry.id
  sqlFolders : KeyedTable SqlFolder.id
  commonSql : KeyedTable CommonSql.id

instance : Inhabited LocalStore := ⟨⟨default, default, default, default, default, default⟩⟩

abbrev Faults := Nat → Option String

/-- A program over the store, whose statements fail with the text of the database. -/
abbrev Sql (α : Type) := Statements LocalStore String α

/-- A call of the store, which reports an application error. -/
abbrev Storing (α : Type) := Statements LocalStore AppError α

namespace LocalStore
open Statements

/-- A statement that changes no row: `BEGIN`, `COMMIT` or a preparation. -/
def control (fault : Option String) : Sql Unit := execute fault fun store => .ok ((), store)

def write (fault : Option String) (change : LocalStore → LocalStore) : Sql Unit :=
  execute fault fun store => .ok ((), change store)

end LocalStore

namespace ConnectionRepository
open Statements LocalStore

def connectionNotFoundError : AppError where
  code := .notFound
  message := "Database connection was not found"
  technicalDetails := none
  retryable := false

def credentialNotFoundError : AppError where
  code := .notFound
  message := "Database credential was not found"
  technicalDetails := none
  retryable := false

def connectionRow (profile : SavedProfile) (now : String) : ConnectionRow := { toSavedProfile := profile, updatedAt := now }

/-- The conflict branch takes every field of the new row, the engine among them. -/
def putConnection (profile : SavedProfile) (now : String) (store : LocalStore) : LocalStore :=
  { store with
    connections := store.connections.insertOrUpdate (connectionRow profile now)
      (fun old => { connectionRow profile now with id := old.id }) fun _ => rfl }

def putCredential (connectionId : Uuid) (password : String) (store : LocalStore) : LocalStore :=
  { store with
    credentials := store.credentials.insertOrUpdate { connectionId, password } (fun old => { old with password }) fun _ => rfl }

def upsertConnection (profile : SavedProfile) (now : String) (fault : Option String) : Sql Unit :=
  write fault (putConnection profile now)

def upsertCredential (connectionId : Uuid) (password : String) (fault : Option String) : Sql Unit :=
  execute fault fun store =>
    if (store.connections.find? connectionId).isSome then .ok ((), putCredential connectionId password store)
    else .error "FOREIGN KEY constraint failed"

def saveConnectionWithCredential (profile : SavedProfile) (password now : String) (faults : Faults) : Storing Unit :=
  mapError (storageError "Could not save database connection" "upsert connection profile and credential transaction") <|
    transaction do
      control (faults 0)
      upsertConnection profile now (faults 1)
      upsertCredential profile.id password (faults 2)
      control (faults 3)

def deleteConnection (connectionId : Uuid) (faults : Faults) : Storing Unit :=
  mapError (storageError "Could not delete database connection" "delete connection and related local data transaction") <|
    transaction do
      control (faults 0)
      write (faults 1) fun store =>
        { store with workspaceTabs := store.workspaceTabs.deleteWhere fun row => row.tab.connectionId = connectionId.hyphenated }
      write (faults 2) fun store =>
        { store with queryHistory := store.queryHistory.deleteWhere fun row => row.connectionId = connectionId }
      -- the foreign key of the credentials deletes with the connection
      write (faults 3) fun store =>
        { store with
          connections := store.connections.deleteWhere fun row => row.id = connectionId
          credentials := store.credentials.deleteWhere fun row => row.connectionId = connectionId }
      control (faults 4)

/-- Reads a row back that an `UPDATE` changed. -/
def readBack (connectionId : Uuid) (changed : Bool) (fault : Option String) : Sql (Option SavedProfile) :=
  if changed then
    execute fault fun store =>
      match store.connections.find? connectionId with
      | some row => .ok (some row.toSavedProfile, store)
      | none => .error "Query returned no rows"
  else pure none

/-- Changes the rows an `UPDATE` matches and reads the row back if there was one. -/
def updateReturning (connectionId : Uuid) (matched : ConnectionRow → Bool) (change : ConnectionRow → ConnectionRow)
    (same : ∀ row, (change row).id = row.id) (faults : Faults) : Sql (Option SavedProfile) :=
  transaction do
    control (faults 0)
    let changed ← execute (faults 1) fun store =>
      .ok (store.connections.rows.any matched, { store with connections := store.connections.updateWhere matched change same })
    let profile ← readBack connectionId changed (faults 2)
    control (faults 3)
    pure profile

def orNotFound : Option SavedProfile → Storing SavedProfile
  | some profile => pure profile
  | none => fail connectionNotFoundError

def renamedRow (name now : String) (row : ConnectionRow) : ConnectionRow := { row with name, updatedAt := now }

theorem renamedRow_id (name now : String) (row : ConnectionRow) : (renamedRow name now row).id = row.id := rfl

def renameConnection (connectionId : Uuid) (name now : String) (faults : Faults) : Storing SavedProfile := do
  let result ← mapError (storageError "Could not rename database connection" "rename connection profile transaction") <|
    updateReturning connectionId (fun row => row.id = connectionId) (renamedRow name now) (renamedRow_id name now) faults
  orNotFound result

/-- The fields an `UPDATE` sets: all but the id and the engine. -/
def editedRow (profile : SavedProfile) (now : String) (row : ConnectionRow) : ConnectionRow := { row with
  name := profile.name
  environment := profile.environment
  host := profile.host
  port := profile.port
  username := profile.username
  database := profile.database
  tlsMode := profile.tlsMode
  updatedAt := now }

theorem editedRow_id (profile : SavedProfile) (now : String) (row : ConnectionRow) : (editedRow profile now row).id = row.id := rfl

def updateConnectionProfile (profile : SavedProfile) (now : String) (faults : Faults) : Storing SavedProfile := do
  let result ← mapError (storageError "Could not update database connection" "update connection profile transaction") <|
    updateReturning profile.id (fun row => row.id = profile.id && row.engine = profile.engine)
      (editedRow profile now) (editedRow_id profile now) faults
  orNotFound result

def getConnection (connectionId : Uuid) (fault : Option String) : Storing SavedProfile := do
  let row ← mapError (storageError "Could not read database connection" "read connection profile") <|
    query fault fun store => store.connections.find? connectionId
  orNotFound (row.map ConnectionRow.toSavedProfile)

def getConnectionCredential (connectionId : Uuid) (fault : Option String) : Storing String := do
  let row ← mapError (storageError "Could not read database credential" "read encrypted connection credential") <|
    query fault fun store => store.credentials.find? connectionId
  match row with
  | some row => pure row.password
  | none => fail credentialNotFoundError

/-- What the `NOCASE` collation compares: the folded text up to a NUL, and then the number of bytes. -/
def noCaseKey (text : String) : String × Nat :=
  (String.ofList ((text.toList.takeWhile (· ≠ '\x00')).map Char.toLower), text.utf8ByteSize)

/-- By name without case, and by id where the names are equal. -/
def listedBefore (left right : SavedProfile) : Bool :=
  let name := noCaseKey left.name
  let other := noCaseKey right.name
  name.1 < other.1 || name.1 = other.1 && (name.2 < other.2 || name.2 = other.2 && left.id.hyphenated ≤ right.id.hyphenated)

def listConnections (faults : Faults) : Storing (List SavedProfile) := do
  let failed := storageError "Could not list database connections"
  mapError (failed "prepare connection query") <| query (faults 0) fun _ => ()
  mapError (failed "read connection profiles") <|
    query (faults 1) fun store =>
      (store.connections.rows.map ConnectionRow.toSavedProfile).insertionSort fun left right => listedBefore left right

end ConnectionRepository

namespace WorkspaceRepository
open Statements LocalStore

def insertTab (windowLabel : String) (tab : WorkspaceTab) (fault : Option String) : Sql Unit :=
  execute fault fun store =>
    match store.workspaceTabs.insert { tab, windowLabel } with
    | some workspaceTabs => .ok ((), { store with workspaceTabs })
    | none => .error "UNIQUE constraint failed: workspace_tabs.id"

def insertTabs (windowLabel : String) (faults : Faults) : List WorkspaceTab → Nat → Sql Unit
  | [], _ => pure ()
  | tab :: tabs, place => do
    insertTab windowLabel tab (faults place)
    insertTabs windowLabel faults tabs (place + 1)

def saveWorkspace (windowLabel : String) (tabs : List WorkspaceTab) (faults : Faults) : Storing Unit :=
  mapError (storageError "Could not save query workspace" "replace workspace tabs") <|
    transaction do
      control (faults 0)
      write (faults 1) fun store =>
        { store with workspaceTabs := store.workspaceTabs.deleteWhere fun row => row.windowLabel = windowLabel }
      control (faults 2)
      insertTabs windowLabel faults tabs 3
      control (faults (tabs.length + 3))

def transferWorkspaceTab (tab : WorkspaceTab) (sourceWindowLabel targetWindowLabel : String) (faults : Faults) : Storing Unit := do
  let updated ← mapError (storageError "Could not move query workspace" "transfer workspace tab") <|
    execute (faults 0) fun store =>
      match store.workspaceTabs.upsert { tab := { tab with position := 0 }, windowLabel := targetWindowLabel }
          fun row => row.windowLabel = sourceWindowLabel with
      | some workspaceTabs => .ok (true, { store with workspaceTabs })
      | none => .ok (false, store)
  if updated then pure ()
  else fail {
    code := .notFound
    message := "Query workspace was not found in the source window"
    technicalDetails := none
    retryable := false }

/-- A UTC time in a four-digit year. The nanoseconds of a leap second go on counting in the
second before it. -/
structure Timestamp where
  year : Nat
  month : Nat
  day : Nat
  hour : Nat
  minute : Nat
  second : Nat
  nanosecond : Nat
  year_bound : year < 10000
  month_bound : 1 ≤ month ∧ month ≤ 12
  day_bound : 1 ≤ day ∧ day ≤ 31
  hour_bound : hour < 24
  minute_bound : minute < 60
  second_bound : second < 60
  nanosecond_bound : nanosecond < 2000000000
  leap : 1000000000 ≤ nanosecond → second = 59
deriving DecidableEq, Repr

/-- `%Y-%m-%dT%H:%M:%S%.9fZ`. -/
def formatTimestamp (timestamp : Timestamp) : String :=
  Text.zeroPadded 4 timestamp.year ++ "-" ++ Text.zeroPadded 2 timestamp.month ++ "-" ++ Text.zeroPadded 2 timestamp.day ++ "T" ++
    Text.zeroPadded 2 timestamp.hour ++ ":" ++ Text.zeroPadded 2 timestamp.minute ++ ":" ++
    Text.zeroPadded 2 (timestamp.second + timestamp.nanosecond / 1000000000) ++ "." ++
    Text.zeroPadded 9 (timestamp.nanosecond % 1000000000) ++ "Z"

/-- `ORDER BY executed_at DESC, id DESC`. -/
def newerFirst (left right : QueryHistoryEntry) : Bool :=
  right.executedAt < left.executedAt ||
    (right.executedAt = left.executedAt && right.id.hyphenated ≤ left.id.hyphenated)

def recordQueryHistory (entry : QueryHistoryEntry) (faults : Faults) : Storing Unit :=
  mapError (storageError "Could not record query history" "insert and trim query history") <|
    transaction do
      control (faults 0)
      write (faults 1) fun store =>
        match store.queryHistory.insert entry with
        | some queryHistory => { store with queryHistory }
        | none => store
      write (faults 2) fun store =>
        let surplus := ((store.queryHistory.rows.mergeSort newerFirst).drop 1000).map QueryHistoryEntry.id
        { store with queryHistory := store.queryHistory.deleteWhere fun row => row.id ∈ surplus }
      control (faults 3)

end WorkspaceRepository

end Pipa
