import Pipa.SqlLibraryRepository
import Pipa.Text

/-! The commands of the application over the encrypted store. -/

namespace Pipa.StoreCommands
open Statements SqlLibraryRepository

def engineValidationError (expectedEngine : String) : AppError where
  code := .validation
  message := "Connection profile must use " ++ expectedEngine
  technicalDetails := none
  retryable := false

def saveMysqlConnection (profile : SavedProfile) (password now : String) (faults : Faults) : Storing SavedProfile :=
  if profile.engine ≠ .mySql then fail (engineValidationError "MySQL")
  else do
    ConnectionRepository.saveConnectionWithCredential profile password now faults
    pure profile

def saveRedisConnection (profile : SavedProfile) (password now : String) (faults : Faults) : Storing SavedProfile :=
  if profile.engine ≠ .redis then fail (engineValidationError "Redis")
  else do
    ConnectionRepository.saveConnectionWithCredential profile password now faults
    pure profile

def renameConnection (connectionId : Uuid) (name now : String) (faults : Faults) : Storing SavedProfile :=
  let trimmedName := Text.trim name
  if trimmedName = "" then fail (validationError "Connection name cannot be empty")
  else ConnectionRepository.renameConnection connectionId trimmedName now faults

def normalized (profile : SavedProfile) : SavedProfile := { profile with
  name := Text.trim profile.name
  host := Text.trim profile.host
  username := Text.trim profile.username
  database := (profile.database.map Text.trim).filter (· ≠ "") }

def updateConnectionProfile (profile : SavedProfile) (now : String) (faults : Faults) : Storing SavedProfile :=
  let normalized := normalized profile
  if normalized.name = "" then fail (validationError "Connection name cannot be empty")
  else if normalized.host = "" then fail (validationError "Connection host cannot be empty")
  else if normalized.port = 0 then fail (validationError "Connection port must be between 1 and 65535")
  else if normalized.engine = .mySql ∧ normalized.username = "" then
    fail (validationError "MySQL connections require a username")
  else ConnectionRepository.updateConnectionProfile normalized now faults

/-- A label of the library, trimmed and bounded. -/
def validatedLibraryName (value field : String) : Except AppError String :=
  let value := Text.trim value
  if value = "" then .error (validationError s!"{field} cannot be empty")
  else if 120 < value.length then .error (validationError s!"{field} cannot be longer than 120 characters")
  else .ok value

def saveSqlFolder (id : Uuid) (engine : Engine) (name now : String) (faults : Faults) : Storing SqlFolder :=
  match validatedLibraryName name "Directory name" with
  | .error error => fail error
  | .ok name => SqlLibraryRepository.saveSqlFolder id engine name now faults

def saveCommonSql (id : Uuid) (engine : Engine) (folderId : Option Uuid) (name sqlText now : String) (faults : Faults) :
    Storing CommonSql :=
  match validatedLibraryName name "Common SQL name" with
  | .error error => fail error
  | .ok name =>
    if Text.trim sqlText = "" then fail (validationError "Common SQL cannot be empty")
    else if 1000000 < sqlText.utf8ByteSize then fail (validationError "Common SQL cannot be larger than 1 MB")
    else SqlLibraryRepository.saveCommonSql id engine folderId name sqlText now faults

/-- A command that may write the store, with its input. -/
inductive Command where
  | saveMysqlConnection (profile : SavedProfile) (password : String)
  | saveRedisConnection (profile : SavedProfile) (password : String)
  | renameConnection (connectionId : Uuid) (name : String)
  | updateConnectionProfile (profile : SavedProfile)
  | deleteConnection (connectionId : Uuid)
  | saveWorkspace (windowLabel : String) (tabs : List WorkspaceTab)
  | transferWorkspaceTab (tab : WorkspaceTab) (sourceWindowLabel targetWindowLabel : String)
  | recordQueryHistory (queryId connectionId : Uuid) (sql : String)
  | saveSqlFolder (id : Uuid) (engine : Engine) (name : String)
  | deleteSqlFolder (id : Uuid)
  | saveCommonSql (id : Uuid) (engine : Engine) (folderId : Option Uuid) (name sqlText : String)
  | deleteCommonSql (id : Uuid)

/-- A command as it is called: at a time, and with the statements that fail. -/
structure Call where
  command : Command
  now : String
  faults : Faults

def Call.run (call : Call) : Storing Unit :=
  match call.command with
  | .saveMysqlConnection profile password => do let _ ← StoreCommands.saveMysqlConnection profile password call.now call.faults
  | .saveRedisConnection profile password => do let _ ← StoreCommands.saveRedisConnection profile password call.now call.faults
  | .renameConnection connectionId name => do let _ ← StoreCommands.renameConnection connectionId name call.now call.faults
  | .updateConnectionProfile profile => do let _ ← StoreCommands.updateConnectionProfile profile call.now call.faults
  | .deleteConnection connectionId => ConnectionRepository.deleteConnection connectionId call.faults
  | .saveWorkspace windowLabel tabs => WorkspaceRepository.saveWorkspace windowLabel tabs call.faults
  | .transferWorkspaceTab tab sourceWindowLabel targetWindowLabel =>
    WorkspaceRepository.transferWorkspaceTab tab sourceWindowLabel targetWindowLabel call.faults
  | .recordQueryHistory queryId connectionId sql =>
    WorkspaceRepository.recordQueryHistory { id := queryId, connectionId, sqlText := sql, executedAt := call.now } call.faults
  | .saveSqlFolder id engine name => do let _ ← StoreCommands.saveSqlFolder id engine name call.now call.faults
  | .deleteSqlFolder id => SqlLibraryRepository.deleteSqlFolder id call.faults
  | .saveCommonSql id engine folderId name sqlText => do
    let _ ← StoreCommands.saveCommonSql id engine folderId name sqlText call.now call.faults
  | .deleteCommonSql id => SqlLibraryRepository.deleteCommonSql id call.faults

/-- The store after a call, however the call ended. -/
def step (store : LocalStore) (call : Call) : LocalStore := call.run.stored store

end Pipa.StoreCommands
