import Pipa.LocalStore

/-! The reusable statements of the store and their directories. -/

namespace Pipa.SqlLibraryRepository
open Statements LocalStore

/-- The `NOCASE` collation: ASCII letters are folded, and nothing is compared behind a NUL
but the number of bytes. -/
def noCaseEqual (left right : String) : Bool :=
  let folded (text : String) : List Char := (text.toList.takeWhile (· ≠ '\x00')).map Char.toLower
  folded left = folded right && left.utf8ByteSize = right.utf8ByteSize

def validationError (message : String) : AppError where
  code := .validation
  message
  technicalDetails := none
  retryable := false

def notFoundError (message : String) : AppError where
  code := .notFound
  message
  technicalDetails := none
  retryable := false

/-- The constraint of `sql_folders`: no two directories of one engine have the same name. -/
def uniqueNames (folders : List SqlFolder) : Bool :=
  folders.all fun one => folders.all fun other =>
    one.id = other.id || one.engine ≠ other.engine || !noCaseEqual one.name other.name

/-- The conflict branch leaves the engine as it is. -/
def upsertFolder (folder : SqlFolder) (fault : Option String) : Sql Unit :=
  execute fault fun store =>
    let sqlFolders := store.sqlFolders.insertOrUpdate folder
      (fun old => { old with name := folder.name, updatedAt := folder.updatedAt }) fun _ => rfl
    if uniqueNames sqlFolders.rows then .ok ((), { store with sqlFolders })
    else .error "UNIQUE constraint failed: sql_folders.engine, sql_folders.name"

def saveSqlFolder (id : Uuid) (engine : Engine) (name now : String) (faults : Faults) : Storing SqlFolder := do
  let failed := storageError "Could not save common SQL directory"
  let existingEngine ← mapError (failed "read existing common SQL directory") <|
    query (faults 0) fun store => (store.sqlFolders.find? id).map SqlFolder.engine
  if existingEngine.any (· ≠ engine) then
    fail (validationError "A common SQL directory cannot change database type")
  else
    let duplicate ← mapError (failed "check common SQL directory name") <|
      query (faults 1) fun store =>
        store.sqlFolders.rows.any fun row => row.engine = engine && noCaseEqual row.name name && row.id ≠ id
    if duplicate then
      fail (validationError "A common SQL directory with this name already exists")
    else
      let folder : SqlFolder := { id, engine, name, updatedAt := now }
      mapError (failed "upsert common SQL directory") (upsertFolder folder (faults 2))
      pure folder

/-- The foreign key of the entries leaves those of the directory without one. -/
def deleteSqlFolder (id : Uuid) (faults : Faults) : Storing Unit :=
  mapError (storageError "Could not delete common SQL directory" "delete common SQL directory") <|
    write (faults 0) fun store =>
      { store with
        sqlFolders := store.sqlFolders.deleteWhere fun row => row.id = id
        commonSql := store.commonSql.updateWhere (fun row => row.folderId = some id) (fun row => { row with folderId := none })
          fun _ => rfl }

/-- The conflict branch leaves the engine as it is. -/
def upsertEntry (entry : CommonSql) (fault : Option String) : Sql Unit :=
  execute fault fun store =>
    if entry.folderId.all fun folderId => (store.sqlFolders.find? folderId).isSome then
      .ok ((), { store with
        commonSql := store.commonSql.insertOrUpdate entry
          (fun old => { old with
            folderId := entry.folderId, name := entry.name, sqlText := entry.sqlText, updatedAt := entry.updatedAt })
          fun _ => rfl })
    else .error "FOREIGN KEY constraint failed"

/-- The directory an entry names must be there and of the same engine. -/
def checkFolder (folderId : Option Uuid) (engine : Engine) (fault : Option String) : Storing Unit :=
  match folderId with
  | none => pure ()
  | some folderId => do
    let folderEngine ← mapError (storageError "Could not save common SQL" "read target common SQL directory") <|
      query fault fun store => (store.sqlFolders.find? folderId).map SqlFolder.engine
    match folderEngine with
    | none => fail (notFoundError "Common SQL directory was not found")
    | some value =>
      if value ≠ engine then fail (validationError "Common SQL and its directory must use the same database type")
      else pure ()

def saveCommonSql (id : Uuid) (engine : Engine) (folderId : Option Uuid) (name sqlText now : String) (faults : Faults) :
    Storing CommonSql := do
  let failed := storageError "Could not save common SQL"
  let existingEngine ← mapError (failed "read existing common SQL entry") <|
    query (faults 0) fun store => (store.commonSql.find? id).map CommonSql.engine
  if existingEngine.any (· ≠ engine) then
    fail (validationError "A common SQL entry cannot change database type")
  else
    checkFolder folderId engine (faults 1)
    let entry : CommonSql := { id, engine, folderId, name, sqlText, updatedAt := now }
    mapError (failed "upsert common SQL entry") (upsertEntry entry (faults 2))
    pure entry

def deleteCommonSql (id : Uuid) (faults : Faults) : Storing Unit :=
  mapError (storageError "Could not delete common SQL" "delete common SQL entry") <|
    write (faults 0) fun store => { store with commonSql := store.commonSql.deleteWhere fun row => row.id = id }

end Pipa.SqlLibraryRepository
