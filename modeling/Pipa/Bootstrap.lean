import Pipa.AppError
import Pipa.Library.Base64
import Pipa.Library.Disk
import Pipa.Library.Programs

/-! Startup of local storage on Unix: the plaintext bootstrap that holds the root key,
created once under a temporary name and published without replacing another one, and the
encrypted store opened with that key. The operations on the app-data directory are atomic
and may fail; several processes may start at once. -/

namespace Pipa.Bootstrap
open Programs

/-- What a database file holds: nothing yet, a committed bootstrap, an encrypted store, or
bytes that are no database. -/
inductive Content where
  | blank
  | bootstrap (rootKey : List UInt8)
  | store (encryptionKey : String)
  | foreign (bytes : List UInt8)
deriving DecidableEq

structure File where
  content : Content
  mode : Nat
deriving DecidableEq

/-- The kinds of Unix that publish a bootstrap differently. -/
inductive Platform where
  | macOs | otherUnix
deriving DecidableEq, Repr

def localDatabaseKeyLength : Nat := 32

def localDatabaseFilename : String := "pipa-data.db"

def bootstrapDatabaseFilename : String := "pipa-bootstrap.db"

abbrev Key := { bytes : List UInt8 // bytes.length = localDatabaseKeyLength }

inductive Operation where
  | createDirectory
  | restrictDirectory
  | tryExists (name : String)
  | createNew (name : String)
  | setPermissions (name : String)
  | connect (name : String) (create : Bool)
  | configure (name : String)
  | beginTransaction (name : String)
  | commitState (name : String) (rootKey : List UInt8)
  | queryRootKey (name : String)
  | syncAll (name : String)
  | hardLink (source target : String)
  | renameExclusive (source target : String)
  | removeFile (name : String)
  | syncDirectory
  | fillRandom
  | newUuid
  | unlock (name encryptionKey : String)

/-- Replies carry the text of the error that the operation failed with. -/
@[reducible]
def Reply : Operation → Type
  | .tryExists _ => Except String Bool
  | .queryRootKey _ => Except String (List UInt8)
  | .fillRandom => Except String Key
  | .newUuid => String
  | _ => Except String Unit

/-- What the world decides while an operation runs. -/
structure World where
  fault : Option String
  random : Key
  uuid : String

abbrev Directory := Disk File

section
variable (directory : Directory)

/-- An operation that the world lets fail changes nothing. -/
def orFault {α : Type} (fault : Option String) (result : Except String α × Directory) : Except String α × Directory :=
  match fault with
  | some error => (.error error, directory)
  | none => result

/-- An operation on the file of a name. -/
def onFile {α : Type} (name : String) (edit : Nat → Except String α × Directory) : Except String α × Directory :=
  match directory.names name with
  | none => (.error "No such file or directory (os error 2)", directory)
  | some inode => edit inode

def writeContent (inode : Nat) (content : Content) : Directory :=
  directory.write inode { directory.files inode with content }

def notADatabase : String := "file is not a database"

/-- A private file, unless the name is taken. -/
def createNew (name : String) : Except String Unit × Directory :=
  match directory.names name with
  | some _ => (.error "File exists (os error 17)", directory)
  | none => (.ok (), directory.create name ⟨.blank, 0o600⟩)

/-- SQLite creates a missing file when it may. -/
def connect (name : String) (create : Bool) : Except String Unit × Directory :=
  match directory.names name with
  | some _ => (.ok (), directory)
  | none =>
    if create then (.ok (), directory.create name ⟨.blank, 0o644⟩)
    else (.error "unable to open database file", directory)

/-- The first access of a connection finds out whether the file is a plaintext database. -/
def configure (inode : Nat) : Except String Unit × Directory :=
  match (directory.files inode).content with
  | .blank | .bootstrap _ => (.ok (), directory)
  | .store _ | .foreign _ => (.error notADatabase, directory)

/-- The schema and its only row, under the checks of the schema, committed or rolled back whole. -/
def commitState (rootKey : List UInt8) (inode : Nat) : Except String Unit × Directory :=
  match (directory.files inode).content with
  | .blank =>
    if rootKey.length = 32 then (.ok (), writeContent directory inode (.bootstrap rootKey))
    else (.error "CHECK constraint failed: length(root_key) = 32", directory)
  | .bootstrap _ => (.error "table bootstrap_state already exists", directory)
  | .store _ | .foreign _ => (.error notADatabase, directory)

def queryRootKey (inode : Nat) : Except String (List UInt8) × Directory :=
  match (directory.files inode).content with
  | .bootstrap rootKey => (.ok rootKey, directory)
  | .blank => (.error "no such table: bootstrap_state", directory)
  | .store _ | .foreign _ => (.error notADatabase, directory)

/-- Both ways to publish fail where the target exists. -/
def link (source target : String) (drop : Bool) : Except String Unit × Directory :=
  onFile directory source fun inode =>
    match directory.names target with
    | some _ => (.error "File exists (os error 17)", directory)
    | none =>
      let linked := directory.setName target (some inode)
      (.ok (), if drop then linked.setName source none else linked)

/-- An encrypted store takes the key it is first opened with, and no other one. -/
def unlock (encryptionKey : String) (inode : Nat) : Except String Unit × Directory :=
  match (directory.files inode).content with
  | .blank => (.ok (), writeContent directory inode (.store encryptionKey))
  | .store key => if key = encryptionKey then (.ok (), directory) else (.error notADatabase, directory)
  | .bootstrap _ | .foreign _ => (.error notADatabase, directory)

end

def serve (world : World) (operation : Operation) (directory : Directory) : Reply operation × Directory :=
  match operation with
  | .createDirectory | .restrictDirectory | .beginTransaction _ => orFault directory world.fault (.ok (), directory)
  | .tryExists name => orFault directory world.fault (.ok (directory.names name).isSome, directory)
  | .createNew name => orFault directory world.fault (createNew directory name)
  | .setPermissions name =>
    orFault directory world.fault (onFile directory name fun inode =>
      (.ok (), directory.write inode { directory.files inode with mode := 0o600 }))
  | .connect name create => orFault directory world.fault (connect directory name create)
  | .configure name => orFault directory world.fault (onFile directory name (configure directory))
  | .commitState name rootKey => orFault directory world.fault (onFile directory name (commitState directory rootKey))
  | .queryRootKey name => orFault directory world.fault (onFile directory name (queryRootKey directory))
  | .syncAll name => orFault directory world.fault (onFile directory name fun inode => (.ok (), directory.syncFile inode))
  | .hardLink source target => orFault directory world.fault (link directory source target false)
  | .renameExclusive source target => orFault directory world.fault (link directory source target true)
  | .removeFile name => orFault directory world.fault (onFile directory name fun _ => (.ok (), directory.setName name none))
  | .syncDirectory => orFault directory world.fault (.ok (), directory.syncNames)
  | .fillRandom => orFault directory world.fault (.ok world.random, directory)
  | .newUuid => (world.uuid, directory)
  | .unlock name encryptionKey => orFault directory world.fault (onFile directory name (unlock directory encryptionKey))

abbrev Action := ExceptT AppError (Program Operation Reply)

def bootstrapError (message operation source : String) : AppError :=
  { code := .storage, message, technicalDetails := some s!"{operation}: {source}", retryable := false }

def startupStorageError (message operation source : String) : AppError := bootstrapError message operation source

def invalidBootstrapError (reason : String) : AppError :=
  { code := .storage, message := "Local storage bootstrap is invalid", technicalDetails := some reason, retryable := false }

def bootstrapTargetExistsError : AppError :=
  { code := .storage
    message := "Local storage bootstrap already exists"
    technicalDetails := some "bootstrap creation refused to replace the final path"
    retryable := false }

def tryPathExists (name operation : String) : Action Bool :=
  attempt (.tryExists name) (Except.mapError (bootstrapError "Could not inspect local storage path" operation))

def validateRootKey (rootKey : List UInt8) : Action Unit :=
  if rootKey.length = 32 then pure ()
  else throw (invalidBootstrapError "root key did not contain exactly 32 bytes")

def secureFilePermissions (name : String) : Action Unit :=
  attempt (.setPermissions name)
    (Except.mapError (bootstrapError "Could not secure local storage bootstrap" "set bootstrap file permissions"))

def configureBootstrap (name : String) : Action Unit :=
  attempt (.configure name)
    (Except.mapError (bootstrapError "Could not configure local storage bootstrap" "configure bootstrap journaling"))

/-- An open connection is known by the name it was opened under. -/
structure BootstrapStore where
  path : String
deriving DecidableEq, Repr

namespace BootstrapStore

/-- Opens an existing bootstrap database without creating a missing replacement. -/
def openExisting (path : String) : Action BootstrapStore := do
  secureFilePermissions path
  attempt (.connect path false) (Except.mapError (bootstrapError "Could not open local storage bootstrap" "open bootstrap"))
  configureBootstrap path
  return ⟨path⟩

/-- Loads and validates the singleton root key. -/
def load (self : BootstrapStore) : Action (List UInt8) := do
  let rootKey ← attempt (.queryRootKey self.path)
    (Except.mapError (bootstrapError "Could not read local storage bootstrap" "read bootstrap state"))
  validateRootKey rootKey
  return rootKey

end BootstrapStore

/-- A unique name in the same directory, for a process and an id drawn by it. -/
def temporaryName (finalName : String) (process : Nat) (uuid : String) : String :=
  "." ++ finalName ++ ".tmp-" ++ toString process ++ "-" ++ uuid

def uniqueTemporaryPath (finalName : String) (process : Nat) : Action String :=
  attempt .newUuid fun uuid => .ok (temporaryName finalName process uuid)

def createPrivateFile (name : String) : Action Unit :=
  attempt (.createNew name)
    (Except.mapError (bootstrapError "Could not create local storage bootstrap" "create private temporary bootstrap"))

/-- Creates and commits one complete temporary bootstrap database. -/
def initializeTemporaryBootstrap (temporaryPath : String) (rootKey : List UInt8) : Action Unit := do
  createPrivateFile temporaryPath
  attempt (.connect temporaryPath true)
    (Except.mapError (bootstrapError "Could not create local storage bootstrap" "open temporary bootstrap"))
  configureBootstrap temporaryPath
  attempt (.beginTransaction temporaryPath)
    (Except.mapError (bootstrapError "Could not create local storage bootstrap" "begin bootstrap transaction"))
  attempt (.commitState temporaryPath rootKey)
    (Except.mapError (bootstrapError "Could not create local storage bootstrap" "commit bootstrap state"))
  attempt (.syncAll temporaryPath)
    (Except.mapError (bootstrapError "Could not synchronize local storage bootstrap" "sync temporary bootstrap"))

/-- Publishes under the final name, which must be free. -/
def atomicPublishWithoutClobber (platform : Platform) (temporaryPath finalPath : String) (error : String → AppError) : Action Unit :=
  match platform with
  | .macOs => attempt (.renameExclusive temporaryPath finalPath) (Except.mapError error)
  | .otherUnix => do
    attempt (.hardLink temporaryPath finalPath) (Except.mapError error)
    attempt (.removeFile temporaryPath) (Except.mapError error)

def publishTemporaryBootstrap (platform : Platform) (temporaryPath finalPath : String) : Action Unit := do
  if ← tryPathExists finalPath "probe bootstrap target before publish" then
    throw bootstrapTargetExistsError
  atomicPublishWithoutClobber platform temporaryPath finalPath
    (bootstrapError "Could not publish local storage bootstrap" "atomically publish bootstrap without clobbering")

/-- Removes a failed temporary bootstrap and its journal; errors are ignored. -/
def cleanupTemporaryFile (temporaryPath : String) : Action Unit := do
  attempt (.removeFile temporaryPath) fun _ => .ok ()
  attempt (.removeFile (temporaryPath ++ "-journal")) fun _ => .ok ()

/-- Returns the error of an action behind the cleanup of its temporary file. -/
def cleaningUp (temporaryPath : String) (action : Action Unit) : Action Unit :=
  tryCatch action fun error => do
    cleanupTemporaryFile temporaryPath
    throw error

def syncParentDirectory : Action Unit :=
  attempt .syncDirectory
    (Except.mapError (bootstrapError "Could not synchronize local storage bootstrap" "sync bootstrap parent directory"))

section
variable (platform : Platform) (process : Nat)

/-- Builds and atomically publishes one complete bootstrap. -/
def createBootstrap (path : String) (rootKey : List UInt8) : Action BootstrapStore := do
  validateRootKey rootKey
  if ← tryPathExists path "probe bootstrap target before create" then
    throw bootstrapTargetExistsError
  let temporaryPath ← uniqueTemporaryPath path process
  cleaningUp temporaryPath (initializeTemporaryBootstrap temporaryPath rootKey)
  cleaningUp temporaryPath (publishTemporaryBootstrap platform temporaryPath path)
  syncParentDirectory
  BootstrapStore.openExisting path

/-- An open encrypted store, with the key that opened it. -/
structure OpenedStore where
  encryptionKey : String
deriving DecidableEq, Repr

/-- The engine `STANDARD_NO_PAD`. -/
def encodeRootKey (rootKey : List UInt8) : String := String.ofList ((Base64.values rootKey).map Base64.sign)

/-- Opens the encrypted store with a validated root key. -/
def openMainStore (path : String) (rootKey : List UInt8) : Action OpenedStore := do
  if rootKey.length ≠ localDatabaseKeyLength then
    throw {
      code := .storage
      message := "Local storage encryption key is invalid"
      technicalDetails := some "root key did not contain exactly 32 bytes"
      retryable := false }
  let encodedKey := encodeRootKey rootKey
  attempt (.connect path true) (Except.mapError (bootstrapError "Could not open local storage" "open database"))
  attempt (.unlock path encodedKey)
    (Except.mapError (bootstrapError "Could not open local storage" "initialize encrypted database"))
  return ⟨encodedKey⟩

def prepareAppDataDirectory : Action Unit := do
  attempt .createDirectory
    (Except.mapError (startupStorageError "Could not prepare local storage directory" "create app-data directory"))
  attempt .restrictDirectory
    (Except.mapError (startupStorageError "Could not secure local storage directory" "set app-data directory permissions"))

/-- The root key of the existing bootstrap, or of one created with a fresh key. -/
def obtainRootKey : Action (List UInt8) := do
  if ← tryPathExists bootstrapDatabaseFilename "probe bootstrap during startup" then
    let bootstrap ← BootstrapStore.openExisting bootstrapDatabaseFilename
    bootstrap.load
  else
    let rootKey ← attempt .fillRandom (Except.mapError
      (startupStorageError "Could not generate local storage encryption key" "read operating-system randomness"))
    let bootstrap ← createBootstrap platform process bootstrapDatabaseFilename rootKey.val
    bootstrap.load

/-- Opens local storage from a complete bootstrap or creates a new independent data store. -/
def initializeLocalStorage : Action OpenedStore := do
  prepareAppDataDirectory
  let rootKey ← obtainRootKey platform process
  openMainStore localDatabaseFilename rootKey

end

/-- What a power loss leaves of a file that it tears. -/
def torn : File := ⟨.foreign [], 0⟩

/-- Processes that start the application, crash, and lose power. -/
def machine (platform : Platform) : Machine Operation Reply Directory World Unit PowerLoss (Except AppError OpenedStore) where
  serve _ := serve
  enter _ _ directory := directory
  program process _ := initializeLocalStorage platform process
  disrupt loss directory := directory.losePower torn loss

end Pipa.Bootstrap
