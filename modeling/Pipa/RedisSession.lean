import Pipa.Library.Journals
import Pipa.LocalStore
import Pipa.RedisCells
import Pipa.RedisCommand

/-! Commands over a Redis connection: the handshake, the command of the user, and the events
that its caller receives. Calls of the adapter interleave at their awaits and may end at any
of them; what the servers send is up to the world. The history in the shared state is no part
of the code: it says what every call has done. -/

namespace Pipa.RedisSession
open Programs Redis Text

/-- What may end an exchange from outside: its cancellation, or the limit on its time. -/
structure Watch where
  cancels : Bool
  limited : Bool
deriving DecidableEq, Repr

inductive Interruption where
  | canceled | timedOut
deriving DecidableEq, Repr

/-- Why an exchange ends without a value. -/
inductive Stop (watch : Watch) where
  | failed (error : AppError)
  | canceled (watched : watch.cancels = true)
  | timedOut (limited : watch.limited = true)

def Interruption.stop (watch : Watch) : Interruption → Option (Stop watch)
  | .canceled => if watched : watch.cancels = true then some (.canceled watched) else none
  | .timedOut => if limited : watch.limited = true then some (.timedOut limited) else none

/-- What calls the adapter, with the profile as it is saved. -/
inductive Launch where
  | testConnection (profile : SavedProfile) (password : String)
  | query (profile : SavedProfile) (password : String) (request : QueryRequest)
deriving DecidableEq, Repr

abbrev RowEvent := QueryEvent (List CellValue)

/-- What a call does that others can see; a receiver that has gone refuses an event. -/
inductive Act where
  | started (launch : Launch)
  | opened (host : String) (port : Nat)
  | wrote (bytes : List UInt8)
  | answered (value : RespValue)
  | sent (event : RowEvent)
  | refused (event : RowEvent)

structure Shared where
  history : List (Entry Act)

/-- A read begins with what an earlier one has left in its buffer. -/
inductive Operation where
  | connect (watch : Watch) (host : String) (port : Nat)
  | write (watch : Watch) (bytes : List UInt8)
  | read (watch : Watch) (buffered : List UInt8)
  | sendEvent (event : RowEvent)

@[reducible]
def Reply : Operation → Type
  | .connect watch .. | .write watch _ => Except (Stop watch) Unit
  | .read watch _ => Except (Stop watch) (RespValue × List UInt8)
  | .sendEvent _ => Except AppError Unit

/-- What the world decides while an operation runs. -/
structure World where
  interruption : Option Interruption
  /-- A failure of the socket. -/
  broken : Option String
  /-- How many bytes of a request have left when its write is ended. -/
  partly : Nat
  /-- What else the server sends until the read ends, or its stream does. -/
  arrived : List UInt8
  listening : Bool

abbrev Task (ε α : Type) := ExceptT ε (Program Operation Reply) α

def receiverGone : AppError where
  code := .canceled
  message := "Redis command result receiver was closed"
  technicalDetails := none
  retryable := false

/-- Why an operation that waits for the network does not succeed. -/
def World.stops (world : World) (watch : Watch) : Option (Stop watch) :=
  match world.interruption.bind (Interruption.stop watch) with
  | some stop => some stop
  | none => world.broken.map fun details => .failed (connectionError details)

/-- The response at the front of a stream, read with a budget of its own, and what follows it. -/
def receive (stream : List UInt8) : Except AppError (RespValue × List UInt8) :=
  (readResponse 0 ⟨stream, maxResponseBytes⟩).map fun result => (result.1, result.2.stream)

section
variable (process : Nat)

def Shared.record (self : Shared) (act : Act) : Shared := ⟨⟨some process, act⟩ :: self.history⟩

def serve (world : World) (operation : Operation) (shared : Shared) : Reply operation × Shared :=
  match operation with
  | .connect watch host port =>
    match world.stops watch with
    | some stop => (.error stop, shared)
    | none => (.ok (), shared.record process (.opened host port))
  | .write watch bytes =>
    match world.stops watch with
    | some stop => (.error stop, shared.record process (.wrote (bytes.take world.partly)))
    | none => (.ok (), shared.record process (.wrote bytes))
  | .read watch buffered =>
    match world.stops watch with
    | some stop => (.error stop, shared)
    | none =>
      match receive (buffered ++ world.arrived) with
      | .ok (value, rest) => (.ok (value, rest), shared.record process (.answered value))
      | .error error => (.error (.failed error), shared)
  | .sendEvent event =>
    if world.listening then (.ok (), shared.record process (.sent event))
    else (.error receiverGone, shared.record process (.refused event))

end

/-! ### The adapter -/

def timeoutError (message : String) : AppError :=
  { code := .timeout, message, technicalDetails := none, retryable := true }

def queryError (details : String) : AppError :=
  { code := .query, message := "Redis command failed", technicalDetails := some details, retryable := false }

/-- An error of the handshake. -/
def refusal (code : AppErrorCode) (message : String) : AppError :=
  { code, message, technicalDetails := none, retryable := false }

/-- Rust's `u32::from_str`: digits behind an optional plus, in range. -/
def parseU32 (text : String) : Option Nat :=
  let digits := match utf8 text with
    | 43 :: digits => digits
    | digits => digits
  (Decimal.read digits).filter (· < 4294967296)

def validateProfile (profile : SavedProfile) : Except AppError Unit :=
  if profile.engine ≠ .redis then .error (validationError "Connection profile is not Redis")
  else if profile.tlsMode ≠ .disabled then .error (validationError "Redis TLS is not supported in this version")
  else
    match profile.database with
    | none => .ok ()
    | some database =>
      match parseU32 database with
      | some _ => .ok ()
      | none => .error (validationError "Redis database must be a non-negative number")

/-- A result that no operation is needed for. -/
def decided {ε α : Type} (result : Except ε α) : Task ε α := Program.done result

/-- Writes one command and reads exactly one response; what the reader has buffered goes on with it. -/
def sendCommand (watch : Watch) (buffered : List UInt8) (arguments : List (List UInt8)) :
    Task (Stop watch) (RespValue × List UInt8) := do
  attempt (.write watch (encodeCommand arguments)) id
  attempt (.read watch buffered) id

def isError : RespValue → Bool
  | .error _ => true
  | _ => false

/-- A command of the handshake, which an error of the server ends. -/
def demand (watch : Watch) (buffered : List UInt8) (arguments : List (List UInt8)) (refused : AppError) :
    Task (Stop watch) (List UInt8) := do
  let (response, buffered) ← sendCommand watch buffered arguments
  decided (if isError response then .error (.failed refused) else .ok buffered)

def authArguments (profile : SavedProfile) (password : String) : List (List UInt8) :=
  utf8 "AUTH" :: ((if profile.username = "" then [] else [utf8 profile.username]) ++ [utf8 password])

def selectArguments (database : String) : List (List UInt8) := [utf8 "SELECT", utf8 database]

def authRefused : AppError := refusal .authentication "Redis authentication failed"

def selectRefused : AppError := refusal .connection "Redis rejected the selected database"

/-- No AUTH goes out without a password. -/
def authenticate (watch : Watch) (profile : SavedProfile) (password : String) : Task (Stop watch) (List UInt8) :=
  if password = "" then decided (.ok []) else demand watch [] (authArguments profile password) authRefused

def select (watch : Watch) (profile : SavedProfile) (buffered : List UInt8) : Task (Stop watch) (List UInt8) :=
  match profile.database with
  | none => decided (.ok buffered)
  | some database => demand watch buffered (selectArguments database) selectRefused

/-- Opens and initializes one connection. -/
def connectAndPrepare (watch : Watch) (profile : SavedProfile) (password : String) : Task (Stop watch) (List UInt8) := do
  attempt (.connect watch profile.host profile.port) id
  let buffered ← authenticate watch profile password
  select watch profile buffered

/-- How the test of a connection reports a stop; nothing cancels it. -/
def Stop.testError {watch : Watch} (uncanceled : watch.cancels = false) : Stop watch → AppError
  | .failed error => error
  | .canceled watched => absurd (uncanceled.symm.trans watched) Bool.false_ne_true
  | .timedOut _ => timeoutError "Redis connection timed out"

def pong : RespValue → Except AppError Unit
  | .simple "PONG" => .ok ()
  | .error _ => .error (refusal .connection "Redis rejected PING")
  | _ => .error (refusal .connection "Redis did not return PONG")

def testWatch : Watch := ⟨false, true⟩

def testRedisConnection (profile : SavedProfile) (password : String) : Task (Stop testWatch) (RespValue × List UInt8) := do
  let buffered ← connectAndPrepare testWatch profile password
  sendCommand testWatch buffered [utf8 "PING"]

def testConnection (profile : SavedProfile) (password : String) : Task AppError Unit := do
  decided (validateProfile profile)
  let (response, _) ← (testRedisConnection profile password).adapt (Stop.testError rfl)
  decided (pong response)

def sendEvent (event : RowEvent) : Task AppError Unit := attempt (.sendEvent event) id

/-- While the connection is prepared, and while the command runs. -/
def connectWatch : Watch := ⟨true, true⟩

def commandWatch : Watch := ⟨true, false⟩

/-- The command as its response is presented. -/
def commandName (arguments : List (List UInt8)) : String := toAsciiUppercase (fromUtf8Lossy (arguments.headD []))

section
variable (parseFinite : String → Option UInt64)

/-- The rows go out in one batch, if there are any. -/
def sendRows (queryId : Uuid) (rows : List (List CellValue)) : Task AppError Unit :=
  if rows = [] then decided (.ok ()) else sendEvent (.batch queryId rows)

/-- The schema, the rows, and the end of the query. -/
def sendTable (queryId : Uuid) (table : ResultTable) : Task AppError Unit := do
  sendEvent (.schema queryId table.1)
  sendRows queryId table.2
  sendEvent (.completed queryId 0)

/-- What follows the response to the command. -/
def respond (queryId : Uuid) (name : String) : Except (Stop commandWatch) (RespValue × List UInt8) → Task AppError Unit
  | .error (.failed error) => decided (.error error)
  | .error (.canceled _) => sendEvent (.canceled queryId)
  | .error (.timedOut limited) => absurd limited Bool.false_ne_true
  | .ok (.error details, _) => decided (.error (queryError details))
  | .ok (response, _) => sendTable queryId (responseTable parseFinite name response)

def runCommand (queryId : Uuid) (buffered : List UInt8) (arguments : List (List UInt8)) : Task AppError Unit := do
  sendEvent (.started queryId)
  let response ← ExceptT.lift (sendCommand commandWatch buffered arguments).run
  respond parseFinite queryId (commandName arguments) response

/-- What follows the handshake. -/
def prepared (queryId : Uuid) (arguments : List (List UInt8)) : Except (Stop connectWatch) (List UInt8) → Task AppError Unit
  | .error (.failed error) => decided (.error error)
  | .error (.canceled _) => sendEvent (.canceled queryId)
  | .error (.timedOut _) => decided (.error (timeoutError "Redis connection timed out"))
  | .ok buffered => runCommand parseFinite queryId buffered arguments

def query (profile : SavedProfile) (password : String) (request : QueryRequest) : Task AppError Unit := do
  decided (validateProfile profile)
  let arguments ← decided (parseCommand request.sql)
  let connected ← ExceptT.lift (connectAndPrepare connectWatch profile password).run
  prepared parseFinite request.queryId arguments connected

/-- An error of the adapter goes out as the last event. -/
def reportFailure (queryId : Uuid) : Except AppError Unit → Program Operation Reply (Except AppError Unit)
  | .ok () => .done (.ok ())
  | .error error => Program.bind (sendEvent (.failed queryId error)).run fun _ => .done (.error error)

/-- The saved profile with the database that the request selects. -/
def atDatabase (profile : SavedProfile) (request : QueryRequest) : Except AppError SavedProfile :=
  match request.database with
  | none => .ok profile
  | some database =>
    if profile.engine ≠ .redis then
      .error (validationError "Per-query database selection is supported only for Redis")
    else .ok { profile with database := some database }

/-- `run_query` on a Redis profile: what it refuses has no events. -/
def runQuery (profile : SavedProfile) (password : String) (request : QueryRequest) :
    Program Operation Reply (Except AppError Unit) :=
  match atDatabase profile request with
  | .error error => .done (.error error)
  | .ok profile => Program.bind (query parseFinite profile password request).run (reportFailure request.queryId)

def program : Launch → Program Operation Reply (Except AppError Unit)
  | .testConnection profile password => (testConnection profile password).run
  | .query profile password request => runQuery parseFinite profile password request

/-- Calls that start and end at any point; an outage ends them all. -/
def machine : Machine Operation Reply Shared World Launch Unit (Except AppError Unit) where
  serve := serve
  enter process launch shared := shared.record process (.started launch)
  program _ := program parseFinite
  disrupt _ shared := shared

end

end Pipa.RedisSession
