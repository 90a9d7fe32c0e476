import Pipa.AppError
import Pipa.Library.Decimal
import Pipa.Text

/-! The Redis adapter: RESP values read from a byte stream under limits on depth, size
and elements, and the commands written to it. The bytes still allowed are counted down
in `remaining`; reading ends because every nested value is one level deeper. -/

namespace Pipa.Redis
open Text

def maxCommandBytes : Nat := 1048576

def maxResponseBytes : Nat := 67108864

def maxResponseDepth : Nat := 64

def maxResponseLineBytes : Nat := 1048576

def maxCollectionElements : Nat := 1000000

/-- Redis protocol values of RESP2 and the common RESP3 response types. -/
inductive RespValue where
  | simple (text : String)
  | error (text : String)
  | integer (text : String)
  | bulk (bytes : Option (List UInt8))
  | array (values : Option (List RespValue))
  | boolean (value : Bool)
  | double (text : String)
  | bigNumber (text : String)
  | verbatim (bytes : List UInt8)
  | map (entries : List (RespValue × RespValue))
  | set (values : List RespValue)
  | null

def protocolError (message : String) : AppError :=
  { code := .connection, message, technicalDetails := none, retryable := false }

def connectionError (details : String) : AppError :=
  { code := .connection, message := "Could not communicate with Redis", technicalDetails := some details, retryable := true }

/-- A stream that ends, and the response bytes still allowed. -/
structure Input where
  stream : List UInt8
  remaining : Nat
deriving DecidableEq, Repr

/-- Tokio's `read_until`: up to and with the first such byte, or to the end. -/
def readUntil (stop : UInt8) : List UInt8 → List UInt8 × List UInt8
  | [] => ([], [])
  | byte :: bytes =>
    if byte = stop then ([byte], bytes)
    else
      let (line, rest) := readUntil stop bytes
      (byte :: line, rest)

def crlf : List UInt8 := [13, 10]

/-- One line ended by CR and LF, without them. -/
def readProtocolLine (input : Input) : Except AppError (List UInt8 × Input) :=
  let (line, rest) := readUntil 10 input.stream
  if line.length < 3 ∨ line.length > maxResponseLineBytes ∨ line.length > input.remaining ∨ ¬crlf <:+ line then
    .error (protocolError "Redis returned an invalid response line")
  else .ok (line.take (line.length - 2), ⟨rest, input.remaining - line.length⟩)

/-- One bulk payload and the CR and LF behind it. -/
def readProtocolBytes (length : Nat) (input : Input) : Except AppError (List UInt8 × Input) :=
  let framedLength := length + 2
  if framedLength > input.remaining then .error (protocolError "Redis response exceeded the size limit")
  else if input.stream.length < framedLength then .error (connectionError "early eof")
  else
    let framed := input.stream.take framedLength
    if ¬crlf <:+ framed then .error (protocolError "Redis returned an invalid bulk response")
    else .ok (framed.take length, ⟨input.stream.drop framedLength, input.remaining - framedLength⟩)

/-- Rust's `i64::from_str`: an optional sign and digits, in range. -/
def parseI64 (payload : List UInt8) : Option Int :=
  match payload with
  | [] => none
  | sign :: digits =>
    if sign = 45 then
      match Decimal.read digits with
      | some magnitude => if magnitude ≤ 9223372036854775808 then some (-magnitude) else none
      | none => none
    else
      match Decimal.read (if sign = 43 then digits else sign :: digits) with
      | some magnitude => if magnitude ≤ 9223372036854775807 then some magnitude else none
      | none => none

/-- A collection or bulk length; -1 stands for null. -/
def parseLength (payload : List UInt8) : Except AppError Int :=
  match parseI64 payload with
  | none => .error (protocolError "Redis returned an invalid response length")
  | some value =>
    if value < -1 then .error (protocolError "Redis returned an invalid negative length") else .ok value

/-- An integer of any size, kept as text. -/
def parseIntegerText (payload : List UInt8) : Except AppError String :=
  match fromUtf8 payload with
  | none => .error (protocolError "Redis returned an invalid integer")
  | some value =>
    let digits := if payload.head? = some 45 then payload.tail else payload
    if digits = [] ∨ digits.all Decimal.isDigit = false then .error (protocolError "Redis returned an invalid integer")
    else .ok value

def payloadText (payload : List UInt8) : Except AppError String :=
  match fromUtf8 payload with
  | some text => .ok text
  | none => .error (protocolError "Redis returned invalid response text")

/-- Reads so many values, one after the other. -/
def readValues (reader : Input → Except AppError (RespValue × Input)) :
    Nat → Input → Except AppError (List RespValue × Input)
  | 0, input => .ok ([], input)
  | count + 1, input => do
    let (value, input) ← reader input
    let (values, input) ← readValues reader count input
    return (value :: values, input)

/-- Reads so many pairs of a key and its value. -/
def readEntries (reader : Input → Except AppError (RespValue × Input)) :
    Nat → Input → Except AppError (List (RespValue × RespValue) × Input)
  | 0, input => .ok ([], input)
  | count + 1, input => do
    let (key, input) ← reader input
    let (value, input) ← reader input
    let (entries, input) ← readEntries reader count input
    return ((key, value) :: entries, input)

def readCollection (reader : Input → Except AppError (RespValue × Input)) (length : Nat) (input : Input) :
    Except AppError (List RespValue × Input) :=
  if length > maxCollectionElements then .error (protocolError "Redis response contains too many elements")
  else readValues reader length input

/-- `+`, `-`, `:`, `,`, `(`, `#` and `_`: values that end with their line. -/
def lineValue (tag : UInt8) (payload : List UInt8) : Except AppError RespValue :=
  if tag = 43 then (payloadText payload).map .simple
  else if tag = 45 then (payloadText payload).map .error
  else if tag = 58 then (parseIntegerText payload).map .integer
  else if tag = 44 then (payloadText payload).map .double
  else if tag = 40 then (parseIntegerText payload).map .bigNumber
  else if tag = 35 then
    if payload = [116] then .ok (.boolean true)
    else if payload = [102] then .ok (.boolean false)
    else .error (protocolError "Redis returned an invalid boolean")
  else if tag = 95 ∧ payload = [] then .ok .null
  else .error (protocolError "Redis returned an unsupported response type")

/-- `$`, `!` and `=`: values whose bytes follow their line. -/
def readBulk (tag : UInt8) (payload : List UInt8) (input : Input) : Except AppError (RespValue × Input) := do
  let length ← parseLength payload
  if length = -1 then return (.bulk none, input)
  else
    let (bytes, input) ← readProtocolBytes length.toNat input
    if tag = 33 then return (.error (fromUtf8Lossy bytes), input)
    else if tag = 61 then return (.verbatim bytes, input)
    else return (.bulk (some bytes), input)

section Nested
variable (reader : Input → Except AppError (RespValue × Input))

/-- `*`, `~` and `>`: values whose elements follow their line. -/
def readAggregate (tag : UInt8) (payload : List UInt8) (input : Input) : Except AppError (RespValue × Input) := do
  let length ← parseLength payload
  if length = -1 then return (.array none, input)
  else
    let (values, input) ← readCollection reader length.toNat input
    if tag = 126 then return (.set values, input) else return (.array (some values), input)

/-- `%` and `|`: pairs follow the line, and behind attributes the value they describe. -/
def readMap (tag : UInt8) (payload : List UInt8) (input : Input) : Except AppError (RespValue × Input) := do
  let length ← parseLength payload
  if length < 0 then .error (protocolError "Redis returned an invalid map length")
  else if length.toNat > maxCollectionElements then
    .error (protocolError "Redis response contains too many elements")
  else
    let (entries, input) ← readEntries reader length.toNat input
    if tag = 124 then reader input else return (.map entries, input)

/-- The value that a line announces; nested values are read by `reader`. -/
def readTagged (tag : UInt8) (payload : List UInt8) (input : Input) : Except AppError (RespValue × Input) :=
  if tag = 36 ∨ tag = 33 ∨ tag = 61 then readBulk tag payload input
  else if tag = 42 ∨ tag = 126 ∨ tag = 62 then readAggregate reader tag payload input
  else if tag = 37 ∨ tag = 124 then readMap reader tag payload input
  else (lineValue tag payload).map fun value => (value, input)

end Nested

/-- Reads one value, and nested ones by recursion one level deeper. -/
def readResponse (depth : Nat) (input : Input) : Except AppError (RespValue × Input) :=
  if depth > maxResponseDepth then .error (protocolError "Redis response nesting is too deep")
  else do
    let (line, input) ← readProtocolLine input
    match line with
    | [] => .error (protocolError "Redis returned an empty response")
    | tag :: payload => readTagged (fun input => readResponse (depth + 1) input) tag payload input
termination_by maxResponseDepth + 1 - depth

/-- Encodes one command as a binary-safe RESP array. -/
def encodeCommand (arguments : List (List UInt8)) : List UInt8 :=
  42 :: (Decimal.text arguments.length ++ crlf) ++
    arguments.flatMap fun argument => 36 :: (Decimal.text argument.length ++ crlf) ++ (argument ++ crlf)

end Pipa.Redis
