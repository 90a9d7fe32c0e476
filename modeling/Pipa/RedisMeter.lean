import Pipa.Redis

/-! The reading of one Redis response with what it takes from the stream while it goes
on. A read keeps what it took when it fails, and it waits where the server has sent
nothing more yet, so what holds of every such stream holds of an endless one at any time. -/

namespace Pipa.Redis
open Text

/-- What follows the bytes that the server has sent so far. -/
inductive Ending where
  | closed
  | broken (details : String)
  | silent
deriving DecidableEq, Repr

/-- The stream that is left and the bytes still allowed, with what was taken from the stream,
the longest protocol line that was buffered, and what was left whenever a line was begun. -/
structure Meter where
  stream : List UInt8
  ending : Ending
  remaining : Nat
  taken : Nat
  longest : Nat
  begun : List Input
deriving DecidableEq, Repr

/-- Takes bytes from the stream. -/
def Meter.take (meter : Meter) (count : Nat) : Meter :=
  { meter with stream := meter.stream.drop count, taken := meter.taken + min count meter.stream.length }

/-- Buffers a protocol line from the stream. -/
def Meter.buffer (meter : Meter) (line : List UInt8) : Meter :=
  { meter.take line.length with
    longest := max meter.longest line.length
    begun := meter.begun ++ [{ stream := meter.stream, remaining := meter.remaining }] }

/-- Why a read gives no value: it failed, or waits for the server. -/
inductive Stop where
  | failed (error : AppError)
  | waiting
deriving DecidableEq

abbrev ReadM := ExceptT Stop (StateM Meter)

namespace Metered

def fail {α : Type} (error : AppError) : ReadM α := throw (.failed error)

/-- What needs no input. -/
def settle {α : Type} : Except AppError α → ReadM α
  | .ok value => pure value
  | .error error => fail error

/-- A read that ran out of bytes. -/
def starve {α : Type} (early : ReadM α) (ending : Ending) : ReadM α :=
  match ending with
  | .closed => early
  | .broken details => fail (connectionError details)
  | .silent => throw .waiting

/-- Tokio's `read_until` with a newline, into an empty buffer. -/
def readUntilNewline : ReadM (List UInt8) := do
  let meter ← get
  let line := (readUntil 10 meter.stream).1
  set (meter.buffer line)
  if line.getLast? = some 10 then return line else starve (pure line) meter.ending

/-- Takes what was read from the budget. -/
def spend (count : Nat) : ReadM Unit := modify fun meter => { meter with remaining := meter.remaining - count }

/-- One line ended by CR and LF, without them. -/
def readProtocolLine : ReadM (List UInt8) := do
  let line ← readUntilNewline
  let remaining := (← get).remaining
  if line.length < 3 ∨ line.length > maxResponseLineBytes ∨ line.length > remaining ∨ ¬crlf <:+ line then
    fail (protocolError "Redis returned an invalid response line")
  else
    spend line.length
    return line.take (line.length - 2)

/-- Tokio's `read_exact`. -/
def readExact (count : Nat) : ReadM (List UInt8) := do
  let meter ← get
  set (meter.take count)
  if meter.stream.length < count then starve (fail (connectionError "early eof")) meter.ending
  else return meter.stream.take count

/-- One bulk payload and the CR and LF behind it. -/
def readProtocolBytes (length : Nat) : ReadM (List UInt8) := do
  let framedLength := length + 2
  if framedLength > (← get).remaining then fail (protocolError "Redis response exceeded the size limit")
  else
    let framed ← readExact framedLength
    if ¬crlf <:+ framed then fail (protocolError "Redis returned an invalid bulk response")
    else
      spend framedLength
      return framed.take length

/-- `$`, `!` and `=`: values whose bytes follow their line. -/
def readBulk (tag : UInt8) (payload : List UInt8) : ReadM RespValue := do
  let length ← settle (parseLength payload)
  if length = -1 then return .bulk none
  else
    let bytes ← readProtocolBytes length.toNat
    if tag = 33 then return .error (fromUtf8Lossy bytes)
    else if tag = 61 then return .verbatim bytes
    else return .bulk (some bytes)

section Nested
variable (reader : ReadM RespValue)

/-- Reads so many values, one after the other. -/
def readValues : Nat → ReadM (List RespValue)
  | 0 => return []
  | count + 1 => do
    let value ← reader
    let values ← readValues count
    return value :: values

/-- Reads so many pairs of a key and its value. -/
def readEntries : Nat → ReadM (List (RespValue × RespValue))
  | 0 => return []
  | count + 1 => do
    let key ← reader
    let value ← reader
    let entries ← readEntries count
    return (key, value) :: entries

def readCollection (length : Nat) : ReadM (List RespValue) :=
  if length > maxCollectionElements then fail (protocolError "Redis response contains too many elements")
  else readValues reader length

/-- `*`, `~` and `>`: values whose elements follow their line. -/
def readAggregate (tag : UInt8) (payload : List UInt8) : ReadM RespValue := do
  let length ← settle (parseLength payload)
  if length = -1 then return .array none
  else
    let values ← readCollection reader length.toNat
    if tag = 126 then return .set values else return .array (some values)

/-- `%` and `|`: pairs follow the line, and behind attributes the value they describe. -/
def readMap (tag : UInt8) (payload : List UInt8) : ReadM RespValue := do
  let length ← settle (parseLength payload)
  if length < 0 then fail (protocolError "Redis returned an invalid map length")
  else if length.toNat > maxCollectionElements then fail (protocolError "Redis response contains too many elements")
  else
    let entries ← readEntries reader length.toNat
    if tag = 124 then reader else return .map entries

/-- The value that a line announces; nested values are read by `reader`. -/
def readTagged (tag : UInt8) (payload : List UInt8) : ReadM RespValue :=
  if tag = 36 ∨ tag = 33 ∨ tag = 61 then readBulk tag payload
  else if tag = 42 ∨ tag = 126 ∨ tag = 62 then readAggregate reader tag payload
  else if tag = 37 ∨ tag = 124 then readMap reader tag payload
  else settle (lineValue tag payload)

end Nested

/-- Reads one value, and nested ones by recursion one level deeper. -/
def readResponse (depth : Nat) : ReadM RespValue :=
  if depth > maxResponseDepth then fail (protocolError "Redis response nesting is too deep")
  else do
    let line ← readProtocolLine
    match line with
    | [] => fail (protocolError "Redis returned an empty response")
    | tag :: payload => readTagged (readResponse (depth + 1)) tag payload
termination_by maxResponseDepth + 1 - depth

end Metered

/-- A stream before a response is read from it. -/
def Meter.start (stream : List UInt8) (ending : Ending) : Meter :=
  { stream, ending, remaining := maxResponseBytes, taken := 0, longest := 0, begun := [] }

/-- The reading of the response to one command: what it comes to, and what it took. -/
def readReply (stream : List UInt8) (ending : Ending) : Except Stop RespValue × Meter :=
  (Metered.readResponse 0).run (.start stream ending)

end Pipa.Redis
