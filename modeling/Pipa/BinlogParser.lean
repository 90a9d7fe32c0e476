import Pipa.Assembler

/-! The binlog parser: it frames the bytes of ordered input files into events, has
each frame decoded, and feeds the assembler. Byte counts and offsets are `u64`; where
a sum can leave that range the model wraps or saturates as the code does. -/

namespace Pipa

inductive IoErrorKind where
  | interrupted | wouldBlock | unexpectedEof | other
deriving DecidableEq, Repr

structure IoError where
  kind : IoErrorKind
  message : String
deriving DecidableEq, Repr

/-- What is left to read: these bytes, and then the end or a read error. -/
structure ByteStream where
  bytes : List UInt8
  failure : Option IoError
deriving DecidableEq, Repr

namespace ByteStream

/-- Rust's `Read::read_exact`. -/
def readExact (self : ByteStream) (count : Nat) : Except IoError (List UInt8 × ByteStream) :=
  if count ≤ self.bytes.length then .ok (self.bytes.take count, { self with bytes := self.bytes.drop count })
  else .error (self.failure.getD { kind := .unexpectedEof, message := "failed to fill whole buffer" })

/-- Rust's `BufRead::fill_buf`, asked only whether anything is left. -/
def hasDataLeft (self : ByteStream) : Except IoError Bool :=
  if self.bytes.isEmpty then
    match self.failure with
    | some error => .error error
    | none => .ok false
  else .ok true

end ByteStream

structure BinlogProgress where
  bytesRead : Nat
  totalBytes : Nat
  fileCount : Nat
  filesCompleted : Nat
  currentFile : Option String
  transactionCount : Nat
  eventCount : Nat
deriving DecidableEq, Repr

/-- Safe terminal failure returned by the streaming parser. -/
structure BinlogImportFailure where
  code : String
  message : String
  technicalDetails : Option String
  retryable : Bool
  diagnostic : BinlogDiagnostic
deriving DecidableEq, Repr

inductive BinlogImportTerminal where
  | completed
  | canceled
  | failed (failure : BinlogImportFailure)
deriving DecidableEq, Repr

structure BinlogAnalysisOutput where
  summary : BinlogSummary
  transactions : List BinlogTransaction
  terminal : BinlogImportTerminal

/-- The checksum algorithm in an event footer; only CRC32 is verified. -/
inductive BinlogChecksumAlg where
  | off | crc32
deriving DecidableEq, Repr

/-- Decoded event data, as far as it is told apart. `Rows` is a row event in the
decoder's own form; `control` is any event that only extends a transaction. -/
inductive EventData (Rows : Type) where
  | query (schema query : String)
  | xid (xid : Nat)
  | gtid (sid : Uuid) (tag : Option String) (gno : Nat)
  | rowsQuery (query : String)
  | rows (rows : Rows)
  | transactionPayload (uncompressedSize : Nat) (decompressed : Except IoError ByteStream)
  | formatDescription (serverVersion : String)
  | incident (message : String)
  | unsupported
  | control

structure Event (Rows : Type) where
  timestamp : Nat
  serverId : Nat
  eventTypeRaw : Nat
  checksumAlg : Except String (Option BinlogChecksumAlg)
  checksum : Option Nat
  calcChecksum : Nat
  data : Except IoError (Option (EventData Rows))

/-- What reading one frame comes to: a caught panic, an error, nothing, or an event. -/
inductive Decoded (Rows : Type) where
  | panicked
  | failed (error : IoError)
  | empty
  | event (event : Event Rows)

/-- The decoder outside this repository. Its reader keeps table maps between frames. -/
structure MysqlCommon (Reader Rows : Type) where
  newReader : Reader
  read : Reader → List UInt8 → Decoded Rows × Reader
  readDecompressed : Reader → List UInt8 → Decoded Rows × Reader
  decodeRowsEvent : Reader → Rows → EventLocation → BinlogChange × List BinlogDiagnostic
  timestampFromSeconds : Nat → String
  invalidFileHeader : IoError

/-- Mutable parser-wide counters, diagnostics, and transaction assembly state. -/
structure ParserState where
  assembler : TransactionAssembler
  eventCount : Nat
  decompressedPayloadBytes : Nat
  decompressedPayloadEvents : Nat
  transactionPayloadDepth : Nat
  firstTimestamp : Option Nat
  lastTimestamp : Option Nat
  diagnostics : List BinlogDiagnostic
  diagnosticsTruncated : Bool

namespace BinlogParser

def eventHeaderLength : Nat := 19
def eventSizeOffset : Nat := 9
def maxEventSizeBytes : Nat := 268435456
def maxDecompressedPayloadBytes : Nat := 536870912
def maxDecompressedPayloadEvents : Nat := 1000000
def maxTransactionPayloadDepth : Nat := 8
def progressByteInterval : Nat := 1048576
def progressEventInterval : Nat := 256
def maxDiagnostics : Nat := 1000

/-- One more than the greatest `u64`. -/
def u64Size : Nat := 18446744073709551616

def failure (code message : String) (technicalDetails fileName : Option String) (position : Option Nat) (retryable : Bool) :
    BinlogImportFailure :=
  { code, message, technicalDetails, retryable, diagnostic := { code, message, severity := .error, fileName, position } }

def ioFailure (code message : String) (error : IoError) (fileName : String) (position : Option Nat) : BinlogImportFailure :=
  failure code message (some error.message) (some fileName) position (error.kind = .interrupted || error.kind = .wouldBlock)

/-- A non-secret basename: the last component of the path, if it names something. -/
def fileName (path : String) : String :=
  match ((Text.split '/' path).filter (fun part => part ≠ "" ∧ part ≠ ".")).getLast? with
  | some ".." | none => "binlog"
  | some name => name

end BinlogParser

namespace ParserState
open BinlogParser

def new (analysisId : Uuid) : ParserState where
  assembler := .new analysisId
  eventCount := 0
  decompressedPayloadBytes := 0
  decompressedPayloadEvents := 0
  transactionPayloadDepth := 0
  firstTimestamp := none
  lastTimestamp := none
  diagnostics := []
  diagnosticsTruncated := false

def observeTimestamp (self : ParserState) (timestamp : Nat) : ParserState :=
  if timestamp = 0 then self
  else { self with firstTimestamp := some (self.firstTimestamp.getD timestamp), lastTimestamp := some timestamp }

def enterTransactionPayload (self : ParserState) (declaredSize : Nat) (location : EventLocation) :
    Except BinlogImportFailure ParserState :=
  if self.transactionPayloadDepth ≥ maxTransactionPayloadDepth then
    .error (failure "transaction_payload_too_deep" "Nested transaction payloads exceed the parser safety limit"
      (some s!"limit {maxTransactionPayloadDepth}") (some location.fileName) (some location.startPosition) false)
  else
    let remaining := maxDecompressedPayloadBytes - self.decompressedPayloadBytes
    if declaredSize > remaining then
      .error (failure "transaction_payload_too_large"
        "Decompressed transaction payload data exceeds the parser safety limit"
        (some s!"declared {declaredSize} bytes, remaining {remaining} bytes") (some location.fileName)
        (some location.startPosition) false)
    else .ok { self with transactionPayloadDepth := self.transactionPayloadDepth + 1 }

def leaveTransactionPayload (self : ParserState) : ParserState :=
  { self with transactionPayloadDepth := self.transactionPayloadDepth - 1 }

def recordDecompressedEvent (self : ParserState) (frameSize : Nat) (location : EventLocation) :
    Except BinlogImportFailure ParserState :=
  if self.decompressedPayloadEvents ≥ maxDecompressedPayloadEvents then
    .error (failure "transaction_payload_event_limit" "A transaction payload contains too many decompressed events"
      (some s!"limit {maxDecompressedPayloadEvents}") (some location.fileName) (some location.startPosition) false)
  else
    let total := self.decompressedPayloadBytes + frameSize
    if total ≥ u64Size then
      .error (failure "transaction_payload_too_large"
        "Decompressed transaction payload data exceeds the parser safety limit" none (some location.fileName)
        (some location.startPosition) false)
    else if total > maxDecompressedPayloadBytes then
      .error (failure "transaction_payload_too_large"
        "Decompressed transaction payload data exceeds the parser safety limit"
        (some s!"decoded {total} bytes, limit {maxDecompressedPayloadBytes}") (some location.fileName)
        (some location.startPosition) false)
    else .ok { self with decompressedPayloadBytes := total, decompressedPayloadEvents := self.decompressedPayloadEvents + 1 }

/-- Retains diagnostics up to a fixed bound and records one explicit truncation warning. -/
def pushDiagnostic (self : ParserState) (diagnostic : BinlogDiagnostic) : ParserState :=
  if self.diagnostics.length < maxDiagnostics then { self with diagnostics := self.diagnostics ++ [diagnostic] }
  else if self.diagnosticsTruncated then self
  else
    { self with
      diagnosticsTruncated := true
      diagnostics := self.diagnostics ++ [{
        code := "diagnostics_truncated"
        message := "Additional parser diagnostics were omitted after the safety limit"
        severity := .warning
        fileName := none
        position := none }] }

def progress (self : ParserState) (bytesRead totalBytes fileCount filesCompleted : Nat) (currentFile : Option String) :
    BinlogProgress where
  bytesRead := bytesRead
  totalBytes := totalBytes
  fileCount := fileCount
  filesCompleted := filesCompleted
  currentFile := currentFile
  transactionCount := self.assembler.transactions.length
  eventCount := self.eventCount

end ParserState

namespace BinlogParser

def magic : List UInt8 := [0xfe, 0x62, 0x69, 0x6e]

section Reading
variable {Reader Rows : Type}

def readFileHeader (mysql : MysqlCommon Reader Rows) (input : ByteStream) (fileName : String) :
    Except BinlogImportFailure ByteStream :=
  let invalid (code message : String) (error : IoError) :=
    failure code message (some error.message) (some fileName) (some 0) false
  match input.readExact 4 with
  | .ok (header, input) =>
    if header = magic then .ok input
    else .error (invalid "invalid_file_header" "The selected file is not a supported MySQL binlog v4 file" mysql.invalidFileHeader)
  | .error error =>
    .error (if error.kind = .unexpectedEof then
      invalid "truncated_file_header" "The binlog file is truncated before its header is complete" error
    else invalid "invalid_file_header" "The selected file is not a supported MySQL binlog v4 file" error)

/-- The little-endian size field of an event header. -/
def declaredSize (header : List UInt8) : Nat :=
  ((header.drop eventSizeOffset).take 4).foldr (fun byte rest => byte.toNat + 256 * rest) 0

/-- Reads one complete event frame, and nothing at the end of the input. -/
def readEventFrame (input : ByteStream) (fileSize : Option Nat) (fileName : String) (position maxEventSize : Nat) :
    Except BinlogImportFailure (Option (List UInt8 × ByteStream)) :=
  let refused (code message : String) (details : Option String) :=
    .error (failure code message details (some fileName) (some position) false)
  match input.hasDataLeft with
  | .error error => .error (ioFailure "event_read_failed" "Could not read the next binlog event" error fileName (some position))
  | .ok false => .ok none
  | .ok true =>
    if fileSize.any (fun size => size - position < eventHeaderLength) then
      refused "truncated_event_header" "The binlog ends inside an event header" none
    else match input.readExact eventHeaderLength with
    | .error error =>
      .error (ioFailure "truncated_event_header" "The binlog ends inside an event header" error fileName (some position))
    | .ok (header, afterHeader) =>
      let eventSize := declaredSize header
      if eventSize < eventHeaderLength then
        refused "invalid_event_size" "A binlog event declares an invalid size" (some s!"declared event size {eventSize}")
      else if eventSize > maxEventSize then
        let details := some s!"declared event size {eventSize}, remaining limit {maxEventSize}"
        if maxEventSize < maxEventSizeBytes then
          refused "transaction_payload_too_large" "Decompressed transaction payload data exceeds the parser safety limit" details
        else refused "event_too_large" "A binlog event exceeds the parser safety limit" details
      else if fileSize.any (fun size => size < min (position + eventSize) (u64Size - 1)) then
        refused "truncated_event_body" "The binlog ends inside an event body" (some s!"declared event size {eventSize}")
      else match afterHeader.readExact (eventSize - eventHeaderLength) with
      | .error error =>
        .error (ioFailure "truncated_event_body" "The binlog ends inside an event body" error fileName (some position))
      | .ok (body, rest) => .ok (some (header ++ body, rest))

/-- Eight hexadecimal digits, as the format `08x` writes them. -/
def hex (number : Nat) : String :=
  let digits := Nat.toDigits 16 number
  String.ofList (List.replicate (8 - digits.length) '0' ++ digits)

/-- Compares a stored CRC32 footer with the checksum calculated over the event. -/
def verifyChecksum (event : Event Rows) (fileName : String) (position : Nat) : Except BinlogImportFailure Unit :=
  let refused (code message : String) (details : Option String) :=
    failure code message details (some fileName) (some position) false
  match event.checksumAlg with
  | .error message => .error (refused "unsupported_checksum" "The binlog uses an unknown checksum algorithm" (some message))
  | .ok (some .crc32) =>
    match event.checksum with
    | none => .error (refused "missing_checksum" "A checksummed binlog event has no checksum footer" none)
    | some expected =>
      if expected ≠ event.calcChecksum then
        .error (refused "checksum_mismatch" "A binlog event failed CRC32 verification"
          (some s!"expected {hex expected}, calculated {hex event.calcChecksum}"))
      else .ok ()
  | .ok _ => .ok ()

/-- What the parser does, as far as it is noted: the answers of the token, the payloads it
enters and leaves and fails to read on, the frames it takes from them, and what it hands to the
assembler and reports. -/
inductive Moment where
  | asked (cancelled : Bool)
  | entered (depth : Nat)
  | left (depth : Nat)
  | unread
  | decompressed (frame : List UInt8)
  | handed (event : AssemblerEvent)
  | diagnosed (diagnostic : BinlogDiagnostic)

/-- What the parser changes while it processes one event: the decoder's reader, its
own state, and how often it has asked whether the import was cancelled. The moments are
only kept for what is said about them. -/
structure Parsing (Reader : Type) where
  reader : Reader
  state : ParserState
  checks : Nat
  moments : List Moment

/-- A step of the parser keeps what it changed when it fails. -/
abbrev ParseM (Reader : Type) := ExceptT BinlogImportFailure (StateM (Parsing Reader))

def modifyState (edit : ParserState → ParserState) : ParseM Reader Unit :=
  modify fun parsing => { parsing with state := edit parsing.state }

def tryState (edit : ParserState → Except BinlogImportFailure ParserState) : ParseM Reader Unit := do
  match edit (← get).state with
  | .ok state => modifyState fun _ => state
  | .error error => throw error

def note (moment : ParserState → Moment) : ParseM Reader Unit :=
  modify fun parsing => { parsing with moments := parsing.moments ++ [moment parsing.state] }

/-- Calls the assembler. -/
def hand (event : AssemblerEvent) : ParseM Reader Unit := do
  modifyState fun state => { state with assembler := state.assembler.step event }
  note fun _ => .handed event

def diagnose (diagnostic : BinlogDiagnostic) : ParseM Reader Unit := do
  modifyState (·.pushDiagnostic diagnostic)
  note fun _ => .diagnosed diagnostic

/-- Asks whether the token is cancelled; it stays cancelled from then on. -/
def Parsing.ask (self : Parsing Reader) (cancelAfter : Option Nat) : Bool × Parsing Reader :=
  let cancelled := cancelAfter.any (· ≤ self.checks)
  (cancelled, { self with checks := self.checks + 1, moments := self.moments ++ [.asked cancelled] })

def isCancelled (cancelAfter : Option Nat) : ParseM Reader Bool :=
  modifyGet (·.ask cancelAfter)

/-- Parses one pre-framed event and verifies regular-file CRC32 checksums. -/
def parseEventFrame (mysql : MysqlCommon Reader Rows) (frame : List UInt8) (decompressed : Bool) (fileName : String)
    (position : Nat) : ParseM Reader (Event Rows) := do
  let parsing ← get
  let (decoded, reader) := if decompressed then mysql.readDecompressed parsing.reader frame else mysql.read parsing.reader frame
  set { parsing with reader }
  match decoded with
  | .panicked =>
    throw (failure "parser_panicked" "The binlog event triggered an internal parser failure" none (some fileName)
      (some position) false)
  | .failed error => throw (ioFailure "event_decode_failed" "Could not decode a binlog event" error fileName (some position))
  | .empty =>
    throw (failure "empty_event_frame" "A non-empty binlog event frame decoded as empty" none (some fileName)
      (some position) false)
  | .event event =>
    if !decompressed then
      if let .error error := verifyChecksum event fileName position then throw error
    return event

def formatGtid (sid : Uuid) (tag : Option String) (gno : Nat) : String :=
  match tag with
  | some tag => s!"{sid}:{tag}:{gno}"
  | none => s!"{sid}:{gno}"

end Reading

theorem readExact_ok {input rest : ByteStream} {count : Nat} {bytes : List UInt8}
    (read : input.readExact count = .ok (bytes, rest)) :
    input.bytes = bytes ++ rest.bytes ∧ bytes.length = count ∧ rest.failure = input.failure := by
  rw [ByteStream.readExact] at read
  split at read
  case isTrue enough =>
    obtain ⟨rfl, rfl⟩ := Prod.mk.inj (Except.ok.inj read)
    exact ⟨(List.take_append_drop ..).symm, List.length_take_of_le enough, rfl⟩
  case isFalse => cases read

/-- A frame as the format has it: at least a header, as long as the header declares. -/
structure Framed (frame : List UInt8) : Prop where
  header : eventHeaderLength ≤ frame.length
  declared : frame.length = declaredSize frame

/-- A frame that was read is the front of the input. -/
structure FrameRead (input : ByteStream) (fileSize : Option Nat) (position maxEventSize : Nat) (frame : List UInt8)
    (rest : ByteStream) : Prop where
  framed : Framed frame
  small : frame.length ≤ maxEventSize
  within : ∀ size, fileSize = some size → size < u64Size - 1 → position + frame.length ≤ size
  split : input.bytes = frame ++ rest.bytes
  failure : rest.failure = input.failure

theorem declaredSize_append {header : List UInt8} (body : List UInt8) (long : header.length = eventHeaderLength) :
    declaredSize (header ++ body) = declaredSize header := by
  have inside : eventSizeOffset + 4 ≤ header.length := by rw [long]; decide
  rw [declaredSize, declaredSize, List.drop_append_of_le_length (by omega), List.take_append_of_le_length]
  rw [List.length_drop]
  omega

theorem readEventFrame_some {input rest : ByteStream} {fileSize : Option Nat} {fileName : String}
    {position maxEventSize : Nat} {frame : List UInt8}
    (read : readEventFrame input fileSize fileName position maxEventSize = .ok (some (frame, rest))) :
    FrameRead input fileSize position maxEventSize frame rest := by
  unfold readEventFrame at read
  cases left : input.hasDataLeft with
  | error error => rw [left] at read; cases read
  | ok more =>
  cases more with
  | false => rw [left] at read; cases read
  | true =>
  rw [left] at read
  simp only at read
  split at read
  case isTrue => cases read
  case isFalse =>
  cases headerRead : input.readExact eventHeaderLength with
  | error error => rw [headerRead] at read; cases read
  | ok pair =>
  obtain ⟨header, afterHeader⟩ := pair
  rw [headerRead] at read
  simp only at read
  split at read
  case isTrue => cases read
  case isFalse long =>
  split at read
  case isTrue => split at read <;> cases read
  case isFalse small =>
  split at read
  case isTrue => cases read
  case isFalse within =>
  cases bodyRead : afterHeader.readExact (declaredSize header - eventHeaderLength) with
  | error error => rw [bodyRead] at read; cases read
  | ok pair =>
  obtain ⟨body, tail⟩ := pair
  rw [bodyRead] at read
  obtain ⟨rfl, rfl⟩ := Prod.mk.inj (Option.some.inj (Except.ok.inj read))
  obtain ⟨split, headerLength, same⟩ := readExact_ok headerRead
  obtain ⟨split', bodyLength, same'⟩ := readExact_ok bodyRead
  have size : (header ++ body).length = declaredSize header := by
    rw [List.length_append, headerLength, bodyLength]
    omega
  refine ⟨⟨by omega, by rw [size, declaredSize_append body headerLength]⟩, by omega, ?_, ?_, by rw [same', same]⟩
  · rintro limit rfl below
    rw [size]
    simp only [Option.any_some, decide_eq_true_eq] at within
    omega
  · rw [split, split', List.append_assoc]

theorem FrameRead.shorter {input rest : ByteStream} {fileSize : Option Nat} {position maxEventSize : Nat}
    {frame : List UInt8} (read : FrameRead input fileSize position maxEventSize frame rest) :
    rest.bytes.length < input.bytes.length := by
  have header := read.framed.header
  rw [read.split, List.length_append]
  unfold eventHeaderLength at header
  omega

section Processing
variable {Reader Rows : Type} (mysql : MysqlCommon Reader Rows) (cancelAfter : Option Nat)

/-- Streams inner events from one decompressed payload, with the reader of the outer ones. -/
def processTransactionPayload (process : Event Rows → EventLocation → ParseM Reader Unit) (payload : ByteStream)
    (outer : EventLocation) : ParseM Reader Unit := do
  match payload.hasDataLeft with
  | .error error =>
    note fun _ => .unread
    throw (ioFailure "transaction_payload_read_failed" "Could not read a decompressed transaction payload" error
      outer.fileName (some outer.startPosition))
  | .ok false => return
  | .ok true =>
    if ← isCancelled cancelAfter then return
    let read := (← get).state.decompressedPayloadBytes
    let limit := min (maxDecompressedPayloadBytes - read) maxEventSizeBytes
    match _framing : readEventFrame payload none outer.fileName outer.startPosition limit with
    | .error error => throw error
    | .ok none =>
      throw (failure "transaction_payload_truncated" "A transaction payload ended unexpectedly" none (some outer.fileName)
        (some outer.startPosition) false)
    | .ok (some (frame, rest)) =>
      tryState (·.recordDecompressedEvent frame.length outer)
      note fun _ => .decompressed frame
      let inner ← parseEventFrame mysql frame true outer.fileName outer.startPosition
      modifyState fun state => { state with eventCount := state.eventCount + 1 }.observeTimestamp inner.timestamp
      process inner { outer with timestamp := mysql.timestampFromSeconds inner.timestamp, serverId := inner.serverId }
      processTransactionPayload process rest outer
termination_by payload.bytes.length
decreasing_by exact (readEventFrame_some _framing).shorter

def locatedWarning (code message : String) (location : EventLocation) : BinlogDiagnostic where
  code := code
  message := message
  severity := .warning
  fileName := some location.fileName
  position := some location.startPosition

/-- Dispatches one decoded event into transaction assembly or diagnostics. Payloads
nest at most as deep as the levels left, which the depth in the state counts too. -/
def processEvent : Nat → Event Rows → EventLocation → ParseM Reader Unit
  | levels, event, location => do
    match event.data with
    | .error error =>
      throw (ioFailure "event_data_decode_failed" "Could not decode binlog event data" error location.fileName
        (some location.startPosition))
    | .ok none =>
      diagnose (locatedWarning "unknown_event_type"
        s!"Unknown binlog event type {event.eventTypeRaw} was preserved as a diagnostic" location)
    | .ok (some (.query schema query)) => hand (.query schema query location)
    | .ok (some (.xid xid)) => hand (.xid xid location)
    | .ok (some (.gtid sid tag gno)) => hand (.gtid (formatGtid sid tag gno) location)
    | .ok (some (.rowsQuery query)) => hand (.rowsQuery query)
    | .ok (some (.rows rows)) =>
      let (change, diagnostics) := mysql.decodeRowsEvent (← get).reader rows location
      diagnostics.forM diagnose
      hand (.rows change location)
    | .ok (some (.transactionPayload uncompressedSize decompressed)) =>
      tryState (·.enterTransactionPayload uncompressedSize location)
      note fun state => .entered state.transactionPayloadDepth
      try
        match levels, decompressed with
        | _, .error error =>
          throw (ioFailure "transaction_payload_decompress_failed" "Could not decompress a transaction payload event" error
            location.fileName (some location.startPosition))
        | 0, .ok _ => pure ()
        | levels + 1, .ok payload => processTransactionPayload mysql cancelAfter (processEvent levels) payload location
      finally
        modifyState ParserState.leaveTransactionPayload
        note fun state => .left state.transactionPayloadDepth
    | .ok (some (.formatDescription serverVersion)) =>
      if (serverVersion.toList.map Char.toLower).tails.any ("mariadb".toList.isPrefixOf ·) then
        throw (failure "unsupported_mariadb_binlog" "MariaDB binlogs are not supported by this MySQL parser"
          (some s!"server version {serverVersion}") (some location.fileName) (some location.startPosition) false)
    | .ok (some (.incident message)) =>
      diagnose (locatedWarning "mysql_incident" s!"MySQL recorded an incident: {message}" location)
    | .ok (some .unsupported) =>
      diagnose (locatedWarning "unsupported_event" "A legacy or unknown binlog event could not be analyzed" location)
    | .ok (some .control) => hand (.updateEnd location)

end Processing

/-- A frame that was read, decoded and processed: of which file and where it began. -/
structure ProcessedFrame where
  file : Nat
  startPosition : Nat
  bytes : List UInt8
deriving DecidableEq, Repr

/-- The files of one import as they are when they are read, and when its token is cancelled. -/
structure ImportSource where
  openFile : Nat → Except IoError ByteStream
  streamPosition : Nat → Nat → Option IoError
  cancelAfter : Option Nat

/-- The local variables of `analyze_files`, what it reported, and the frames it processed. -/
structure Importing (Reader : Type) where
  parsing : Parsing Reader
  completedBytes : Nat
  filesCompleted : Nat
  lastProgressBytes : Nat
  lastProgressEvents : Nat
  progress : List BinlogProgress
  processed : List ProcessedFrame

section Files
variable {Reader Rows : Type} (mysql : MysqlCommon Reader Rows) (source : ImportSource) (totalBytes fileCount : Nat)

/-- Reports progress and remembers how far it was. -/
def Importing.report (self : Importing Reader) (bytesRead : Nat) (currentFile : String) : Importing Reader :=
  { self with
    progress := self.progress ++
      [self.parsing.state.progress bytesRead totalBytes fileCount self.filesCompleted (some currentFile)]
    lastProgressBytes := bytesRead
    lastProgressEvents := self.parsing.state.eventCount }

/-- Whether the token is cancelled when the import asks next. -/
def Importing.check (self : Importing Reader) : Bool × Importing Reader :=
  let (cancelled, parsing) := self.parsing.ask source.cancelAfter
  (cancelled, { self with parsing })

/-- Decodes one frame of a file and processes its event. -/
def processFrame (currentFile : String) (startPosition : Nat) (frame : List UInt8) : ParseM Reader Unit := do
  let event ← parseEventFrame mysql frame false currentFile startPosition
  modifyState fun state => { state with eventCount := state.eventCount + 1 }.observeTimestamp event.timestamp
  processEvent mysql source.cancelAfter maxTransactionPayloadDepth event {
    timestamp := mysql.timestampFromSeconds event.timestamp
    serverId := event.serverId
    fileName := currentFile
    startPosition
    endPosition := startPosition + frame.length }

/-- What follows one processed frame: it is noted, and progress is reported at intervals. -/
def Importing.advance (self : Importing Reader) (index : Nat) (currentFile : String) (startPosition : Nat)
    (frame : List UInt8) : Importing Reader :=
  let self := { self with processed := self.processed ++ [⟨index, startPosition, frame⟩] }
  let bytesRead := (self.completedBytes + (startPosition + frame.length)) % u64Size
  if bytesRead - self.lastProgressBytes ≥ progressByteInterval ∨
      self.parsing.state.eventCount - self.lastProgressEvents ≥ progressEventInterval then
    self.report totalBytes fileCount bytesRead currentFile
  else self

/-- What one iteration of the event loop comes to: the loop ends, without a terminal
outcome where the file ended cleanly, or it goes on with the bytes that are left. -/
inductive Iteration (Reader : Type) where
  | ended (outcome : Option BinlogImportTerminal) (importing : Importing Reader)
  | next (rest : ByteStream) (startPosition : Nat) (importing : Importing Reader)

/-- One iteration of the event loop over one file. -/
def readEvent (index : Nat) (file : BinlogFileSummary) (input : ByteStream) (startPosition : Nat)
    (importing : Importing Reader) : Iteration Reader :=
  let currentFile := fileName file.path
  match importing.check source with
  | (true, importing) => .ended (some .canceled) importing
  | (false, importing) =>
    match source.streamPosition index startPosition with
    | some error =>
      .ended (some (.failed (ioFailure "file_position_failed" "Could not determine the binlog read position" error currentFile none)))
        importing
    | none =>
      match readEventFrame input (some file.sizeBytes) currentFile startPosition maxEventSizeBytes with
      | .error error => .ended (some (.failed error)) importing
      | .ok none => .ended none importing
      | .ok (some (frame, rest)) =>
        match (processFrame mysql source currentFile startPosition frame).run importing.parsing with
        | (.error error, parsing) => .ended (some (.failed error)) { importing with parsing }
        | (.ok (), parsing) =>
          .next rest (startPosition + frame.length)
            ({ importing with parsing }.advance totalBytes fileCount index currentFile startPosition frame)

/-- The outcome of one iteration, as far as the framing of the file goes. -/
inductive Iterates (index : Nat) (file : BinlogFileSummary) (input : ByteStream) (position : Nat) (importing : Importing Reader) :
    Iteration Reader → Prop
  | canceled (parsing : Parsing Reader) : Iterates index file input position importing (.ended (some .canceled) { importing with parsing })
  | unplaced (parsing : Parsing Reader) (failure : BinlogImportFailure) (error : IoError)
      (fault : source.streamPosition index position = some error) :
      Iterates index file input position importing (.ended (some (.failed failure)) { importing with parsing })
  | misframed (parsing : Parsing Reader) (failure : BinlogImportFailure)
      (refused : readEventFrame input (some file.sizeBytes) (fileName file.path) position maxEventSizeBytes = .error failure) :
      Iterates index file input position importing (.ended (some (.failed failure)) { importing with parsing })
  | undecoded (parsing : Parsing Reader) (failure : BinlogImportFailure) (frame : List UInt8) (rest : ByteStream)
      (read : FrameRead input (some file.sizeBytes) position maxEventSizeBytes frame rest) :
      Iterates index file input position importing (.ended (some (.failed failure)) { importing with parsing })
  | finished (parsing : Parsing Reader)
      (nothing : readEventFrame input (some file.sizeBytes) (fileName file.path) position maxEventSizeBytes = .ok none) :
      Iterates index file input position importing (.ended none { importing with parsing })
  | next (parsing : Parsing Reader) (frame : List UInt8) (rest : ByteStream)
      (read : FrameRead input (some file.sizeBytes) position maxEventSizeBytes frame rest) :
      Iterates index file input position importing (.next rest (position + frame.length)
        ({ importing with parsing }.advance totalBytes fileCount index (fileName file.path) position frame))

theorem readEvent_iterates (index : Nat) (file : BinlogFileSummary) (input : ByteStream) (position : Nat)
    (importing : Importing Reader) : Iterates source totalBytes fileCount index file input position importing
      (readEvent mysql source totalBytes fileCount index file input position importing) := by
  simp only [readEvent, Importing.check]
  obtain ⟨cancelled, asked⟩ := importing.parsing.ask source.cancelAfter
  cases cancelled with
  | true => exact .canceled _
  | false =>
  cases fault : source.streamPosition index position with
  | some error => exact .unplaced _ _ error fault
  | none =>
  cases framing : readEventFrame input (some file.sizeBytes) (fileName file.path) position maxEventSizeBytes with
  | error failure => exact .misframed _ failure framing
  | ok found =>
  rcases found with _ | ⟨frame, rest⟩
  · exact .finished _ framing
  · have read := readEventFrame_some framing
    dsimp only
    split
    · exact .undecoded _ _ frame rest read
    · exact .next _ frame rest read

/-- An iteration that goes on has consumed an event header at least. -/
theorem readEvent_next {index : Nat} {file : BinlogFileSummary} {input rest : ByteStream} {position position' : Nat}
    {importing importing' : Importing Reader}
    (next : readEvent mysql source totalBytes fileCount index file input position importing = .next rest position' importing') :
    rest.bytes.length + eventHeaderLength ≤ input.bytes.length := by
  have iterates := readEvent_iterates mysql source totalBytes fileCount index file input position importing
  rw [next] at iterates
  cases iterates with
  | next _ frame _ read =>
    rw [read.split, List.length_append, Nat.add_comm]
    exact Nat.add_le_add_right read.framed.header _

/-- The event loop over one file. -/
def readEvents (index : Nat) (file : BinlogFileSummary) (input : ByteStream) (startPosition : Nat)
    (importing : Importing Reader) : Option BinlogImportTerminal × Importing Reader :=
  match _iteration : readEvent mysql source totalBytes fileCount index file input startPosition importing with
  | .ended outcome importing => (outcome, importing)
  | .next rest startPosition importing => readEvents index file rest startPosition importing
termination_by input.bytes.length
decreasing_by
  have shorter := readEvent_next mysql source totalBytes fileCount _iteration
  unfold eventHeaderLength at shorter
  omega

/-- Opens one file and reads its events. -/
def readFile (index : Nat) (file : BinlogFileSummary) (importing : Importing Reader) :
    Option BinlogImportTerminal × Importing Reader :=
  let currentFile := fileName file.path
  match importing.check source with
  | (true, importing) => (some .canceled, importing)
  | (false, importing) =>
    match source.openFile index with
    | .error error =>
      (some (.failed (failure "file_open_failed" "Could not open a selected binlog file" (some error.message)
        (some currentFile) none (error.kind = .interrupted))), importing)
    | .ok input =>
      match readFileHeader mysql input currentFile with
      | .error error => (some (.failed error), importing)
      | .ok input =>
        readEvents mysql source totalBytes fileCount index file input magic.length
          { importing with parsing := { importing.parsing with reader := mysql.newReader } }

/-- What follows a file that ended cleanly. -/
def Importing.completeFile (self : Importing Reader) (file : BinlogFileSummary) : Importing Reader :=
  let completedBytes := min (self.completedBytes + file.sizeBytes) (u64Size - 1)
  { self with completedBytes, filesCompleted := self.filesCompleted + 1 }.report totalBytes fileCount completedBytes
    (fileName file.path)

/-- The loop over the files, from the given index on. -/
def readFiles : Nat → List BinlogFileSummary → Importing Reader → BinlogImportTerminal × Importing Reader
  | _, [], importing => (.completed, importing)
  | index, file :: files, importing =>
    match readFile mysql source totalBytes fileCount index file importing with
    | (some terminal, importing) => (terminal, importing)
    | (none, importing) => readFiles (index + 1) files (importing.completeFile totalBytes fileCount file)

end Files

/-- Summary counts and table aggregates of the assembled transactions. -/
def buildSummary (timestampFromSeconds : Nat → String) (analysisId : Uuid) (files : List BinlogFileSummary)
    (startedAt endedAt : String) (status : BinlogAnalysisStatus) (state : ParserState)
    (transactions : List BinlogTransaction) : BinlogSummary where
  analysisId := analysisId
  files := files
  status := status
  startedAt := startedAt
  endedAt := some endedAt
  firstEventAt := state.firstTimestamp.map timestampFromSeconds
  lastEventAt := state.lastTimestamp.map timestampFromSeconds
  transactionCount := transactions.length
  eventCount := state.eventCount
  rowChangeCount := (transactions.map BinlogTransaction.rowChangeCount).sum
  tables := (Assembler.summarizeTransactionTables (transactions.flatMap BinlogTransaction.changes)).map fun table =>
    { database := table.database
      table := table.table
      insertCount := table.insertCount
      updateCount := table.updateCount
      deleteCount := table.deleteCount
      ddlCount := table.ddlCount
      rowChangeCount := table.rowChangeCount }
  diagnostics := state.diagnostics

/-- What an import stores: its last state and its terminal outcome, summarised. -/
def finishAnalysis (timestampFromSeconds : Nat → String) (analysisId : Uuid) (files : List BinlogFileSummary)
    (startedAt endedAt : String) (state : ParserState) (terminal : BinlogImportTerminal) : BinlogAnalysisOutput :=
  let state := match terminal with
    | .failed error => state.pushDiagnostic error.diagnostic
    | .canceled => state.pushDiagnostic {
        code := "import_canceled"
        message := "Binlog import was canceled"
        severity := .info
        fileName := none
        position := none }
    | .completed => state
  let transactions := state.assembler.intoTransactions
  let status := match terminal with
    | .completed => if state.diagnostics.isEmpty then .complete else .warning
    | .canceled => .partialResult
    | .failed _ => .error
  { summary := buildSummary timestampFromSeconds analysisId files startedAt endedAt status state transactions
    transactions
    terminal }

/-- The parsing-state summary registered before the background task starts. -/
def initialSummary (analysisId : Uuid) (files : List BinlogFileSummary) (startedAt : String) : BinlogSummary where
  analysisId := analysisId
  files := files
  status := .partialResult
  startedAt := startedAt
  endedAt := none
  firstEventAt := none
  lastEventAt := none
  transactionCount := 0
  eventCount := 0
  rowChangeCount := 0
  tables := []
  diagnostics := []

section Analysis
variable {Reader Rows : Type} (mysql : MysqlCommon Reader Rows) (source : ImportSource)

def Importing.start (analysisId : Uuid) : Importing Reader where
  parsing := { reader := mysql.newReader, state := .new analysisId, checks := 0, moments := [] }
  completedBytes := 0
  filesCompleted := 0
  lastProgressBytes := 0
  lastProgressEvents := 0
  progress := []
  processed := []

/-- The total size of the files, as `u64` addition gives it. -/
def totalSize (files : List BinlogFileSummary) : Nat := (files.map BinlogFileSummary.sizeBytes).sum % u64Size

/-- The reading of the files, up to the terminal outcome. -/
def importFiles (analysisId : Uuid) (files : List BinlogFileSummary) : BinlogImportTerminal × Importing Reader :=
  readFiles mysql source (totalSize files) files.length 0 files (.start mysql analysisId)

/-- Streams ordered MySQL binlog-v4 files into one transaction timeline. -/
def analyzeFiles (analysisId : Uuid) (files : List BinlogFileSummary) (startedAt endedAt : String) :
    BinlogAnalysisOutput :=
  let (terminal, importing) := importFiles mysql source analysisId files
  finishAnalysis mysql.timestampFromSeconds analysisId files startedAt endedAt importing.parsing.state terminal

end Analysis

end BinlogParser

end Pipa
