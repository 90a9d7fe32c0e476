import Pipa.BinlogRows
import Pipa.Proofs.BinlogCancellation

/-! The reason for which a binlog import stopped. The terminal diagnostic goes through the
same bounded buffer as the warnings of the events, so it is kept exactly if the buffer had
room for it. -/

namespace Pipa

/-- The decoder with the decoding of rows events that the parser has of its own. -/
def MysqlCommon.withRows {Reader Rows Value : Type} (mysql : MysqlCommon Reader Rows) (rows : RowsEvents Reader Rows Value) :
    MysqlCommon Reader Rows :=
  { mysql with decodeRowsEvent := BinlogRows.decodeRowsEvent rows }

namespace BinlogRows
open BinlogParser

section Warnings
variable {Reader Rows Value : Type} (mysql : RowsEvents Reader Rows Value)

theorem decodeRows_warnings (before after : Option (List Bool)) (columns : List String) (location : EventLocation)
    (rows : List (Option (Option (List Value) × Option (List Value)))) :
    ∀ diagnostic ∈ (decodeRows mysql before after columns location rows).2, diagnostic.severity = .warning := by
  induction rows with
  | nil =>
    intro diagnostic member
    cases member
  | cons row rows ih =>
    cases row with
    | none =>
      intro diagnostic member
      rw [List.mem_singleton.mp member]
      rfl
    | some images => exact ih

/-- What the decoding of a rows event reports are warnings. -/
theorem decodeRowsEvent_warnings (reader : Reader) (rows : Rows) (location : EventLocation) :
    ∀ diagnostic ∈ (decodeRowsEvent mysql reader rows location).2, diagnostic.severity = .warning := by
  rw [decodeRowsEvent]
  cases mysql.tableMap reader rows with
  | none =>
    intro diagnostic member
    rw [List.mem_singleton.mp member]
    rfl
  | some tableMap =>
    intro diagnostic member
    rcases List.mem_append.mp member with unnamed | undecoded
    · rw [tableColumnNames] at unnamed
      split at unnamed
      · rw [List.mem_singleton.mp unnamed]
        rfl
      · cases unnamed
    · exact decodeRows_warnings mysql _ _ _ location _ diagnostic undecoded

end Warnings

end BinlogRows

namespace BinlogParser

/-- The diagnostic that a moment notes. -/
def Moment.diagnostic? : Moment → Option BinlogDiagnostic
  | .diagnosed diagnostic => some diagnostic
  | _ => none

/-- The diagnostics that the events gave rise to, in order. -/
def reported (moments : List Moment) : List BinlogDiagnostic := moments.filterMap Moment.diagnostic?

theorem reported_concat (moments : List Moment) (moment : Moment) :
    reported (moments ++ [moment]) = reported moments ++ moment.diagnostic?.toList := by
  rw [reported, List.filterMap_append]
  cases moment <;> rfl

def truncation : BinlogDiagnostic where
  code := "diagnostics_truncated"
  message := "Additional parser diagnostics were omitted after the safety limit"
  severity := .warning
  fileName := none
  position := none

/-- What the bounded buffer holds of the diagnostics that were pushed. -/
def retained (pushed : List BinlogDiagnostic) : List BinlogDiagnostic :=
  if pushed.length ≤ maxDiagnostics then pushed else pushed.take maxDiagnostics ++ [truncation]

/-- The buffer after these diagnostics. -/
structure Holds (state : ParserState) (pushed : List BinlogDiagnostic) : Prop where
  diagnostics : state.diagnostics = retained pushed
  truncated : state.diagnosticsTruncated = true ↔ maxDiagnostics < pushed.length

theorem Holds.push {state : ParserState} {pushed : List BinlogDiagnostic} (holds : Holds state pushed) (diagnostic : BinlogDiagnostic) :
    Holds (state.pushDiagnostic diagnostic) (pushed ++ [diagnostic]) := by
  obtain ⟨diagnostics, truncated⟩ := holds
  have longer : (pushed ++ [diagnostic]).length = pushed.length + 1 := List.length_append
  rcases Nat.lt_trichotomy pushed.length maxDiagnostics with room | full | beyond
  · have same : retained pushed = pushed := if_pos (Nat.le_of_lt room)
    rw [same] at diagnostics
    rw [ParserState.pushDiagnostic, diagnostics, if_pos room]
    refine ⟨?_, ?_⟩
    · rw [retained, if_pos (by omega)]
    · exact truncated.trans (by omega)
  · have same : retained pushed = pushed := if_pos (Nat.le_of_eq full)
    have whole : state.diagnosticsTruncated ≠ true := fun cut => by
      have := truncated.mp cut
      omega
    rw [same] at diagnostics
    rw [ParserState.pushDiagnostic, diagnostics, if_neg (by omega), if_neg whole]
    refine ⟨?_, iff_of_true rfl (by omega)⟩
    rw [retained, if_neg (by omega), List.take_left' full]
    rfl
  · have same : retained pushed = pushed.take maxDiagnostics ++ [truncation] := if_neg (by omega)
    rw [same] at diagnostics
    have size : state.diagnostics.length = maxDiagnostics + 1 := by
      rw [diagnostics, List.length_append, List.length_take_of_le (Nat.le_of_lt beyond), List.length_singleton]
    rw [ParserState.pushDiagnostic, if_neg (by omega), if_pos (truncated.mpr beyond)]
    refine ⟨?_, ?_⟩
    · rw [diagnostics, retained, if_neg (by omega), List.take_append_of_le_length (Nat.le_of_lt beyond)]
    · exact truncated.trans (by omega)

theorem retained_bounded (pushed : List BinlogDiagnostic) : (retained pushed).length ≤ maxDiagnostics + 1 := by
  rw [retained]
  split
  next few => exact Nat.le_succ_of_le few
  next =>
    rw [List.length_append]
    exact Nat.add_le_add_right (List.length_take_le ..) 1

/-- The last diagnostic is retained exactly if the buffer has room for it, unless it was
pushed before or is the truncation warning itself. -/
theorem mem_retained_concat {pushed : List BinlogDiagnostic} {diagnostic : BinlogDiagnostic} (fresh : diagnostic ∉ pushed)
    (other : diagnostic ≠ truncation) : diagnostic ∈ retained (pushed ++ [diagnostic]) ↔ pushed.length < maxDiagnostics := by
  have longer : (pushed ++ [diagnostic]).length = pushed.length + 1 := List.length_append
  rw [retained, longer]
  constructor
  · intro member
    by_contra full
    rw [if_neg (by omega), List.take_append_of_le_length (by omega)] at member
    rcases List.mem_append.mp member with earlier | warned
    · exact fresh (List.mem_of_mem_take earlier)
    · exact other (List.mem_singleton.mp warned)
  · intro room
    rw [if_pos (by omega)]
    exact List.mem_append_right _ (List.mem_singleton_self _)

/-- What is known of the diagnostics at any time. -/
structure Warned {Reader : Type} (parsing : Parsing Reader) : Prop where
  buffer : Holds parsing.state (reported parsing.moments)
  warnings : ∀ diagnostic ∈ reported parsing.moments, diagnostic.severity = .warning

section Steps
variable {Reader Rows Value : Type} {mysql : MysqlCommon Reader Rows} {rows : RowsEvents Reader Rows Value}
  {cancelAfter : Option Nat} {start finish : Parsing Reader}

theorem produced_warning {diagnostic : BinlogDiagnostic} (produced : Produced (mysql.withRows rows) diagnostic) :
    diagnostic.severity = .warning := by
  rcases produced with warning | ⟨reader, event, location, member⟩
  · exact warning
  · exact BinlogRows.decodeRowsEvent_warnings rows reader event location diagnostic member

theorem Moves.warned (moves : Moves (mysql.withRows rows) cancelAfter start finish) (warned : Warned start) : Warned finish := by
  have noted {state : ParserState} {checks : Nat} {moment : Moment} (same : state.diagnostics = start.state.diagnostics)
      (same' : state.diagnosticsTruncated = start.state.diagnosticsTruncated) (silent : moment.diagnostic? = none) :
      Warned { start with state, checks, moments := start.moments ++ [moment] } := by
    have unchanged : reported (start.moments ++ [moment]) = reported start.moments := by
      rw [reported_concat, silent]
      exact List.append_nil _
    refine ⟨?_, ?_⟩
    · dsimp only
      rw [unchanged]
      exact ⟨same.trans warned.buffer.diagnostics, by rw [same']; exact warned.buffer.truncated⟩
    · dsimp only
      rw [unchanged]
      exact warned.warnings
  cases moves with
  | asked | left | unread | entered | decompressed | handed => exact noted rfl rfl rfl
  | read => exact ⟨warned.buffer, warned.warnings⟩
  | counted _ timestamp =>
    obtain ⟨firstTimestamp, lastTimestamp, same⟩ :=
      observeTimestamp_keeps { start.state with eventCount := start.state.eventCount + 1 } timestamp
    rw [same]
    exact ⟨⟨warned.buffer.diagnostics, warned.buffer.truncated⟩, warned.warnings⟩
  | diagnosed _ diagnostic produced =>
    have longer : reported (start.moments ++ [.diagnosed diagnostic]) = reported start.moments ++ [diagnostic] :=
      reported_concat _ _
    refine ⟨?_, ?_⟩
    · dsimp only
      rw [longer]
      exact warned.buffer.push diagnostic
    · intro other member
      dsimp only at member
      rw [longer] at member
      rcases List.mem_append.mp member with earlier | here
      · exact warned.warnings other earlier
      · rw [List.mem_singleton.mp here]
        exact produced_warning produced

theorem Reaches.warned (reaches : Reaches (mysql.withRows rows) cancelAfter start finish) (warned : Warned start) :
    Warned finish := by
  induction reaches with
  | refl => exact warned
  | tail _ moves ih => exact moves.warned ih

end Steps

/-- The diagnostic that says why an import stopped. -/
def terminalDiagnostic : BinlogImportTerminal → Option BinlogDiagnostic
  | .completed => none
  | .canceled => some {
      code := "import_canceled"
      message := "Binlog import was canceled"
      severity := .info
      fileName := none
      position := none }
  | .failed error => some error.diagnostic

/-- An import that stopped says why, in a bounded list; it is complete exactly if it
completed and nothing was reported. -/
structure ReasonKept (produced : List BinlogDiagnostic) (output : BinlogAnalysisOutput) : Prop where
  reason : ∀ diagnostic, terminalDiagnostic output.terminal = some diagnostic → diagnostic ∈ output.summary.diagnostics
  bounded : output.summary.diagnostics.length ≤ maxDiagnostics + 1
  complete : output.summary.status = .complete ↔ output.terminal = .completed ∧ produced = []

section Outcome
variable {Reader Rows Value : Type} (mysql : MysqlCommon Reader Rows) (rows : RowsEvents Reader Rows Value) (source : ImportSource)
  (analysisId : Uuid) (files : List BinlogFileSummary) (startedAt endedAt : String)

theorem importFiles_warned : Warned (importFiles (mysql.withRows rows) source analysisId files).2.parsing := by
  have initial : Warned (Importing.start (mysql.withRows rows) analysisId).parsing := by
    refine ⟨⟨rfl, iff_of_false Bool.false_ne_true (Nat.not_lt_zero _)⟩, ?_⟩
    intro diagnostic member
    cases member
  exact (importFiles_halts (mysql.withRows rows) source analysisId files).reaches.warned initial

/-- The diagnostics of a summary are what is retained of those reported and the last one. -/
theorem analyzeFiles_diagnostics :
    (analyzeFiles (mysql.withRows rows) source analysisId files startedAt endedAt).summary.diagnostics =
      retained (reported (importFiles (mysql.withRows rows) source analysisId files).2.parsing.moments ++
        (terminalDiagnostic (importFiles (mysql.withRows rows) source analysisId files).1).toList) := by
  have warned := importFiles_warned mysql rows source analysisId files
  rw [analyzeFiles]
  generalize importFiles (mysql.withRows rows) source analysisId files = result at warned ⊢
  obtain ⟨terminal, importing⟩ := result
  cases terminal with
  | completed => exact warned.buffer.diagnostics.trans (congrArg retained (List.append_nil _).symm)
  | canceled => exact (warned.buffer.push _).diagnostics
  | failed failure => exact (warned.buffer.push _).diagnostics

theorem analyzeFiles_reason : (analyzeFiles mysql source analysisId files startedAt endedAt).terminal =
    (importFiles mysql source analysisId files).1 := rfl

/-- The last diagnostic of an import that stopped is shown exactly if the buffer had room for it. -/
theorem reason_shown {diagnostic : BinlogDiagnostic}
    (stopped : terminalDiagnostic (importFiles (mysql.withRows rows) source analysisId files).1 = some diagnostic) :
    diagnostic ∈ (analyzeFiles (mysql.withRows rows) source analysisId files startedAt endedAt).summary.diagnostics ↔
      (reported (importFiles (mysql.withRows rows) source analysisId files).2.parsing.moments).length < maxDiagnostics := by
  have severe : diagnostic.severity ≠ .warning := by
    have halts := importFiles_halts (mysql.withRows rows) source analysisId files
    generalize importFiles (mysql.withRows rows) source analysisId files = result at halts stopped
    obtain ⟨terminal, importing⟩ := result
    cases terminal with
    | completed => cases stopped
    | canceled =>
      obtain rfl := Option.some.inj stopped
      exact BinlogDiagnosticSeverity.noConfusion
    | failed failure =>
      obtain rfl := Option.some.inj stopped
      have severe := halts.severe failure rfl
      intro warning
      rw [severe] at warning
      cases warning
  rw [analyzeFiles_diagnostics, stopped]
  apply mem_retained_concat
  · intro member
    exact severe ((importFiles_warned mysql rows source analysisId files).warnings diagnostic member)
  · intro same
    rw [same] at severe
    exact severe rfl

theorem retained_isEmpty (pushed : List BinlogDiagnostic) : (retained pushed).isEmpty = true ↔ pushed = [] := by
  cases pushed with
  | nil => exact iff_of_true rfl rfl
  | cons first others =>
    rw [retained]
    split
    · exact iff_of_false Bool.false_ne_true (List.cons_ne_nil _ _)
    · exact iff_of_false Bool.false_ne_true (List.cons_ne_nil _ _)

/-- An import is complete exactly if it completed and nothing was reported. -/
theorem status_complete :
    (analyzeFiles (mysql.withRows rows) source analysisId files startedAt endedAt).summary.status = .complete ↔
      (importFiles (mysql.withRows rows) source analysisId files).1 = .completed ∧
        reported (importFiles (mysql.withRows rows) source analysisId files).2.parsing.moments = [] := by
  have warned := importFiles_warned mysql rows source analysisId files
  rw [analyzeFiles]
  generalize importFiles (mysql.withRows rows) source analysisId files = result at warned ⊢
  obtain ⟨terminal, importing⟩ := result
  cases terminal with
  | completed =>
    have empty := retained_isEmpty (reported importing.parsing.moments)
    rw [← warned.buffer.diagnostics] at empty
    rw [← empty]
    change (if importing.parsing.state.diagnostics.isEmpty = true then BinlogAnalysisStatus.complete else .warning) = .complete ↔ _
    constructor
    · intro complete
      split at complete
      next clean => exact ⟨rfl, clean⟩
      next => cases complete
    · intro complete
      exact if_pos complete.2
  | canceled => exact iff_of_false BinlogAnalysisStatus.noConfusion fun both => BinlogImportTerminal.noConfusion both.1
  | failed failure => exact iff_of_false BinlogAnalysisStatus.noConfusion fun both => BinlogImportTerminal.noConfusion both.1

/-- An import keeps the reason for which it stopped, exactly if fewer diagnostics than the
buffer holds were reported before. -/
theorem reason_kept :
    ReasonKept (reported (importFiles (mysql.withRows rows) source analysisId files).2.parsing.moments)
        (analyzeFiles (mysql.withRows rows) source analysisId files startedAt endedAt) ↔
      ((importFiles (mysql.withRows rows) source analysisId files).1 ≠ .completed →
        (reported (importFiles (mysql.withRows rows) source analysisId files).2.parsing.moments).length < maxDiagnostics) := by
  constructor
  · intro kept stopped
    have stopping : ∃ diagnostic, terminalDiagnostic (importFiles (mysql.withRows rows) source analysisId files).1 = some diagnostic := by
      cases terminal : (importFiles (mysql.withRows rows) source analysisId files).1 with
      | completed => exact absurd terminal stopped
      | canceled => exact ⟨_, rfl⟩
      | failed failure => exact ⟨_, rfl⟩
    obtain ⟨diagnostic, unfinished⟩ := stopping
    exact (reason_shown mysql rows source analysisId files startedAt endedAt unfinished).mp (kept.reason diagnostic unfinished)
  · intro room
    refine ⟨?_, ?_, status_complete mysql rows source analysisId files startedAt endedAt⟩
    · intro diagnostic unfinished
      apply (reason_shown mysql rows source analysisId files startedAt endedAt unfinished).mpr
      apply room
      intro completed
      rw [analyzeFiles_reason, completed] at unfinished
      cases unfinished
    · rw [analyzeFiles_diagnostics]
      exact retained_bounded _

end Outcome

section Lost

/-- Every event is of a type that the decoder does not know. -/
def unknownEvents : MysqlCommon Unit Unit where
  newReader := ()
  read _ _ := (.event {
    timestamp := 0
    serverId := 1
    eventTypeRaw := 200
    checksumAlg := .ok none
    checksum := none
    calcChecksum := 0
    data := .ok none }, ())
  readDecompressed _ _ := (.empty, ())
  decodeRowsEvent _ _ _ :=
    ({ database := "", table := "", operation := .insert, rowCount := 0, columns := [], rows := [], tableConfidence := .unknown,
       sql := none }, [])
  timestampFromSeconds _ := "1970-01-01T00:00:00Z"
  invalidFileHeader := ⟨.other, "invalid header"⟩

def noRows : RowsEvents Unit Unit Unit where
  kind _ := .writeRows
  numColumns _ := 0
  columnsBeforeImage _ := none
  columnsAfterImage _ := none
  tableMap _ _ := none
  rows _ _ := []
  decodeBinlogValue _ := .notLogged

/-- As many bare events, and one byte of another. -/
def bareEvents (count : Nat) : List UInt8 := (List.replicate count bareFrame).flatten ++ [0]

theorem bareEvents_succ (count : Nat) : bareEvents (count + 1) = bareFrame ++ bareEvents count := by
  rw [bareEvents, bareEvents, List.replicate_succ, List.flatten_cons, List.append_assoc]

def damagedFile : BinlogFileSummary := ⟨"mysql-bin.000001", 19005⟩

def damagedSource : ImportSource where
  openFile _ := .ok ⟨magic ++ bareEvents maxDiagnostics, none⟩
  streamPosition _ _ := none
  cancelAfter := none

/-- A whole frame in front of the input is read. -/
theorem readEventFrame_bare (rest : List UInt8) {position : Nat} (inside : position + bareFrame.length ≤ damagedFile.sizeBytes) :
    readEventFrame ⟨bareFrame ++ rest, none⟩ (some damagedFile.sizeBytes) "mysql-bin.000001" position maxEventSizeBytes =
      .ok (some (bareFrame, ⟨rest, none⟩)) := by
  have size : bareFrame.length = eventHeaderLength := rfl
  have limit : damagedFile.sizeBytes = 19005 := rfl
  have header : (⟨bareFrame ++ rest, none⟩ : ByteStream).readExact eventHeaderLength = .ok (bareFrame, ⟨rest, none⟩) := by
    rw [ByteStream.readExact, if_pos (by rw [List.length_append, size]; omega)]
    rfl
  have body : (⟨rest, none⟩ : ByteStream).readExact (declaredSize bareFrame - eventHeaderLength) = .ok ([], ⟨rest, none⟩) := rfl
  rw [size] at inside
  have wide : ¬(damagedFile.sizeBytes - position < eventHeaderLength) := by omega
  have within : ¬(damagedFile.sizeBytes < min (position + declaredSize bareFrame) (u64Size - 1)) := by
    have declared : declaredSize bareFrame = eventHeaderLength := rfl
    rw [declared]
    exact Nat.not_lt.mpr (Nat.le_trans (Nat.min_le_left _ _) inside)
  rw [readEventFrame]
  have more : (⟨bareFrame ++ rest, none⟩ : ByteStream).hasDataLeft = .ok true := rfl
  have known : declaredSize bareFrame = 19 := rfl
  simp only [more, header, body, wide, within, Option.any_some, decide_false, Bool.false_eq_true, if_false]
  rfl

section Loop
variable {Reader Rows : Type} {mysql : MysqlCommon Reader Rows} {source : ImportSource} {totalBytes fileCount index position : Nat}
  {file : BinlogFileSummary} {input : ByteStream} {importing after : Importing Reader}

theorem readEvents_ended {outcome : Option BinlogImportTerminal}
    (ended : readEvent mysql source totalBytes fileCount index file input position importing = .ended outcome after) :
    readEvents mysql source totalBytes fileCount index file input position importing = (outcome, after) := by
  rw [readEvents]
  split
  next again =>
    obtain ⟨rfl, rfl⟩ := Iteration.ended.inj (ended.symm.trans again)
    rfl
  next again => cases ended.symm.trans again

theorem readEvents_next {rest : ByteStream} {position' : Nat}
    (next : readEvent mysql source totalBytes fileCount index file input position importing = .next rest position' after) :
    readEvents mysql source totalBytes fileCount index file input position importing =
      readEvents mysql source totalBytes fileCount index file rest position' after := by
  conv_lhs => rw [readEvents]
  split
  next again => cases next.symm.trans again
  next again =>
    obtain ⟨rfl, rfl, rfl⟩ := Iteration.next.inj (next.symm.trans again)
    rfl

theorem readFile_opened {events : ByteStream} (free : (importing.check source).1 = false) (opened : source.openFile index = .ok input)
    (header : readFileHeader mysql input (fileName file.path) = .ok events) :
    readFile mysql source totalBytes fileCount index file importing =
      readEvents mysql source totalBytes fileCount index file events magic.length
        { (importing.check source).2 with parsing := { (importing.check source).2.parsing with reader := mysql.newReader } } := by
  rw [readFile]
  generalize importing.check source = check at free
  obtain ⟨cancelled, asked⟩ := check
  obtain rfl : cancelled = false := free
  dsimp only
  rw [opened]
  dsimp only
  rw [header]

theorem readFiles_stopped {files : List BinlogFileSummary} {terminal : BinlogImportTerminal}
    (stopped : readFile mysql source totalBytes fileCount index file importing = (some terminal, after)) :
    readFiles mysql source totalBytes fileCount index (file :: files) importing = (terminal, after) := by
  rw [readFiles, stopped]

end Loop

theorem processFrame_unknown (name : String) (position : Nat) (frame : List UInt8) (parsing : Parsing Unit) :
    ∃ after, (processFrame (unknownEvents.withRows noRows) damagedSource name position frame).run parsing = (.ok (), after) ∧
      (reported after.moments).length = (reported parsing.moments).length + 1 := by
  refine ⟨_, rfl, ?_⟩
  change (reported (parsing.moments ++ [_])).length = _
  rw [reported_concat, List.length_append]
  rfl

theorem readEvent_bare (totalBytes : Nat) (rest : List UInt8) {position : Nat} (importing : Importing Unit)
    (inside : position + bareFrame.length ≤ damagedFile.sizeBytes) :
    ∃ after : Importing Unit,
      readEvent (unknownEvents.withRows noRows) damagedSource totalBytes 1 0 damagedFile ⟨bareFrame ++ rest, none⟩ position importing =
        .next ⟨rest, none⟩ (position + bareFrame.length) after ∧
      (reported after.parsing.moments).length = (reported importing.parsing.moments).length + 1 := by
  have name : fileName damagedFile.path = "mysql-bin.000001" := by decide +kernel
  obtain ⟨parsing, passed, longer⟩ := processFrame_unknown "mysql-bin.000001" position bareFrame
    (importing.parsing.ask damagedSource.cancelAfter).2
  refine ⟨({ importing with parsing }).advance totalBytes 1 0 "mysql-bin.000001" position bareFrame, ?_, ?_⟩
  · rw [← name] at passed ⊢
    have checked : importing.check damagedSource =
        (false, { importing with parsing := (importing.parsing.ask damagedSource.cancelAfter).2 }) := rfl
    have framing := readEventFrame_bare rest inside
    rw [← name] at framing
    rw [readEvent_passed checked rfl framing passed]
  · rw [advance_parsing, longer]
    change (reported (importing.parsing.moments ++ [_])).length + 1 = _
    rw [reported_concat]
    exact congrArg (· + 1) (congrArg List.length (List.append_nil _))

theorem readEvent_byte (totalBytes : Nat) (importing : Importing Unit) :
    ∃ failure after, readEvent (unknownEvents.withRows noRows) damagedSource totalBytes 1 0 damagedFile ⟨[0], none⟩ 19004 importing =
        .ended (some (.failed failure)) after ∧
      (reported after.parsing.moments).length = (reported importing.parsing.moments).length := by
  refine ⟨_, _, rfl, ?_⟩
  change (reported (importing.parsing.moments ++ [_])).length = _
  rw [reported_concat]
  exact congrArg List.length (List.append_nil _)

theorem readEvents_bare (totalBytes count : Nat) {position : Nat} (importing : Importing Unit)
    (size : position + bareFrame.length * count = 19004) :
    ∃ failure after, readEvents (unknownEvents.withRows noRows) damagedSource totalBytes 1 0 damagedFile ⟨bareEvents count, none⟩
        position importing = (some (.failed failure), after) ∧
      (reported after.parsing.moments).length = (reported importing.parsing.moments).length + count := by
  induction count generalizing position importing with
  | zero =>
    obtain rfl : position = 19004 := size
    obtain ⟨failure, after, ended, same⟩ := readEvent_byte totalBytes importing
    exact ⟨failure, after, readEvents_ended ended, same⟩
  | succ count ih =>
    have length : bareFrame.length = 19 := rfl
    have whole : damagedFile.sizeBytes = 19005 := rfl
    rw [length] at size
    obtain ⟨next, read, longer⟩ := readEvent_bare totalBytes (bareEvents count) importing
      (show position + bareFrame.length ≤ damagedFile.sizeBytes by rw [length, whole]; omega)
    obtain ⟨failure, after, ended, further⟩ := ih next (show position + 19 + 19 * count = 19004 by omega)
    refine ⟨failure, after, ?_, by rw [further, longer]; omega⟩
    rw [bareEvents_succ]
    exact (readEvents_next read).trans ended

/-- The damaged file fails behind its unknown events. -/
theorem damaged_failed : ∃ failure,
    (importFiles (unknownEvents.withRows noRows) damagedSource ⟨"run"⟩ [damagedFile]).1 = .failed failure ∧
      (reported (importFiles (unknownEvents.withRows noRows) damagedSource ⟨"run"⟩ [damagedFile]).2.parsing.moments).length =
        maxDiagnostics := by
  have header : readFileHeader (unknownEvents.withRows noRows) ⟨magic ++ bareEvents maxDiagnostics, none⟩ (fileName damagedFile.path) =
      .ok ⟨bareEvents maxDiagnostics, none⟩ := readFileHeader_magic _ _ _ _
  let asked : Importing Unit := ((Importing.start (unknownEvents.withRows noRows) ⟨"run"⟩).check damagedSource).2
  obtain ⟨failure, after, ended, count⟩ := readEvents_bare 19005 maxDiagnostics
    { asked with parsing := { asked.parsing with reader := () } } (show magic.length + bareFrame.length * maxDiagnostics = 19004 from rfl)
  have file : readFile (unknownEvents.withRows noRows) damagedSource 19005 1 0 damagedFile (.start (unknownEvents.withRows noRows) ⟨"run"⟩) =
      (some (.failed failure), after) :=
    (readFile_opened rfl rfl header).trans ended
  have whole : importFiles (unknownEvents.withRows noRows) damagedSource ⟨"run"⟩ [damagedFile] = (.failed failure, after) := by
    have total : totalSize [damagedFile] = 19005 := rfl
    rw [importFiles, total]
    exact readFiles_stopped file
  rw [whole]
  exact ⟨failure, rfl, count.trans (Nat.zero_add _)⟩

/-- Behind as many warnings as the buffer holds, the reason of a failure is lost. -/
theorem reason_kept_lost :
    ¬∀ (mysql : MysqlCommon Unit Unit) (rows : RowsEvents Unit Unit Unit) (source : ImportSource) (analysisId : Uuid)
      (files : List BinlogFileSummary) (startedAt endedAt : String),
      ReasonKept (reported (importFiles (mysql.withRows rows) source analysisId files).2.parsing.moments)
        (analyzeFiles (mysql.withRows rows) source analysisId files startedAt endedAt) := by
  intro keeps
  obtain ⟨failure, failed, full⟩ := damaged_failed
  have unfinished : terminalDiagnostic (importFiles (unknownEvents.withRows noRows) damagedSource ⟨"run"⟩ [damagedFile]).1 =
      some failure.diagnostic := by rw [failed]; rfl
  have kept := (keeps unknownEvents noRows damagedSource ⟨"run"⟩ [damagedFile] "" "").reason failure.diagnostic
  rw [analyzeFiles_reason] at kept
  have room := (reason_shown unknownEvents noRows damagedSource ⟨"run"⟩ [damagedFile] "" "" unfinished).mp (kept unfinished)
  rw [full] at room
  exact Nat.lt_irrefl _ room

end Lost

end BinlogParser

end Pipa
