import Pipa.Proofs.AssemblerEffects
import Pipa.Proofs.BinlogHalting

/-! Cancellation of a binlog import. Once the token was seen to be cancelled nothing more
reaches the assembler, and the open transaction is reported as incomplete; the outcome is
canceled unless an enclosing payload fails to be read on behind the one that was left. -/

namespace Pipa.BinlogParser

/-- The call of the assembler that a moment notes. -/
def Moment.event? : Moment → Option AssemblerEvent
  | .handed event => some event
  | _ => none

/-- The calls of the assembler, in order. -/
def handedTo (moments : List Moment) : List AssemblerEvent := moments.filterMap Moment.event?

theorem handedTo_concat (moments : List Moment) (moment : Moment) :
    handedTo (moments ++ [moment]) = handedTo moments ++ moment.event?.toList := by
  rw [handedTo, List.filterMap_append]
  cases moment <;> rfl

/-- Nothing is handed to the assembler after the token was seen to be cancelled. -/
def Quiet (moments : List Moment) : Prop :=
  ∀ before after, moments = before ++ .asked true :: after → handedTo after = []

section Steps
variable {Reader Rows : Type} {mysql : MysqlCommon Reader Rows} {cancelAfter : Option Nat} {start finish : Parsing Reader}

theorem quiet_concat {moments : List Moment} {moment : Moment} (quiet : Quiet moments)
    (silent : moment.event? = none ∨ ¬Observed moments) : Quiet (moments ++ [moment]) := by
  intro before after same
  rcases List.eq_nil_or_concat after with rfl | ⟨after, last, rfl⟩
  · rfl
  · rw [List.concat_eq_append] at same ⊢
    rw [← List.cons_append, ← List.append_assoc] at same
    obtain ⟨rfl, ends⟩ := List.append_inj' same rfl
    obtain rfl := (List.cons.inj ends).1
    rw [handedTo_concat, quiet before after rfl]
    rcases silent with nothing | free
    · rw [nothing]
      rfl
    · exact absurd (List.mem_append_right _ List.mem_cons_self) free

/-- What is known of the assembler at any time. -/
structure Followed (analysisId : Uuid) (parsing : Parsing Reader) : Prop where
  assembler : parsing.state.assembler = Runs.run TransactionAssembler.step (.new analysisId) (handedTo parsing.moments)
  quiet : Quiet parsing.moments

theorem Moves.followed {analysisId : Uuid} (moves : Moves mysql cancelAfter start finish) (followed : Followed analysisId start) :
    Followed analysisId finish := by
  have noted {state : ParserState} {checks : Nat} {moment : Moment} (same : state.assembler = start.state.assembler)
      (silent : moment.event? = none) : Followed analysisId { start with state, checks, moments := start.moments ++ [moment] } := by
    refine ⟨?_, quiet_concat followed.quiet (.inl silent)⟩
    rw [handedTo_concat, silent, same, followed.assembler]
    exact congrArg _ (List.append_nil _).symm
  cases moves with
  | asked | left | unread | entered | decompressed => exact noted rfl rfl
  | read => exact ⟨followed.assembler, followed.quiet⟩
  | counted _ timestamp =>
    obtain ⟨firstTimestamp, lastTimestamp, same⟩ :=
      observeTimestamp_keeps { start.state with eventCount := start.state.eventCount + 1 } timestamp
    rw [same]
    exact ⟨followed.assembler, followed.quiet⟩
  | handed free event =>
    refine ⟨?_, quiet_concat followed.quiet (.inr free)⟩
    rw [handedTo_concat]
    change start.state.assembler.step event = _
    rw [followed.assembler]
    exact (Runs.run_concat ..).symm
  | diagnosed _ diagnostic =>
    obtain ⟨diagnostics, truncated, same⟩ := pushDiagnostic_keeps start.state diagnostic
    exact noted ((congrArg ParserState.assembler same).trans rfl) rfl

theorem Reaches.followed {analysisId : Uuid} (reaches : Reaches mysql cancelAfter start finish)
    (followed : Followed analysisId start) : Followed analysisId finish := by
  induction reaches with
  | refl => exact followed
  | tail _ moves ih => exact moves.followed ih

end Steps

section Outcome
variable {Reader Rows : Type}

/-- The assembler as it was after these moments. -/
def assembledSoFar (analysisId : Uuid) (moments : List Moment) : TransactionAssembler :=
  Runs.run TransactionAssembler.step (.new analysisId) (handedTo moments)

/-- The transactions of an assembler, with the one that is open reported as incomplete. -/
def closedIncomplete (assembler : TransactionAssembler) : List BinlogTransaction :=
  assembler.transactions ++
    (assembler.pending.map fun pending => pending.close assembler.analysisId assembler.nextSequence .incomplete).toList

/-- What the user of a cancelled import is told: that it was canceled and is not complete, with
what had been assembled when the token was seen and the open transaction as incomplete. -/
structure ReportedCanceled (analysisId : Uuid) (moments : List Moment) (output : BinlogAnalysisOutput) : Prop where
  quiet : Quiet moments
  terminal : output.terminal = .canceled
  status : output.summary.status ≠ .complete
  transactions : ∀ before after, moments = before ++ .asked true :: after →
    output.transactions = closedIncomplete (assembledSoFar analysisId before)

theorem finishAnalysis_transactions (timestampFromSeconds : Nat → String) (analysisId : Uuid) (files : List BinlogFileSummary)
    (startedAt endedAt : String) (state : ParserState) (terminal : BinlogImportTerminal) :
    (finishAnalysis timestampFromSeconds analysisId files startedAt endedAt state terminal).transactions =
      closedIncomplete state.assembler := by
  have pushed (diagnostic : BinlogDiagnostic) : (state.pushDiagnostic diagnostic).assembler = state.assembler := by
    obtain ⟨diagnostics, truncated, same⟩ := pushDiagnostic_keeps state diagnostic
    rw [same]
  cases terminal with
  | completed => exact TransactionAssembler.intoTransactions_eq _
  | canceled => exact (TransactionAssembler.intoTransactions_eq _).trans (congrArg closedIncomplete (pushed _))
  | failed failure => exact (TransactionAssembler.intoTransactions_eq _).trans (congrArg closedIncomplete (pushed _))

/-- An import in which the token was seen to be cancelled reports so, exactly if no payload
fails to be read on afterwards. -/
theorem cancellation_reported (mysql : MysqlCommon Reader Rows) (source : ImportSource) (analysisId : Uuid)
    (files : List BinlogFileSummary) (startedAt endedAt : String) :
    (Observed (importFiles mysql source analysisId files).2.parsing.moments →
      ReportedCanceled analysisId (importFiles mysql source analysisId files).2.parsing.moments
        (analyzeFiles mysql source analysisId files startedAt endedAt)) ↔
      ¬Broken (importFiles mysql source analysisId files).2.parsing.moments := by
  have halts := importFiles_halts mysql source analysisId files
  have initial : Followed analysisId (Importing.start mysql analysisId).parsing := by
    refine ⟨rfl, ?_⟩
    intro before after same
    exact absurd same (by simp [Importing.start])
  have followed := halts.reaches.followed initial
  rw [analyzeFiles]
  generalize importFiles mysql source analysisId files = result at halts followed ⊢
  obtain ⟨terminal, importing⟩ := result
  dsimp only at halts followed ⊢
  constructor
  · intro reported broken
    obtain ⟨failure, same⟩ := halts.broken broken
    have canceled := (reported broken.observed).terminal
    cases Option.some.inj same
    cases canceled
  · intro whole observed
    obtain rfl : terminal = .canceled := Option.some.inj (halts.canceled.mpr ⟨observed, whole⟩)
    refine ⟨followed.quiet, rfl, nofun, ?_⟩
    intro before after same
    rw [finishAnalysis_transactions, followed.assembler, assembledSoFar]
    have silent := followed.quiet before after same
    have handed : handedTo importing.parsing.moments = handedTo before := by
      have parts : handedTo importing.parsing.moments = handedTo before ++ handedTo after := by
        rw [same, handedTo, List.filterMap_append]
        rfl
      rw [parts, silent, List.append_nil]
    rw [handed]

/-- The header of an event that has no body. -/
def bareFrame : List UInt8 := List.replicate 9 0 ++ [19, 0, 0, 0] ++ List.replicate 6 0

def payloadEvent (payload : ByteStream) : Event Unit where
  timestamp := 0
  serverId := 1
  eventTypeRaw := 40
  checksumAlg := .ok none
  checksum := none
  calcChecksum := 0
  data := .ok (some (.transactionPayload 19 (.ok payload)))

/-- Every event of a file is a payload that holds one event and cannot be read behind it;
every event of a payload is again a payload with one event. -/
def brokenPayloads : MysqlCommon Unit Unit where
  newReader := ()
  read _ _ := (.event (payloadEvent ⟨bareFrame, some ⟨.other, "corrupted block"⟩⟩), ())
  readDecompressed _ _ := (.event (payloadEvent ⟨bareFrame, none⟩), ())
  decodeRowsEvent _ _ _ :=
    ({ database := "", table := "", operation := .insert, rowCount := 0, columns := [], rows := [], tableConfidence := .unknown,
       sql := none }, [])
  timestampFromSeconds _ := "1970-01-01T00:00:00Z"
  invalidFileHeader := ⟨.other, "invalid header"⟩

/-- One event, with the token cancelled when it is asked inside the inner payload. -/
def cancelledInside : ImportSource where
  openFile _ := .ok ⟨magic ++ bareFrame, none⟩
  streamPosition _ _ := none
  cancelAfter := some 3

/-- An import that is cancelled inside a nested payload can be reported as failed. -/
theorem cancellation_reported_failed :
    ¬∀ (mysql : MysqlCommon Unit Unit) (source : ImportSource) (analysisId : Uuid) (files : List BinlogFileSummary)
      (startedAt endedAt : String),
      Observed (importFiles mysql source analysisId files).2.parsing.moments →
        ReportedCanceled analysisId (importFiles mysql source analysisId files).2.parsing.moments
          (analyzeFiles mysql source analysisId files startedAt endedAt) := by
  intro reports
  have observed : Observed (importFiles brokenPayloads cancelledInside ⟨"run"⟩ [⟨"mysql-bin.000001", 23⟩]).2.parsing.moments := by
    decide +kernel
  have canceled := (reports brokenPayloads cancelledInside ⟨"run"⟩ [⟨"mysql-bin.000001", 23⟩] "" "" observed).terminal
  have failed : (importFiles brokenPayloads cancelledInside ⟨"run"⟩ [⟨"mysql-bin.000001", 23⟩]).1 ≠ .canceled := by
    decide +kernel
  exact failed canceled

end Outcome

end Pipa.BinlogParser
