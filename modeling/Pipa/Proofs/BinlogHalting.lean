import Pipa.Proofs.BinlogFraming
import Pipa.Proofs.BinlogMoments

/-! How a binlog import comes to its outcome. It is canceled exactly if the token was
seen to be cancelled and no payload failed to be read on afterwards; all parts of the import
take the steps of the parser and no others. -/

namespace Pipa.BinlogParser

section Files
variable {Reader Rows : Type} {mysql : MysqlCommon Reader Rows} {source : ImportSource} {totalBytes fileCount : Nat}
  {start mid finish : Importing Reader}

/-- The events counted ahead of the frames that were taken and processed. -/
def Counts (start finish : Importing Reader) (ahead : Nat) : Prop :=
  finish.parsing.state.eventCount + start.parsing.state.decompressedPayloadEvents + start.processed.length ≤
    start.parsing.state.eventCount + finish.parsing.state.decompressedPayloadEvents + finish.processed.length + ahead

/-- The import went on up to here. -/
structure Continues (mysql : MysqlCommon Reader Rows) (source : ImportSource) (start finish : Importing Reader) : Prop where
  reaches : Reaches mysql source.cancelAfter start.parsing finish.parsing
  depth : finish.parsing.state.transactionPayloadDepth = start.parsing.state.transactionPayloadDepth
  whole : ¬Broken finish.parsing.moments
  counted : Counts start finish 0

/-- The import, or its part, came to this outcome. -/
structure Halts (mysql : MysqlCommon Reader Rows) (source : ImportSource) (start : Importing Reader)
    (outcome : Option BinlogImportTerminal) (finish : Importing Reader) : Prop where
  reaches : Reaches mysql source.cancelAfter start.parsing finish.parsing
  depth : finish.parsing.state.transactionPayloadDepth = start.parsing.state.transactionPayloadDepth
  canceled : outcome = some .canceled ↔ Observed finish.parsing.moments ∧ ¬Broken finish.parsing.moments
  broken : Broken finish.parsing.moments → ∃ failure, outcome = some (.failed failure)
  severe : ∀ failure, outcome = some (.failed failure) → failure.diagnostic.severity = .error
  counted : Counts start finish (if outcome.isSome then 1 else 0)

theorem Continues.behind {outcome : Option BinlogImportTerminal} (continues : Continues mysql source start mid)
    (halts : Halts mysql source mid outcome finish) : Halts mysql source start outcome finish := by
  refine ⟨continues.reaches.trans halts.reaches, halts.depth.trans continues.depth, halts.canceled, halts.broken, halts.severe, ?_⟩
  have earlier := continues.counted
  have later := halts.counted
  unfold Counts at earlier later ⊢
  omega

theorem Continues.after (earlier : Continues mysql source start mid) (later : Continues mysql source mid finish) :
    Continues mysql source start finish := by
  refine ⟨earlier.reaches.trans later.reaches, later.depth.trans earlier.depth, later.whole, ?_⟩
  have counted := earlier.counted
  have counted' := later.counted
  unfold Counts at counted counted' ⊢
  omega

/-- A part that came to no outcome found the token free, so the import goes on. -/
theorem Halts.continues (halts : Halts mysql source start none finish) : Continues mysql source start finish := by
  refine ⟨halts.reaches, halts.depth, fun broken => ?_, halts.counted⟩
  obtain ⟨failure, same⟩ := halts.broken broken
  cases same

theorem Halts.ungranted (halts : Halts mysql source start none finish) : ¬Observed finish.parsing.moments := by
  intro observed
  have canceled := halts.canceled.mpr ⟨observed, halts.continues.whole⟩
  cases canceled

/-- An outcome that the token had no part in. -/
theorem Halts.free {outcome : Option BinlogImportTerminal} (reaches : Reaches mysql source.cancelAfter start.parsing finish.parsing)
    (depth : finish.parsing.state.transactionPayloadDepth = start.parsing.state.transactionPayloadDepth)
    (free : ¬Observed finish.parsing.moments) (other : outcome ≠ some .canceled)
    (severe : ∀ failure, outcome = some (.failed failure) → failure.diagnostic.severity = .error) (counted : Counts start finish 0) :
    Halts mysql source start outcome finish := by
  refine ⟨reaches, depth, iff_of_false other (fun both => free both.1), fun broken => absurd broken.observed free, severe, ?_⟩
  exact Nat.le_trans counted (Nat.add_le_add_left (Nat.zero_le _) _)

theorem advance_parsing (index : Nat) (currentFile : String) (startPosition : Nat) (frame : List UInt8) :
    (start.advance totalBytes fileCount index currentFile startPosition frame).parsing = start.parsing := by
  rw [Importing.advance]
  dsimp only
  split <;> rfl

theorem processFrame_processed {start : Parsing Reader} (currentFile : String) (startPosition : Nat) (frame : List UInt8)
    (free : ¬Observed start.moments) (timed : Timed source.cancelAfter start) :
    Outcomes.Ends (processFrame mysql source currentFile startPosition frame) start (Processed mysql source.cancelAfter 1 start) :=
  decoded_processed (fun event _ free timed => processEvent_processed _ event _ free timed) frame false currentFile startPosition
    free timed

/-- The token was asked and is cancelled. -/
theorem check_halts (whole : ¬Broken start.parsing.moments) (cancelled : (start.check source).1 = true) :
    Halts mysql source start (some .canceled) (start.check source).2 := by
  have observed : Observed (start.check source).2.parsing.moments := observed_concat.mpr (.inr (congrArg Moment.asked cancelled))
  have whole : ¬Broken (start.check source).2.parsing.moments := by
    intro broken
    exact (broken_concat.mp broken).elim whole fun both => nomatch both.2
  exact ⟨.single .asked, rfl, iff_of_true rfl ⟨observed, whole⟩, fun broken => absurd broken whole, nofun, Nat.le_add_right _ _⟩

/-- The token was asked and is not cancelled. -/
theorem check_continues (timed : Timed source.cancelAfter start.parsing) (granted : (start.check source).1 = false) :
    Continues mysql source start (start.check source).2 ∧ ¬Observed (start.check source).2.parsing.moments := by
  have free := timed.free granted
  exact ⟨⟨.single .asked, rfl, fun broken => free broken.observed, Nat.le_refl _⟩, free⟩

theorem steady_processFrame (currentFile : String) (startPosition : Nat) (frame : List UInt8) :
    Steady (processFrame mysql source currentFile startPosition frame) :=
  steady_bind (steady_parseEventFrame _ _ _ _) fun _ =>
    steady_bind (steady_counted _) fun _ => steady_processEvent _ _ _

theorem readFileHeader_severe (input : ByteStream) (name : String) : Severe (readFileHeader mysql input name) := by
  rw [readFileHeader]
  dsimp only
  split
  · split
    · exact severe_ok _
    · exact severe_error rfl
  · split
    · exact severe_error rfl
    · exact severe_error rfl

section Events
variable {index : Nat} {file : BinlogFileSummary} {input rest : ByteStream} {position position' : Nat}
  {outcome : Option BinlogImportTerminal}

/-- A frame was processed, or its processing failed. -/
theorem frame_continues (free : ¬Observed start.parsing.moments) (timed : Timed source.cancelAfter start.parsing)
    {currentFile : String} {frame : List UInt8} {parsing : Parsing Reader}
    (passed : (processFrame mysql source currentFile position frame).run start.parsing = (.ok (), parsing)) :
    Continues mysql source start ({ start with parsing }.advance totalBytes fileCount index currentFile position frame) := by
  have processed : Outcomes.Ends (processFrame mysql source currentFile position frame) start.parsing _ :=
    processFrame_processed currentFile position frame free timed
  have steady : Outcomes.Ends (processFrame mysql source currentFile position frame) start.parsing _ :=
    steady_processFrame currentFile position frame start.parsing
  rw [Outcomes.Ends, passed] at processed steady
  refine ⟨?_, ?_, ?_, ?_⟩
  · rw [advance_parsing]
    exact processed.reaches
  · rw [advance_parsing]
    exact steady.1
  · rw [advance_parsing]
    exact processed.whole
  · rw [Counts, advance_parsing, advance_processed, List.length_append]
    have counted := processed.counted
    simp only [List.length_singleton] at *
    omega

theorem frame_halts (free : ¬Observed start.parsing.moments) (timed : Timed source.cancelAfter start.parsing)
    {currentFile : String} {frame : List UInt8} {parsing : Parsing Reader} {failure : BinlogImportFailure}
    (failed : (processFrame mysql source currentFile position frame).run start.parsing = (.error failure, parsing)) :
    Halts mysql source start (some (.failed failure)) { start with parsing } := by
  have processed : Outcomes.Ends (processFrame mysql source currentFile position frame) start.parsing _ :=
    processFrame_processed currentFile position frame free timed
  have steady : Outcomes.Ends (processFrame mysql source currentFile position frame) start.parsing _ :=
    steady_processFrame currentFile position frame start.parsing
  rw [Outcomes.Ends, failed] at processed steady
  refine ⟨processed.reaches, steady.1, iff_of_false (fun same => by cases same) ?_, fun _ => ⟨failure, rfl⟩, ?_, ?_⟩
  · intro free'
    exact free'.2 ((processed.ended free'.1).mp fun same => by cases same)
  · intro other same
    obtain rfl := BinlogImportTerminal.failed.inj (Option.some.inj same)
    exact steady.2 failure rfl
  · have counted : parsing.state.eventCount + start.parsing.state.decompressedPayloadEvents ≤
        start.parsing.state.eventCount + parsing.state.decompressedPayloadEvents + 1 := processed.counted
    change parsing.state.eventCount + start.parsing.state.decompressedPayloadEvents + start.processed.length ≤
      start.parsing.state.eventCount + parsing.state.decompressedPayloadEvents + start.processed.length + 1
    omega

/-- One iteration of the event loop ends it, or goes on. -/
theorem readEvent_halts (whole : ¬Broken start.parsing.moments) (timed : Timed source.cancelAfter start.parsing)
    (ended : readEvent mysql source totalBytes fileCount index file input position start = .ended outcome finish) :
    Halts mysql source start outcome finish := by
  have halts : (start.check source).1 = true → Halts mysql source start (some .canceled) (start.check source).2 :=
    check_halts whole
  have continues : (start.check source).1 = false → Continues mysql source start (start.check source).2 ∧
      ¬Observed (start.check source).2.parsing.moments := check_continues timed
  rw [readEvent] at ended
  generalize start.check source = check at ended halts continues
  obtain ⟨cancelled, asked⟩ := check
  cases cancelled with
  | true =>
    obtain ⟨rfl, rfl⟩ := Iteration.ended.inj ended
    exact halts rfl
  | false =>
    obtain ⟨continues, free⟩ := continues rfl
    have timed := continues.reaches.timed timed
    refine continues.behind ?_
    dsimp only at ended free timed
    have refused {failure : BinlogImportFailure} (severe : failure.diagnostic.severity = .error) :
        Halts mysql source asked (some (.failed failure)) asked := by
      refine .free .refl rfl free (fun same => by cases same) ?_ (Nat.le_refl _)
      intro other same
      rw [← BinlogImportTerminal.failed.inj (Option.some.inj same)]
      exact severe
    split at ended
    · obtain ⟨rfl, rfl⟩ := Iteration.ended.inj ended
      exact refused rfl
    · split at ended
      next failure framing =>
        obtain ⟨rfl, rfl⟩ := Iteration.ended.inj ended
        exact refused (readEventFrame_severe _ _ _ _ _ failure framing)
      · obtain ⟨rfl, rfl⟩ := Iteration.ended.inj ended
        exact .free .refl rfl free (fun same => by cases same) (fun _ same => by cases same) (Nat.le_refl _)
      · split at ended
        next failed =>
          obtain ⟨rfl, rfl⟩ := Iteration.ended.inj ended
          exact frame_halts free timed failed
        · cases ended

theorem readEvent_passed {asked : Importing Reader} {frame : List UInt8} {parsing : Parsing Reader}
    (checked : start.check source = (false, asked)) (placed : source.streamPosition index position = none)
    (framing : readEventFrame input (some file.sizeBytes) (fileName file.path) position maxEventSizeBytes = .ok (some (frame, rest)))
    (passed : (processFrame mysql source (fileName file.path) position frame).run asked.parsing = (.ok (), parsing)) :
    readEvent mysql source totalBytes fileCount index file input position start =
      .next rest (position + frame.length)
        ({ asked with parsing }.advance totalBytes fileCount index (fileName file.path) position frame) := by
  rw [readEvent, checked]
  dsimp only
  rw [placed]
  dsimp only
  rw [framing]
  dsimp only
  rw [passed]

theorem readEvent_continues (timed : Timed source.cancelAfter start.parsing)
    (next : readEvent mysql source totalBytes fileCount index file input position start = .next rest position' finish) :
    Continues mysql source start finish := by
  have continues : (start.check source).1 = false → Continues mysql source start (start.check source).2 ∧
      ¬Observed (start.check source).2.parsing.moments := check_continues timed
  rw [readEvent] at next
  generalize start.check source = check at next continues
  obtain ⟨cancelled, asked⟩ := check
  cases cancelled with
  | true => cases next
  | false =>
    obtain ⟨continues, free⟩ := continues rfl
    have timed := continues.reaches.timed timed
    dsimp only at next free timed
    split at next
    · cases next
    · split at next
      · cases next
      · cases next
      · split at next
        · cases next
        next passed =>
          obtain ⟨-, -, rfl⟩ := Iteration.next.inj next
          exact continues.after (frame_continues free timed passed)

theorem readEvents_halts (whole : ¬Broken start.parsing.moments) (timed : Timed source.cancelAfter start.parsing) :
    Halts mysql source start (readEvents mysql source totalBytes fileCount index file input position start).1
      (readEvents mysql source totalBytes fileCount index file input position start).2 := by
  induction input, position, start using readEvents.induct mysql source totalBytes fileCount index file with
  | case1 input position start outcome finish iteration =>
    rw [readEvents, iteration]
    exact readEvent_halts whole timed iteration
  | case2 input position start rest position' next iteration ih =>
    rw [readEvents, iteration]
    have continues := readEvent_continues timed iteration
    exact continues.behind (ih continues.whole (continues.reaches.timed timed))

theorem readFile_halts (whole : ¬Broken start.parsing.moments) (timed : Timed source.cancelAfter start.parsing) :
    Halts mysql source start (readFile mysql source totalBytes fileCount index file start).1
      (readFile mysql source totalBytes fileCount index file start).2 := by
  have halts : (start.check source).1 = true → Halts mysql source start (some .canceled) (start.check source).2 :=
    check_halts whole
  have continues : (start.check source).1 = false → Continues mysql source start (start.check source).2 ∧
      ¬Observed (start.check source).2.parsing.moments := check_continues timed
  rw [readFile]
  generalize start.check source = check at halts continues
  obtain ⟨cancelled, asked⟩ := check
  cases cancelled with
  | true => exact halts rfl
  | false =>
    obtain ⟨continues, free⟩ := continues rfl
    have timed := continues.reaches.timed timed
    refine continues.behind ?_
    dsimp only at free timed ⊢
    have refused {failure : BinlogImportFailure} (severe : failure.diagnostic.severity = .error) :
        Halts mysql source asked (some (.failed failure)) asked := by
      refine .free .refl rfl free (fun same => by cases same) ?_ (Nat.le_refl _)
      intro other same
      rw [← BinlogImportTerminal.failed.inj (Option.some.inj same)]
      exact severe
    split
    · exact refused rfl
    · split
      next failure header => exact refused (readFileHeader_severe _ _ failure header)
      next events header =>
        have opens : Continues mysql source asked { asked with parsing := { asked.parsing with reader := mysql.newReader } } :=
          ⟨.single (.read free mysql.newReader), rfl, fun broken => free broken.observed, Nat.le_refl _⟩
        exact opens.behind (readEvents_halts opens.whole (opens.reaches.timed timed))

end Events

/-- The loop over the files comes to its outcome as one part does. -/
theorem readFiles_halts (index : Nat) (files : List BinlogFileSummary) (free : ¬Observed start.parsing.moments)
    (timed : Timed source.cancelAfter start.parsing) :
    Halts mysql source start (some (readFiles mysql source totalBytes fileCount index files start).1)
      (readFiles mysql source totalBytes fileCount index files start).2 := by
  induction files generalizing index start with
  | nil => exact .free .refl rfl free (fun same => by cases same) (fun _ same => by cases same) (Nat.le_refl _)
  | cons file files ih =>
    have halts : Halts mysql source start (readFile mysql source totalBytes fileCount index file start).1
        (readFile mysql source totalBytes fileCount index file start).2 :=
      readFile_halts (fun broken => free broken.observed) timed
    rw [readFiles]
    generalize readFile mysql source totalBytes fileCount index file start = read at halts ⊢
    obtain ⟨outcome, after⟩ := read
    cases outcome with
    | some terminal => exact halts
    | none =>
      have continues : Continues mysql source start after := halts.continues
      have completes : Continues mysql source after (after.completeFile totalBytes fileCount file) :=
        ⟨.refl, rfl, continues.whole, Nat.le_refl _⟩
      exact (continues.after completes).behind (ih (index + 1) halts.ungranted (continues.reaches.timed timed))

variable (mysql source) in
/-- An import from its beginning to its outcome. -/
theorem importFiles_halts (analysisId : Uuid) (files : List BinlogFileSummary) :
    Halts mysql source (.start mysql analysisId) (some (importFiles mysql source analysisId files).1)
      (importFiles mysql source analysisId files).2 :=
  readFiles_halts 0 files List.not_mem_nil fun observed => absurd observed List.not_mem_nil

end Files

end Pipa.BinlogParser
