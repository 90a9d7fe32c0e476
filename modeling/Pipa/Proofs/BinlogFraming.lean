import Pipa.BinlogParser

/-! The frames that a binlog import processes begin the files they came from, one
after the other, and end where the import stopped reading. What one iteration of the
event loop does is carried through the loop by one rule. -/

namespace Pipa.BinlogParser

/-- The failures of an event frame that the format does not allow. -/
def framingCodes : List String :=
  ["truncated_event_header", "invalid_event_size", "event_too_large", "truncated_event_body"]

/-- A failure that says where in which file it happened. -/
structure Located (path : String) (position : Nat) (failure : BinlogImportFailure) : Prop where
  fileName : failure.diagnostic.fileName = some (fileName path)
  position : failure.diagnostic.position = some position
  code : failure.code ∈ framingCodes

/-- No frame begins these bytes: the next one is cut short, too long, or shorter than a header. -/
def Unframed (left : List UInt8) : Prop :=
  ∀ frame, frame <+: left → Framed frame → maxEventSizeBytes < frame.length

/-- Frames without gap or overlap, the first at the given position. -/
def Consecutive : Nat → List ProcessedFrame → Prop
  | _, [] => True
  | position, frame :: frames => frame.startPosition = position ∧ Consecutive (position + frame.bytes.length) frames

/-- The bytes of the frames, one after the other. -/
def frameBytes (frames : List ProcessedFrame) : List UInt8 := frames.flatMap (·.bytes)

/-- The frames of one file among those that were processed. -/
def framesOf (processed : List ProcessedFrame) (index : Nat) : List ProcessedFrame :=
  processed.filter (·.file = index)

theorem framesOf_append (processed others : List ProcessedFrame) (index : Nat) :
    framesOf (processed ++ others) index = framesOf processed index ++ framesOf others index :=
  List.filter_append ..

theorem framesOf_same {processed : List ProcessedFrame} {index : Nat} (same : ∀ frame ∈ processed, frame.file = index) :
    framesOf processed index = processed :=
  List.filter_eq_self.mpr fun frame member => decide_eq_true (same frame member)

theorem framesOf_other {processed : List ProcessedFrame} {index : Nat} (other : ∀ frame ∈ processed, frame.file ≠ index) :
    framesOf processed index = [] :=
  List.filter_eq_nil_iff.mpr fun frame member => by simpa using other frame member

theorem framed_length {frames : List ProcessedFrame} (framed : ∀ frame ∈ frames, Framed frame.bytes) :
    eventHeaderLength * frames.length ≤ (frameBytes frames).length := by
  induction frames with
  | nil => exact Nat.zero_le _
  | cons frame frames ih =>
    have here := (framed frame List.mem_cons_self).header
    have later := ih fun frame member => framed frame (List.mem_cons_of_mem _ member)
    simp only [frameBytes, List.flatMap_cons, List.length_append, List.length_cons, Nat.mul_succ]
    unfold frameBytes at later
    omega

section Frames
variable {input : ByteStream} {size position : Nat} {name : String} {failure : BinlogImportFailure}

theorem readEventFrame_none {fileSize : Option Nat} {maxEventSize : Nat}
    (nothing : readEventFrame input fileSize name position maxEventSize = .ok none) : input.bytes = [] ∧ input.failure = none := by
  obtain ⟨bytes, fault⟩ := input
  cases bytes with
  | nil =>
    cases fault with
    | none => exact ⟨rfl, rfl⟩
    | some error => cases nothing
  | cons byte bytes =>
    simp only [readEventFrame, ByteStream.hasDataLeft, List.isEmpty_cons, Bool.false_eq_true, if_false] at nothing
    split at nothing
    · cases nothing
    split at nothing
    · cases nothing
    split at nothing
    · cases nothing
    split at nothing
    · split at nothing <;> cases nothing
    split at nothing
    · cases nothing
    split at nothing <;> cases nothing

/-- Where the system does not fail, only a frame that is not one is refused, and it is located. -/
theorem readEventFrame_error {path : String} (sound : input.failure = none)
    (refused : readEventFrame input (some size) (fileName path) position maxEventSizeBytes = .error failure) :
    input.bytes ≠ [] ∧ Located path position failure := by
  have listed {code : String} (member : code ∈ framingCodes) (message : String) (details : Option String) (retryable : Bool) :
      Located path position (BinlogParser.failure code message details (some (fileName path)) (some position) retryable) :=
    ⟨rfl, rfl, member⟩
  obtain ⟨bytes, fault⟩ := input
  obtain rfl : fault = none := sound
  cases bytes with
  | nil => cases refused
  | cons byte bytes =>
    refine ⟨List.cons_ne_nil _ _, ?_⟩
    simp only [readEventFrame, ByteStream.hasDataLeft, List.isEmpty_cons, Bool.false_eq_true, if_false] at refused
    split at refused
    · cases refused
      exact listed (by simp [framingCodes]) ..
    split at refused
    · cases refused
      exact listed (by simp [framingCodes]) ..
    split at refused
    · cases refused
      exact listed (by simp [framingCodes]) ..
    split at refused
    · rw [if_neg (Nat.lt_irrefl _)] at refused
      cases refused
      exact listed (by simp [framingCodes]) ..
    split at refused
    · cases refused
      exact listed (by simp [framingCodes]) ..
    split at refused
    · cases refused
      exact listed (by simp [framingCodes]) ..
    · cases refused

end Frames

section Loop
variable (mysql : MysqlCommon Reader Rows) (source : ImportSource) (totalBytes fileCount : Nat) (index : Nat)
  (file : BinlogFileSummary)

/-- The rule of the event loop: what holds where an iteration ends it, and is passed
back from the rest of the loop to an iteration that goes on, holds of the loop. -/
theorem readEvents_rule {motive : ByteStream → Nat → Importing Reader → Option BinlogImportTerminal × Importing Reader → Prop}
    (ended : ∀ (input : ByteStream) (position : Nat) (importing : Importing Reader) (outcome : Option BinlogImportTerminal)
      (after : Importing Reader),
      Iterates source totalBytes fileCount index file input position importing (.ended outcome after) →
      motive input position importing (outcome, after))
    (next : ∀ (input rest : ByteStream) (position : Nat) (importing : Importing Reader) (parsing : Parsing Reader)
      (frame : List UInt8) (result : Option BinlogImportTerminal × Importing Reader),
      FrameRead input (some file.sizeBytes) position maxEventSizeBytes frame rest →
      motive rest (position + frame.length)
        ({ importing with parsing }.advance totalBytes fileCount index (fileName file.path) position frame) result →
      motive input position importing result)
    (input : ByteStream) (position : Nat) (importing : Importing Reader) :
    motive input position importing (readEvents mysql source totalBytes fileCount index file input position importing) := by
  induction input, position, importing using readEvents.induct mysql source totalBytes fileCount index file with
  | case1 input position importing outcome after iteration =>
    have iterates := readEvent_iterates mysql source totalBytes fileCount index file input position importing
    rw [iteration] at iterates
    rw [readEvents, iteration]
    exact ended input position importing outcome after iterates
  | case2 input position importing rest position' importing' iteration ih =>
    have iterates := readEvent_iterates mysql source totalBytes fileCount index file input position importing
    rw [iteration] at iterates
    rw [readEvents, iteration]
    cases iterates with
    | next parsing frame _ read => exact next input rest position importing parsing frame _ read ih

/-- The loop over one file: the frames it processed begin the input, and the iteration
that ended it found what is left. -/
structure EventsRead (input : ByteStream) (position : Nat) (outcome : Option BinlogImportTerminal)
    (frames : List ProcessedFrame) (rest : ByteStream) : Prop where
  whole : input.bytes = frameBytes frames ++ rest.bytes
  failure : rest.failure = input.failure
  each : ∀ frame ∈ frames, frame.file = index ∧ Framed frame.bytes
  consecutive : Consecutive position frames
  exit : ∃ before after : Importing Reader,
    Iterates source totalBytes fileCount index file rest (position + (frameBytes frames).length) before (.ended outcome after)

theorem advance_processed (importing : Importing Reader) (parsing : Parsing Reader) (currentFile : String) (position : Nat)
    (frame : List UInt8) :
    ({ importing with parsing }.advance totalBytes fileCount index currentFile position frame).processed =
      importing.processed ++ [⟨index, position, frame⟩] := by
  simp only [Importing.advance]
  split <;> rfl

theorem readEvents_frames (input : ByteStream) (position : Nat) (importing : Importing Reader) :
    ∃ frames rest, (readEvents mysql source totalBytes fileCount index file input position importing).2.processed =
        importing.processed ++ frames ∧
      @EventsRead Reader source totalBytes fileCount index file input position
        (readEvents mysql source totalBytes fileCount index file input position importing).1 frames rest := by
  refine readEvents_rule mysql source totalBytes fileCount index file
    (motive := fun input position importing result => ∃ frames rest, result.2.processed = importing.processed ++ frames ∧
      @EventsRead Reader source totalBytes fileCount index file input position result.1 frames rest)
    ?_ ?_ input position importing
  · intro input position importing outcome after iterates
    refine ⟨[], input, ?_, rfl, rfl, by simp, trivial, importing, after, iterates⟩
    cases iterates <;> exact (List.append_nil _).symm
  · intro input rest position importing parsing frame result read ⟨frames, tail, processed, later⟩
    rw [advance_processed, List.append_assoc] at processed
    refine ⟨⟨index, position, frame⟩ :: frames, tail, processed, ?_, later.failure.trans read.failure, ?_,
      ⟨rfl, later.consecutive⟩, ?_⟩
    · rw [read.split, later.whole, frameBytes, frameBytes, List.flatMap_cons, List.append_assoc]
    · exact List.forall_mem_cons.mpr ⟨⟨rfl, read.framed⟩, later.each⟩
    · simpa only [frameBytes, List.flatMap_cons, List.length_append, Nat.add_assoc] using later.exit

end Loop

/-- A file whose content is read as it is, without a failure of the system. -/
structure Readable (source : ImportSource) (index : Nat) (content : List UInt8) : Prop where
  opened : source.openFile index = .ok ⟨content, none⟩
  placed : ∀ position, source.streamPosition index position = none

/-- A file whose content does not change; reading it may fail on the way. -/
def Opened (source : ImportSource) (index : Nat) (content : List UInt8) : Prop :=
  ∀ input, source.openFile index = .ok input → input.bytes <+: content ∧ (input.failure = none → input.bytes = content)

section Ending
variable {source : ImportSource} {totalBytes fileCount index position : Nat} {file : BinlogFileSummary} {input : ByteStream}
  {before after : Importing Reader}

theorem ended_cleanly
    (iterates : Iterates source totalBytes fileCount index file input position before (.ended none after)) :
    input.bytes = [] ∧ input.failure = none := by
  cases iterates with
  | finished _ nothing => exact readEventFrame_none nothing

theorem ended_early {terminal : BinlogImportTerminal}
    (iterates : Iterates source totalBytes fileCount index file input position before (.ended (some terminal) after)) :
    terminal ≠ .completed := by
  cases iterates <;> exact fun same => by cases same

/-- Where the system does not fail and no frame is left, the import was cancelled or
the failure is located where reading stopped. -/
theorem ended_unframed {terminal : BinlogImportTerminal} (unframed : Unframed input.bytes) (sound : input.failure = none)
    (placed : ∀ position, source.streamPosition index position = none)
    (iterates : Iterates source totalBytes fileCount index file input position before (.ended (some terminal) after)) :
    terminal = .canceled ∨ input.bytes ≠ [] ∧ ∃ failure, terminal = .failed failure ∧ Located file.path position failure := by
  cases iterates with
  | canceled _ => exact Or.inl rfl
  | unplaced _ failure error fault =>
    rw [placed] at fault
    cases fault
  | misframed _ failure refused =>
    obtain ⟨more, located⟩ := readEventFrame_error sound refused
    exact Or.inr ⟨more, failure, rfl, located⟩
  | undecoded _ failure frame rest read =>
    have long := unframed frame (read.split ▸ List.prefix_append ..) read.framed
    exact absurd read.small (Nat.not_le.mpr long)

end Ending

section Header
variable (mysql : MysqlCommon Reader Rows)

theorem readFileHeader_ok {input rest : ByteStream} {name : String} (valid : readFileHeader mysql input name = .ok rest) :
    input.bytes = magic ++ rest.bytes ∧ rest.failure = input.failure := by
  simp only [readFileHeader] at valid
  split at valid
  case h_1 header tail read =>
    obtain ⟨split, _, same⟩ := readExact_ok read
    split at valid
    case isTrue isMagic =>
      obtain rfl := Except.ok.inj valid
      exact ⟨isMagic ▸ split, same⟩
    case isFalse => cases valid
  case h_2 => cases valid

theorem readFileHeader_magic (left : List UInt8) (failure : Option IoError) (name : String) :
    readFileHeader mysql ⟨magic ++ left, failure⟩ name = .ok ⟨left, failure⟩ := by
  have long : 4 ≤ (magic ++ left).length := by simp [magic]
  simp only [readFileHeader, ByteStream.readExact, if_pos long]
  exact if_pos rfl

end Header

section Files
variable (mysql : MysqlCommon Reader Rows) (source : ImportSource) (totalBytes fileCount : Nat)

/-- What reading one file comes to: it stops before the events, or reads them. -/
inductive Reads (index : Nat) (file : BinlogFileSummary) (importing : Importing Reader) :
    Option BinlogImportTerminal × Importing Reader → Prop
  | canceled (parsing : Parsing Reader) : Reads index file importing (some .canceled, { importing with parsing })
  | unopened (parsing : Parsing Reader) (failure : BinlogImportFailure) (error : IoError)
      (fault : source.openFile index = .error error) :
      Reads index file importing (some (.failed failure), { importing with parsing })
  | headless (parsing : Parsing Reader) (failure : BinlogImportFailure) (input : ByteStream)
      (found : source.openFile index = .ok input) (refused : readFileHeader mysql input (fileName file.path) = .error failure) :
      Reads index file importing (some (.failed failure), { importing with parsing })
  | events (parsing : Parsing Reader) (input events : ByteStream) (found : source.openFile index = .ok input)
      (header : readFileHeader mysql input (fileName file.path) = .ok events) :
      Reads index file importing
        (readEvents mysql source totalBytes fileCount index file events magic.length { importing with parsing })

theorem readFile_reads (index : Nat) (file : BinlogFileSummary) (importing : Importing Reader) :
    Reads mysql source totalBytes fileCount index file importing
      (readFile mysql source totalBytes fileCount index file importing) := by
  simp only [readFile, Importing.check]
  obtain ⟨cancelled, asked⟩ := importing.parsing.ask source.cancelAfter
  cases cancelled with
  | true => exact .canceled _
  | false =>
  cases found : source.openFile index with
  | error error => exact .unopened _ _ error found
  | ok input =>
  dsimp only
  cases header : readFileHeader mysql input (fileName file.path) with
  | error failure => exact .headless _ failure input found header
  | ok events => exact .events _ input events found header

theorem readFile_early {index : Nat} {file : BinlogFileSummary} {importing after : Importing Reader} {terminal : BinlogImportTerminal}
    (stopped : readFile mysql source totalBytes fileCount index file importing = (some terminal, after)) :
    terminal ≠ .completed := by
  have reads := readFile_reads mysql source totalBytes fileCount index file importing
  rw [stopped] at reads
  rintro rfl
  generalize ended : (some BinlogImportTerminal.completed, after) = result at reads
  cases reads with
  | canceled | unopened | headless => cases ended
  | events parsing input events =>
    obtain ⟨_, _, _, read⟩ := readEvents_frames mysql source totalBytes fileCount index file events magic.length
      { importing with parsing }
    obtain ⟨before, after', exit⟩ := read.exit
    rw [← ended] at exit
    exact ended_early exit rfl

/-- One file: the frames it gave begin its content, and are all of it where it ended cleanly. -/
structure FileRead (index : Nat) (path : String) (content : List UInt8) (frames : List ProcessedFrame)
    (outcome : Option BinlogImportTerminal) : Prop where
  each : ∀ frame ∈ frames, frame.file = index ∧ Framed frame.bytes
  consecutive : Consecutive magic.length frames
  begins : frames = [] ∨ magic ++ frameBytes frames <+: content
  clean : outcome = none → content = magic ++ frameBytes frames
  located : ∀ left terminal, Readable source index content → content = magic ++ frameBytes frames ++ left → Unframed left →
    outcome = some terminal → terminal = .canceled ∨
      left ≠ [] ∧ ∃ failure, terminal = .failed failure ∧ Located path (magic.length + (frameBytes frames).length) failure

/-- A file that was left before its events gives no frames. -/
theorem FileRead.unread {index : Nat} {path : String} {content : List UInt8} {terminal : BinlogImportTerminal}
    (cause : terminal = .canceled ∨ ¬ Readable source index content ∨ ∀ left, content ≠ magic ++ left) :
    FileRead source index path content [] (some terminal) where
  each := by simp
  consecutive := trivial
  begins := Or.inl rfl
  clean := fun none => by cases none
  located := by
    intro left terminal readable whole _ same
    obtain rfl := Option.some.inj same
    rcases cause with canceled | fault | other
    · exact Or.inl canceled
    · exact absurd readable fault
    · exact absurd whole (other left)

theorem readFile_frames (index : Nat) (file : BinlogFileSummary) (importing : Importing Reader) (content : List UInt8)
    (opened : Opened source index content) :
    ∃ frames, (readFile mysql source totalBytes fileCount index file importing).2.processed = importing.processed ++ frames ∧
      FileRead source index file.path content frames (readFile mysql source totalBytes fileCount index file importing).1 := by
  have unread {terminal : BinlogImportTerminal}
      (cause : terminal = .canceled ∨ ¬ Readable source index content ∨ ∀ left, content ≠ magic ++ left) (parsing : Parsing Reader) :
      ∃ frames, { importing with parsing }.processed = importing.processed ++ frames ∧
        FileRead source index file.path content frames (some terminal) :=
    ⟨[], (List.append_nil _).symm, .unread source cause⟩
  have reads := readFile_reads mysql source totalBytes fileCount index file importing
  generalize readFile mysql source totalBytes fileCount index file importing = result at reads ⊢
  cases reads with
  | canceled parsing => exact unread (Or.inl rfl) parsing
  | unopened parsing failure error fault =>
    refine unread (Or.inr (Or.inl fun readable => ?_)) parsing
    have contrary := fault.symm.trans readable.opened
    cases contrary
  | headless parsing failure input found refused =>
    refine unread ?_ parsing
    by_cases readable : Readable source index content
    · refine Or.inr (Or.inr fun left whole => ?_)
      obtain rfl := Except.ok.inj (found.symm.trans readable.opened)
      rw [whole, readFileHeader_magic] at refused
      cases refused
    · exact Or.inr (Or.inl readable)
  | events parsing input events found header =>
    obtain ⟨magical, sameFault⟩ := readFileHeader_ok mysql header
    obtain ⟨frames, rest, processed, read⟩ := readEvents_frames mysql source totalBytes fileCount index file events magic.length
      { importing with parsing }
    have split : input.bytes = magic ++ frameBytes frames ++ rest.bytes := by rw [magical, read.whole, List.append_assoc]
    have fault : rest.failure = input.failure := read.failure.trans sameFault
    obtain ⟨before, after, exit⟩ := read.exit
    refine ⟨frames, processed, read.each, read.consecutive, Or.inr ?_, ?_, ?_⟩
    · exact (List.prefix_append _ rest.bytes).trans (split ▸ (opened input found).1)
    · intro none
      rw [none] at exit
      obtain ⟨nothing, sound⟩ := ended_cleanly exit
      rw [← (opened input found).2 (fault ▸ sound), split, nothing, List.append_nil]
    · intro left terminal readable whole unframed stopped
      obtain rfl := Except.ok.inj (found.symm.trans readable.opened)
      obtain rfl : rest.bytes = left := List.append_cancel_left (split.symm.trans whole)
      rw [stopped] at exit
      exact ended_unframed unframed fault readable.placed exit

/-- The files from the given index on: each gave frames that begin its content, all of
it if the import completed, and the first that was not framed to its end says so. -/
structure FilesRead (index : Nat) (files : List BinlogFileSummary) (content : Nat → List UInt8)
    (frames : List ProcessedFrame) (terminal : BinlogImportTerminal) : Prop where
  each : ∀ frame ∈ frames, index ≤ frame.file ∧ frame.file < index + files.length ∧ Framed frame.bytes
  consecutive : ∀ later, Consecutive magic.length (framesOf frames later)
  begins : ∀ later, framesOf frames later = [] ∨ magic ++ frameBytes (framesOf frames later) <+: content later
  clean : terminal = .completed → ∀ offset < files.length,
    content (index + offset) = magic ++ frameBytes (framesOf frames (index + offset))
  located : ∀ offset file left, files[offset]? = some file →
    (∀ earlier ≤ offset, Readable source (index + earlier) (content (index + earlier))) →
    (∀ earlier < offset, content (index + earlier) = magic ++ frameBytes (framesOf frames (index + earlier))) →
    content (index + offset) = magic ++ frameBytes (framesOf frames (index + offset)) ++ left → left ≠ [] → Unframed left →
    terminal = .canceled ∨ ∃ failure, terminal = .failed failure ∧
      Located file.path (magic.length + (frameBytes (framesOf frames (index + offset))).length) failure

theorem unframed_nil : Unframed [] := by
  intro frame begins framed
  obtain rfl := List.prefix_nil.mp begins
  exact absurd framed.header (by decide)

section Cons
variable {source : ImportSource} {index : Nat} {file : BinlogFileSummary} {files : List BinlogFileSummary}
  {content : Nat → List UInt8} {frames more : List ProcessedFrame} {terminal : BinlogImportTerminal}

/-- A file that ended cleanly goes before the others. -/
theorem FilesRead.cons (read : FileRead source index file.path (content index) frames none)
    (later : FilesRead source (index + 1) files content more terminal) :
    FilesRead source index (file :: files) content (frames ++ more) terminal := by
  have shifted (offset : Nat) : index + 1 + offset = index + (offset + 1) := by omega
  have first : framesOf (frames ++ more) index = frames := by
    rw [framesOf_append, framesOf_same fun frame member => (read.each frame member).1, framesOf_other, List.append_nil]
    intro frame member same
    have here := (later.each frame member).1
    omega
  have rest {other : Nat} (different : other ≠ index) : framesOf (frames ++ more) other = framesOf more other := by
    rw [framesOf_append, framesOf_other, List.nil_append]
    exact fun frame member same => different (same.symm.trans (read.each frame member).1)
  have following (offset : Nat) : framesOf (frames ++ more) (index + (offset + 1)) = framesOf more (index + (offset + 1)) :=
    rest (by omega)
  constructor
  · intro frame member
    rw [List.length_cons]
    rcases List.mem_append.mp member with early | late
    · obtain ⟨same, framed⟩ := read.each frame early
      exact ⟨by omega, by omega, framed⟩
    · obtain ⟨above, below, framed⟩ := later.each frame late
      exact ⟨by omega, by omega, framed⟩
  · intro other
    by_cases same : other = index
    · exact same ▸ first.symm ▸ read.consecutive
    · exact rest same ▸ later.consecutive other
  · intro other
    by_cases same : other = index
    · exact same ▸ first.symm ▸ read.begins
    · exact rest same ▸ later.begins other
  · intro completed offset below
    cases offset with
    | zero => exact first.symm ▸ read.clean rfl
    | succ offset =>
      rw [following, ← shifted]
      exact later.clean completed offset (Nat.lt_of_succ_lt_succ below)
  · intro offset target left selected readable whole split remaining unframed
    cases offset with
    | zero =>
      rw [Nat.add_zero, first, read.clean rfl] at split
      exact absurd (List.self_eq_append_right.mp split) remaining
    | succ offset =>
      rw [following, ← shifted] at split ⊢
      refine later.located offset target left selected (fun earlier here => ?_) (fun earlier here => ?_) split remaining unframed
      · exact shifted earlier ▸ readable (earlier + 1) (Nat.succ_le_succ here)
      · rw [shifted, whole (earlier + 1) (Nat.succ_lt_succ here), following]

/-- A file that did not end cleanly is the last one that is read. -/
theorem FilesRead.stopped (early : terminal ≠ .completed) (read : FileRead source index file.path (content index) frames (some terminal)) :
    FilesRead source index (file :: files) content frames terminal := by
  have mine : framesOf frames index = frames := framesOf_same fun frame member => (read.each frame member).1
  have others {later : Nat} (other : later ≠ index) : framesOf frames later = [] :=
    framesOf_other fun frame member => (read.each frame member).1 ▸ other.symm
  constructor
  · intro frame member
    obtain ⟨same, framed⟩ := read.each frame member
    rw [List.length_cons]
    exact ⟨by omega, by omega, framed⟩
  · intro other
    by_cases same : other = index
    · exact same ▸ mine.symm ▸ read.consecutive
    · exact others same ▸ trivial
  · intro other
    by_cases same : other = index
    · exact same ▸ mine.symm ▸ read.begins
    · exact Or.inl (others same)
  · exact fun completed => absurd completed early
  · intro offset target left selected readable whole split remaining unframed
    cases offset with
    | zero =>
      obtain rfl := Option.some.inj selected
      rw [Nat.add_zero, mine] at split ⊢
      exact (read.located left terminal (readable 0 (Nat.le_refl _)) split unframed rfl).imp_right And.right
    | succ offset =>
      -- The file was read to its end, so only a cancellation stops the import here.
      have before := whole 0 (Nat.zero_lt_succ _)
      rw [Nat.add_zero, mine, ← List.append_nil (magic ++ _)] at before
      rcases read.located [] terminal (readable 0 (Nat.zero_le _)) before unframed_nil rfl with canceled | stuck
      · exact Or.inl canceled
      · exact absurd rfl stuck.1

end Cons

theorem readFiles_frames (content : Nat → List UInt8) (index : Nat) (files : List BinlogFileSummary)
    (opened : ∀ offset < files.length, Opened source (index + offset) (content (index + offset)))
    (importing : Importing Reader) :
    ∃ frames, (readFiles mysql source totalBytes fileCount index files importing).2.processed = importing.processed ++ frames ∧
      FilesRead source index files content frames (readFiles mysql source totalBytes fileCount index files importing).1 := by
  induction files generalizing index importing with
  | nil =>
    refine ⟨[], (List.append_nil _).symm, by simp, fun _ => trivial, fun _ => Or.inl rfl, ?_, by simp⟩
    intro _ offset below
    exact absurd below (Nat.not_lt_zero offset)
  | cons file files ih =>
    obtain ⟨frames, processed, read⟩ :=
      readFile_frames mysql source totalBytes fileCount index file importing (content index) (opened 0 (Nat.zero_lt_succ _))
    rw [readFiles]
    rcases outcome : readFile mysql source totalBytes fileCount index file importing with ⟨_ | terminal, next⟩
    all_goals rw [outcome] at read processed
    · obtain ⟨more, processed', later⟩ := ih (index + 1)
        (fun offset below => by
          rw [show index + 1 + offset = index + (offset + 1) by omega]
          exact opened (offset + 1) (Nat.succ_lt_succ below))
        (next.completeFile totalBytes fileCount file)
      refine ⟨frames ++ more, ?_, FilesRead.cons read later⟩
      exact processed'.trans ((congrArg (· ++ more) processed).trans (List.append_assoc ..))
    · exact ⟨frames, processed, FilesRead.stopped (readFile_early mysql source totalBytes fileCount outcome) read⟩

end Files

end Pipa.BinlogParser
