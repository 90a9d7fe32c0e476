import Pipa.Proofs.BinlogFraming

/-! The progress that a binlog import reports, and with it what an analysis owes to
its files: frames that tile them, located failures, and byte counts that only grow. -/

namespace Pipa.BinlogParser

/-- Reports in order, none beyond the bytes reached so far or the number of files. -/
structure Accounted (totalBytes fileCount reached : Nat) (progress : List BinlogProgress) : Prop where
  ordered : progress.Pairwise (·.bytesRead ≤ ·.bytesRead)
  behind : ∀ report ∈ progress, report.bytesRead ≤ reached
  total : ∀ report ∈ progress, report.totalBytes = totalBytes
  files : ∀ report ∈ progress, report.filesCompleted ≤ fileCount

namespace Accounted
variable {totalBytes fileCount reached further : Nat} {progress : List BinlogProgress}

theorem mono (accounted : Accounted totalBytes fileCount reached progress) (more : reached ≤ further) :
    Accounted totalBytes fileCount further progress :=
  { accounted with behind := fun report member => (accounted.behind report member).trans more }

theorem report (accounted : Accounted totalBytes fileCount reached progress) (next : BinlogProgress) (later : reached ≤ further)
    (bytesRead : next.bytesRead = further) (total : next.totalBytes = totalBytes) (files : next.filesCompleted ≤ fileCount) :
    Accounted totalBytes fileCount further (progress ++ [next]) where
  ordered := by
    refine List.pairwise_append.mpr ⟨accounted.ordered, List.pairwise_singleton .., fun report member last isLast => ?_⟩
    obtain rfl := List.mem_singleton.mp isLast
    exact bytesRead ▸ (accounted.behind report member).trans later
  behind := List.forall_mem_append.mpr
    ⟨fun report member => (accounted.behind report member).trans later, List.forall_mem_singleton.mpr bytesRead.le⟩
  total := List.forall_mem_append.mpr ⟨accounted.total, List.forall_mem_singleton.mpr total⟩
  files := List.forall_mem_append.mpr ⟨accounted.files, List.forall_mem_singleton.mpr files⟩

end Accounted

/-- What the event loop over a file leaves as it was, and that reports are only added. -/
structure Importing.Extends {Reader : Type} (before after : Importing Reader) : Prop where
  completedBytes : after.completedBytes = before.completedBytes
  filesCompleted : after.filesCompleted = before.filesCompleted
  progress : before.progress <+: after.progress

section Files
variable {Reader Rows : Type} (mysql : MysqlCommon Reader Rows) (source : ImportSource) (totalBytes fileCount : Nat)

theorem advance_extends (importing : Importing Reader) (parsing : Parsing Reader) (index : Nat) (currentFile : String)
    (position : Nat) (frame : List UInt8) :
    importing.Extends ({ importing with parsing }.advance totalBytes fileCount index currentFile position frame) := by
  simp only [Importing.advance]
  split
  · exact ⟨rfl, rfl, List.prefix_append ..⟩
  · exact ⟨rfl, rfl, List.prefix_rfl⟩

theorem readEvents_extends (index : Nat) (file : BinlogFileSummary) (input : ByteStream) (position : Nat)
    (importing : Importing Reader) :
    importing.Extends (readEvents mysql source totalBytes fileCount index file input position importing).2 := by
  refine readEvents_rule mysql source totalBytes fileCount index file
    (motive := fun _ _ importing result => importing.Extends result.2) ?_ ?_ input position importing
  · intro input position importing outcome after iterates
    cases iterates <;> exact ⟨rfl, rfl, List.prefix_rfl⟩
  · intro input rest position importing parsing frame result read later
    have here := advance_extends totalBytes fileCount importing parsing index (fileName file.path) position frame
    exact ⟨later.completedBytes.trans here.completedBytes, later.filesCompleted.trans here.filesCompleted,
      here.progress.trans later.progress⟩

theorem readFile_extends (index : Nat) (file : BinlogFileSummary) (importing : Importing Reader) :
    importing.Extends (readFile mysql source totalBytes fileCount index file importing).2 := by
  have reads := readFile_reads mysql source totalBytes fileCount index file importing
  generalize readFile mysql source totalBytes fileCount index file importing = result at reads ⊢
  cases reads with
  | canceled | unopened | headless => exact ⟨rfl, rfl, List.prefix_rfl⟩
  | events parsing input events =>
    obtain ⟨completedBytes, filesCompleted, progress⟩ :=
      readEvents_extends mysql source totalBytes fileCount index file events magic.length { importing with parsing }
    exact ⟨completedBytes, filesCompleted, progress⟩

theorem readFiles_extends (index : Nat) (files : List BinlogFileSummary) (importing : Importing Reader) :
    importing.progress <+: (readFiles mysql source totalBytes fileCount index files importing).2.progress := by
  induction files generalizing index importing with
  | nil => exact List.prefix_rfl
  | cons file files ih =>
    have here := (readFile_extends mysql source totalBytes fileCount index file importing).progress
    rw [readFiles]
    rcases outcome : readFile mysql source totalBytes fileCount index file importing with ⟨_ | terminal, next⟩
    all_goals rw [outcome] at here
    · exact here.trans ((List.prefix_append ..).trans (ih (index + 1) (next.completeFile totalBytes fileCount file)))
    · exact here

variable {totalBytes fileCount}

theorem advance_accounted {importing : Importing Reader} {position size : Nat} {frame : List UInt8}
    (accounted : Accounted totalBytes fileCount (importing.completedBytes + position) importing.progress)
    (inside : position + frame.length ≤ size) (room : importing.completedBytes + size < u64Size)
    (files : importing.filesCompleted ≤ fileCount) (parsing : Parsing Reader) (index : Nat) (currentFile : String) :
    Accounted totalBytes fileCount (importing.completedBytes + (position + frame.length))
      ({ importing with parsing }.advance totalBytes fileCount index currentFile position frame).progress := by
  have exact_ : (importing.completedBytes + (position + frame.length)) % u64Size = importing.completedBytes + (position + frame.length) :=
    Nat.mod_eq_of_lt (by omega)
  simp only [Importing.advance, exact_]
  split
  · exact Accounted.report accounted _ (Nat.add_le_add_left (Nat.le_add_right ..) _) rfl rfl files
  · exact Accounted.mono accounted (Nat.add_le_add_left (Nat.le_add_right ..) _)

theorem readEvents_accounted (index : Nat) (file : BinlogFileSummary) (input : ByteStream) (position : Nat)
    (importing : Importing Reader) (inside : position + input.bytes.length ≤ file.sizeBytes)
    (room : importing.completedBytes + file.sizeBytes < u64Size) (files : importing.filesCompleted ≤ fileCount)
    (accounted : Accounted totalBytes fileCount (importing.completedBytes + position) importing.progress) :
    Accounted totalBytes fileCount (importing.completedBytes + file.sizeBytes)
      (readEvents mysql source totalBytes fileCount index file input position importing).2.progress := by
  revert inside room files accounted
  refine readEvents_rule mysql source totalBytes fileCount index file
    (motive := fun input position importing result => position + input.bytes.length ≤ file.sizeBytes →
      importing.completedBytes + file.sizeBytes < u64Size → importing.filesCompleted ≤ fileCount →
      Accounted totalBytes fileCount (importing.completedBytes + position) importing.progress →
      Accounted totalBytes fileCount (importing.completedBytes + file.sizeBytes) result.2.progress) ?_ ?_ input position importing
  · intro input position importing outcome after iterates inside room files accounted
    have reached : Accounted totalBytes fileCount (importing.completedBytes + file.sizeBytes) importing.progress :=
      accounted.mono (by omega)
    cases iterates <;> exact reached
  · intro input rest position importing parsing frame result read later inside room files accounted
    obtain ⟨completedBytes, filesCompleted, -⟩ :=
      advance_extends totalBytes fileCount importing parsing index (fileName file.path) position frame
    rw [read.split, List.length_append] at inside
    rw [completedBytes, filesCompleted] at later
    exact later (by omega) room files (advance_accounted accounted (by omega) room files parsing index _)

theorem readFile_accounted (index : Nat) (file : BinlogFileSummary) (importing : Importing Reader) {content : List UInt8}
    (opened : Opened source index content) (size : content.length = file.sizeBytes)
    (room : importing.completedBytes + file.sizeBytes < u64Size) (files : importing.filesCompleted ≤ fileCount)
    (accounted : Accounted totalBytes fileCount importing.completedBytes importing.progress) :
    Accounted totalBytes fileCount (importing.completedBytes + file.sizeBytes)
      (readFile mysql source totalBytes fileCount index file importing).2.progress := by
  have reached := accounted.mono (Nat.le_add_right importing.completedBytes file.sizeBytes)
  have reads := readFile_reads mysql source totalBytes fileCount index file importing
  generalize readFile mysql source totalBytes fileCount index file importing = result at reads ⊢
  cases reads with
  | canceled | unopened | headless => exact reached
  | events parsing input events found header =>
    have begins := (opened input found).1.length_le
    rw [(readFileHeader_ok mysql header).1, List.length_append] at begins
    exact readEvents_accounted mysql source index file events magic.length { importing with parsing } (size ▸ begins) room files
      (accounted.mono (Nat.le_add_right ..))

/-- The bytes of the files. -/
def sizeSum (files : List BinlogFileSummary) : Nat := (files.map BinlogFileSummary.sizeBytes).sum

theorem readFiles_accounted (content : Nat → List UInt8) (index : Nat) (files : List BinlogFileSummary)
    (opened : ∀ offset file, files[offset]? = some file →
      (content (index + offset)).length = file.sizeBytes ∧ Opened source (index + offset) (content (index + offset)))
    (importing : Importing Reader) (room : importing.completedBytes + sizeSum files < u64Size)
    (completed : importing.filesCompleted + files.length ≤ fileCount)
    (accounted : Accounted totalBytes fileCount importing.completedBytes importing.progress) :
    Accounted totalBytes fileCount (importing.completedBytes + sizeSum files)
      (readFiles mysql source totalBytes fileCount index files importing).2.progress := by
  induction files generalizing index importing with
  | nil => exact accounted
  | cons file files ih =>
    obtain ⟨size, here⟩ := opened 0 file rfl
    have sum : sizeSum (file :: files) = file.sizeBytes + sizeSum files := by
      rw [sizeSum, List.map_cons, List.sum_cons, sizeSum]
    rw [sum] at room ⊢
    rw [List.length_cons] at completed
    have read := readFile_accounted mysql source index file importing here size (by omega) (by omega) accounted
    obtain ⟨sameBytes, sameFiles, -⟩ := readFile_extends mysql source totalBytes fileCount index file importing
    rw [readFiles]
    rcases outcome : readFile mysql source totalBytes fileCount index file importing with ⟨_ | terminal, next⟩
    all_goals
      rw [outcome] at read sameBytes sameFiles
      dsimp only at sameBytes sameFiles
    · have unsaturated : min (next.completedBytes + file.sizeBytes) (u64Size - 1) = importing.completedBytes + file.sizeBytes := by
        rw [sameBytes]
        omega
      have later := ih (index + 1) (fun offset selected found => by
          rw [show index + 1 + offset = index + (offset + 1) by omega]
          exact opened (offset + 1) selected found)
        (next.completeFile totalBytes fileCount file)
      simp only [Importing.completeFile, Importing.report, unsaturated] at later ⊢
      rw [← Nat.add_assoc]
      refine later (by omega) (by omega) (Accounted.report read _ (Nat.le_refl _) rfl rfl ?_)
      simp only [ParserState.progress]
      omega
    · exact read.mono (by omega)

/-- Where every file ended cleanly, the last report counts all their bytes, as far as
`u64` saturation lets it. -/
theorem readFiles_completed (index : Nat) (file : BinlogFileSummary) (files : List BinlogFileSummary) (importing : Importing Reader)
    (completed : (readFiles mysql source totalBytes fileCount index (file :: files) importing).1 = .completed) :
    ∃ report ∈ (readFiles mysql source totalBytes fileCount index (file :: files) importing).2.progress,
      report.totalBytes = totalBytes ∧
      report.bytesRead = min (importing.completedBytes + sizeSum (file :: files)) (u64Size - 1) := by
  have sameBytes := (readFile_extends mysql source totalBytes fileCount index file importing).completedBytes
  induction files generalizing index file importing with
  | nil =>
    rw [readFiles] at completed ⊢
    rcases outcome : readFile mysql source totalBytes fileCount index file importing with ⟨_ | terminal, next⟩
    all_goals
      rw [outcome] at completed sameBytes
      dsimp only at completed sameBytes ⊢
    · refine ⟨_, List.mem_append_right _ (List.mem_singleton.mpr rfl), rfl, ?_⟩
      simp [ParserState.progress, sizeSum, sameBytes]
    · exact absurd completed (readFile_early mysql source totalBytes fileCount outcome)
  | cons second files ih =>
    rw [readFiles] at completed ⊢
    rcases outcome : readFile mysql source totalBytes fileCount index file importing with ⟨_ | terminal, next⟩
    all_goals
      rw [outcome] at completed sameBytes
      dsimp only at completed sameBytes ⊢
    · obtain ⟨report, member, total, bytesRead⟩ := ih (index + 1) second (next.completeFile totalBytes fileCount file) completed
        (readFile_extends mysql source totalBytes fileCount (index + 1) second _).completedBytes
      refine ⟨report, member, total, bytesRead.trans ?_⟩
      simp only [Importing.completeFile, Importing.report, sizeSum, List.map_cons, List.sum_cons, sameBytes]
      omega
    · exact absurd completed (readFile_early mysql source totalBytes fileCount outcome)

end Files

/-- The files hold what inspection found of them while they are read, though reading may fail. -/
def Unchanged (source : ImportSource) (files : List BinlogFileSummary) (content : Nat → List UInt8) : Prop :=
  ∀ index file, files[index]? = some file → (content index).length = file.sizeBytes ∧ Opened source index (content index)

section Analysis
variable {Reader Rows : Type} (mysql : MysqlCommon Reader Rows) (source : ImportSource) (analysisId : Uuid)
  (files : List BinlogFileSummary) (startedAt endedAt : String) (content : Nat → List UInt8)

theorem analyzeFiles_terminal : (analyzeFiles mysql source analysisId files startedAt endedAt).terminal =
    (importFiles mysql source analysisId files).1 := by
  rw [analyzeFiles]
  rcases importFiles mysql source analysisId files with ⟨terminal, importing⟩
  rfl

/-- What an analysis owes to the files it read: `tiled`, what a completed analysis has
processed is each file, after its magic; `framed`, `consecutive` and `begins`, what any
analysis has processed are frames without gap or overlap from the front of each file;
`located`, a frame that is cut short or too long fails the analysis at its place, unless
it was cancelled; `consumes`, the loop shortens its input by a header each time; and the
progress that was reported. -/
structure Sound : Prop where
  tiled : (analyzeFiles mysql source analysisId files startedAt endedAt).terminal = .completed →
    ∀ index < files.length,
      content index = magic ++ frameBytes (framesOf (importFiles mysql source analysisId files).2.processed index)
  framed : ∀ frame ∈ (importFiles mysql source analysisId files).2.processed, frame.file < files.length ∧ Framed frame.bytes
  consecutive : ∀ index, Consecutive magic.length (framesOf (importFiles mysql source analysisId files).2.processed index)
  begins : ∀ index, framesOf (importFiles mysql source analysisId files).2.processed index = [] ∨
    magic ++ frameBytes (framesOf (importFiles mysql source analysisId files).2.processed index) <+: content index
  located : ∀ index file left, files[index]? = some file → (∀ earlier ≤ index, Readable source earlier (content earlier)) →
    (∀ earlier < index,
      content earlier = magic ++ frameBytes (framesOf (importFiles mysql source analysisId files).2.processed earlier)) →
    content index = magic ++ frameBytes (framesOf (importFiles mysql source analysisId files).2.processed index) ++ left →
    left ≠ [] → Unframed left →
    (analyzeFiles mysql source analysisId files startedAt endedAt).terminal = .canceled ∨
      ∃ failure, (analyzeFiles mysql source analysisId files startedAt endedAt).terminal = .failed failure ∧
        Located file.path
          (magic.length + (frameBytes (framesOf (importFiles mysql source analysisId files).2.processed index)).length) failure
  consumes : ∀ index file input position (importing : Importing Reader) rest position' importing',
    readEvent mysql source (totalSize files) files.length index file input position importing = .next rest position' importing' →
    rest.bytes.length + eventHeaderLength ≤ input.bytes.length
  ordered : (importFiles mysql source analysisId files).2.progress.Pairwise (·.bytesRead ≤ ·.bytesRead)
  bounded : ∀ report ∈ (importFiles mysql source analysisId files).2.progress, report.bytesRead ≤ report.totalBytes
  counted : ∀ report ∈ (importFiles mysql source analysisId files).2.progress, report.filesCompleted ≤ files.length

variable {files content}

theorem importFiles_frames (unchanged : Unchanged source files content) :
    FilesRead source 0 files content (importFiles mysql source analysisId files).2.processed
      (importFiles mysql source analysisId files).1 := by
  obtain ⟨frames, processed, read⟩ := readFiles_frames mysql source (totalSize files) files.length content 0 files
    (fun offset below => by
      rw [Nat.zero_add]
      exact (unchanged offset files[offset] (List.getElem?_eq_getElem below)).2)
    (.start mysql analysisId)
  exact processed ▸ read

theorem importFiles_accounted (unchanged : Unchanged source files content) (room : sizeSum files < u64Size) :
    Accounted (totalSize files) files.length (totalSize files) (importFiles mysql source analysisId files).2.progress := by
  have total : totalSize files = (Importing.start mysql analysisId).completedBytes + sizeSum files := by
    rw [totalSize, Importing.start, Nat.zero_add]
    exact Nat.mod_eq_of_lt room
  have none : Accounted (totalSize files) files.length (Importing.start mysql analysisId).completedBytes
      (Importing.start mysql analysisId).progress :=
    ⟨.nil, by simp [Importing.start], by simp [Importing.start], by simp [Importing.start]⟩
  have accounted := readFiles_accounted mysql source content 0 files
    (fun offset file found => by
      rw [Nat.zero_add]
      exact unchanged offset file found)
    (.start mysql analysisId) (total ▸ Nat.mod_lt _ (by decide)) (by simp [Importing.start]) none
  rw [← total] at accounted
  exact accounted

/-- Every analysis of unchanged files whose sizes add up within `u64` is sound. A
completed one of larger files is not: its last report counts more bytes than the total. -/
theorem analyzeFiles_sound (unchanged : Unchanged source files content) :
    (sizeSum files < u64Size → Sound mysql source analysisId files startedAt endedAt content) ∧
    ((analyzeFiles mysql source analysisId files startedAt endedAt).terminal = .completed → u64Size ≤ sizeSum files →
      totalSize files ≠ u64Size - 1 → ¬ Sound mysql source analysisId files startedAt endedAt content) := by
  constructor
  · intro room
    have read := importFiles_frames mysql source analysisId unchanged
    have accounted := importFiles_accounted mysql source analysisId unchanged room
    constructor
    · intro completed index below
      rw [analyzeFiles_terminal] at completed
      have whole := read.clean completed index below
      rwa [Nat.zero_add] at whole
    · intro frame member
      obtain ⟨_, below, framed⟩ := read.each frame member
      exact ⟨by omega, framed⟩
    · exact read.consecutive
    · exact read.begins
    · intro index file left found readable whole split remaining unframed
      rw [analyzeFiles_terminal]
      have located := read.located index file left found
      simp only [Nat.zero_add] at located
      exact located readable whole split remaining unframed
    · exact fun _ _ _ _ _ _ _ _ next => readEvent_next mysql source _ _ next
    · exact accounted.ordered
    · intro report member
      exact (accounted.behind report member).trans (accounted.total report member).ge
    · exact accounted.files
  · intro completed large partial_ sound
    rw [analyzeFiles_terminal, importFiles] at completed
    cases files with
    | nil => exact absurd large (by decide)
    | cons file files =>
      obtain ⟨report, member, total, bytesRead⟩ := readFiles_completed mysql source 0 file files (.start mysql analysisId) completed
      have bounded := sound.bounded report member
      have wrapped : totalSize (file :: files) < u64Size := Nat.mod_lt _ (by decide)
      rw [total, bytesRead, Importing.start, Nat.zero_add] at bounded
      omega

/-- A file that is only a header ends cleanly. -/
theorem header_ends (file : BinlogFileSummary) (totalBytes fileCount : Nat) (importing : Importing Reader)
    (patient : source.cancelAfter = none) (readable : Readable source 0 magic) :
    ∃ next, readFile mysql source totalBytes fileCount 0 file importing = (none, next) := by
  have header := readFileHeader_magic mysql [] none (fileName file.path)
  rw [List.append_nil] at header
  have ended (before : Importing Reader) : ∃ after,
      readEvent mysql source totalBytes fileCount 0 file ⟨[], none⟩ magic.length before = .ended none after := by
    simp only [readEvent, Importing.check, patient, readable.placed, readEventFrame, ByteStream.hasDataLeft,
      List.isEmpty_nil, if_true]
    exact ⟨_, rfl⟩
  have read (before : Importing Reader) : ∃ after,
      readEvents mysql source totalBytes fileCount 0 file ⟨[], none⟩ magic.length before = (none, after) := by
    obtain ⟨after, iteration⟩ := ended before
    rw [readEvents, iteration]
    exact ⟨after, rfl⟩
  simp only [readFile, Importing.check, patient, readable.opened, header]
  exact read _

/-- A file that is only a header is read, and reported as read. -/
theorem header_reported (file : BinlogFileSummary) (others : List BinlogFileSummary) (patient : source.cancelAfter = none)
    (readable : Readable source 0 magic) (size : file.sizeBytes = magic.length) :
    ∃ report ∈ (importFiles mysql source analysisId (file :: others)).2.progress,
      report.bytesRead = magic.length ∧ report.totalBytes = totalSize (file :: others) := by
  obtain ⟨next, ends⟩ := header_ends mysql source file (totalSize (file :: others)) (file :: others).length
    (.start mysql analysisId) patient readable
  have nothing := (readFile_extends mysql source (totalSize (file :: others)) (file :: others).length 0 file
    (.start mysql analysisId)).completedBytes
  have kept := readFiles_extends mysql source (totalSize (file :: others)) (file :: others).length 1 others
    (next.completeFile (totalSize (file :: others)) (file :: others).length file)
  rw [ends] at nothing
  rw [importFiles, readFiles, ends]
  refine ⟨_, kept.subset (List.mem_append_right _ (List.mem_singleton.mpr rfl)), ?_, rfl⟩
  have zero : next.completedBytes = 0 := nothing
  simp only [ParserState.progress, zero, size]
  rfl

end Analysis

/-- A decoder that takes every frame for an event that changes nothing. -/
def sampleMysql : MysqlCommon Unit Unit where
  newReader := ()
  read reader _ := (.event
    { timestamp := 0
      serverId := 1
      eventTypeRaw := 4
      checksumAlg := .ok none
      checksum := none
      calcChecksum := 0
      data := .ok (some .control) }, reader)
  readDecompressed reader _ := (.empty, reader)
  decodeRowsEvent _ _ _ := (
    { database := "shop"
      table := "orders"
      operation := .insert
      rowCount := 0
      columns := []
      rows := []
      tableConfidence := .exact
      sql := none }, [])
  timestampFromSeconds _ := "1970-01-01T00:00:00Z"
  invalidFileHeader := { kind := .other, message := "invalid binlog file header" }

/-- Files that are read as they are, by an import that nobody cancels. -/
def sampleSource (content : Nat → List UInt8) : ImportSource where
  openFile index := .ok ⟨content index, none⟩
  streamPosition _ _ := none
  cancelAfter := none

theorem sampleSource_opened (content : Nat → List UInt8) (index : Nat) : Opened (sampleSource content) index (content index) := by
  intro input found
  obtain rfl := Except.ok.inj found
  exact ⟨List.prefix_rfl, fun _ => rfl⟩

/-- A header and one event of nineteen bytes. -/
def sampleContent : List UInt8 := magic ++ [0, 0, 0, 0, 4, 1, 0, 0, 0, 19, 0, 0, 0, 23, 0, 0, 0, 0, 0]

theorem analyzeFiles_sound_sample :
    sizeSum [⟨"/var/lib/mysql/binlog.000001", 23⟩] < u64Size ∧
      Sound sampleMysql (sampleSource fun _ => sampleContent) ⟨"a"⟩ [⟨"/var/lib/mysql/binlog.000001", 23⟩] "" ""
        (fun _ => sampleContent) := by
  refine ⟨by decide, (analyzeFiles_sound sampleMysql _ ⟨"a"⟩ "" "" fun index file found => ?_).1 (by decide)⟩
  refine ⟨?_, sampleSource_opened _ index⟩
  obtain ⟨below, rfl⟩ := List.getElem?_eq_some_iff.mp found
  obtain rfl : index = 0 := Nat.lt_one_iff.mp below
  rfl

/-- A header, and two sparse files of the greatest length a file can have. -/
def overflowingFiles : List BinlogFileSummary :=
  [⟨"/data/binlog.000001", 4⟩, ⟨"/data/binlog.000002", 9223372036854775807⟩, ⟨"/data/binlog.000003", 9223372036854775807⟩]

def overflowingContent : Nat → List UInt8
  | 0 => magic
  | _ => magic ++ List.replicate 9223372036854775803 0

theorem overflowing_unchanged : Unchanged (sampleSource overflowingContent) overflowingFiles overflowingContent := by
  intro index file found
  refine ⟨?_, sampleSource_opened _ index⟩
  match index with
  | 0 => cases found; rfl
  | 1 | 2 =>
    cases found
    simp only [overflowingContent, List.length_append, List.length_replicate]
    rfl
  | index + 3 => cases found

/-- The total wraps to 2 there, and the report on the first file counts 4 bytes of it. -/
theorem analyzeFiles_overflows :
    Unchanged (sampleSource overflowingContent) overflowingFiles overflowingContent ∧ totalSize overflowingFiles = 2 ∧
      ¬ Sound sampleMysql (sampleSource overflowingContent) ⟨"a"⟩ overflowingFiles "" "" overflowingContent := by
  refine ⟨overflowing_unchanged, rfl, fun sound => ?_⟩
  obtain ⟨report, member, bytesRead, total⟩ := header_reported sampleMysql (sampleSource overflowingContent) ⟨"a"⟩
    ⟨"/data/binlog.000001", 4⟩ overflowingFiles.tail rfl ⟨rfl, fun _ => rfl⟩ rfl
  have bounded := sound.bounded report member
  rw [bytesRead, total] at bounded
  exact absurd bounded (by decide)

end Pipa.BinlogParser
