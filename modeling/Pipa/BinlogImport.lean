import Pipa.AppError
import Pipa.BinlogParser
import Pipa.BinlogRepository
import Pipa.Library.Runs

/-! Binlog imports: the desktop commands and the MCP tools start background parsers,
cancel them, close their sessions and read what is stored. The session map and the
map of cancellation tokens have locks of their own; every lock section is one step,
and the steps of all tasks interleave. -/

namespace Pipa

inductive BinlogImportEvent where
  | started (analysisId : Uuid) (fileCount totalBytes : Nat)
  | progress (analysisId : Uuid) (progress : BinlogProgress)
  | completed (analysisId : Uuid)
  | failed (analysisId : Uuid) (error : AppError)
  | canceled (analysisId : Uuid)
deriving DecidableEq, Repr

/-- The import whose lifecycle an event ends. -/
def BinlogImportEvent.terminal : BinlogImportEvent → Option Uuid
  | .started .. | .progress .. => none
  | .completed analysisId | .failed analysisId _ | .canceled analysisId => some analysisId

namespace BinlogImport
open BinlogParser

def repositoryMessage : RepositoryError → String
  | .notFound => "Binlog analysis was not found"
  | .alreadyExists => "Binlog analysis already exists"
  | .invalidCursor => "Binlog transaction cursor is invalid"
  | .unavailable => "Binlog analysis repository is unavailable"

def repositoryError (error : RepositoryError) : AppError where
  code := match error with
    | .notFound => .notFound
    | .invalidCursor => .validation
    | .alreadyExists | .unavailable => .internal
  message := repositoryMessage error
  technicalDetails := none
  retryable := error = .unavailable

/-- A redacted application error with the file coordinates of a parser failure. -/
def importError (error : BinlogImportFailure) (code : AppErrorCode) : AppError :=
  let coordinate := error.diagnostic.fileName.map fun fileName =>
    match error.diagnostic.position with
    | some position => s!"{fileName} at byte {position}"
    | none => fileName
  let technicalDetails := match coordinate, error.technicalDetails with
    | some coordinate, some details => some s!"{coordinate}: {details}"
    | some coordinate, none => some coordinate
    | none, details => details
  { code, message := error.message, technicalDetails, retryable := error.retryable }

def terminalEvent (analysisId : Uuid) : BinlogImportTerminal → BinlogImportEvent
  | .completed => .completed analysisId
  | .canceled => .canceled analysisId
  | .failed error => .failed analysisId (importError error .query)

/-- A partial analysis stored when the blocking parser task itself panics. -/
def parserJoinFailure (summary : BinlogSummary) (technicalDetails : Option String) (endedAt : String) :
    BinlogAnalysisOutput :=
  let failure := BinlogParser.failure "parser_task_failed" "The binlog parser stopped unexpectedly" technicalDetails none none false
  { summary := { summary with
      status := .error
      endedAt := some endedAt
      diagnostics := summary.diagnostics ++ [failure.diagnostic] }
    transactions := []
    terminal := .failed failure }

def statusDebug : BinlogAnalysisStatus → String
  | .complete => "Complete"
  | .warning => "Warning"
  | .error => "Error"
  | .partialResult => "Partial"

/-- Who started an import: the desktop reports on a channel, MCP in its activity log. -/
inductive Origin where
  | desktop | mcp
deriving DecidableEq, Repr

/-- Where the tasks of an import stand. `created`: the session exists. `registered`:
so does the token. `parsing`: the parser runs. The rest follows the parser's output. -/
inductive Phase where
  | created
  | registered
  | aborting
  | parsing
  | parsed (output : BinlogAnalysisOutput)
  | unregistered (output : BinlogAnalysisOutput)
  | stored (output : BinlogAnalysisOutput) (outcome : Except RepositoryError Unit)
  | settled (output : BinlogAnalysisOutput) (outcome : Except RepositoryError Unit)
  | done (stored : Option (BinlogAnalysisOutput × Except RepositoryError Unit))

structure Task where
  origin : Origin
  files : List BinlogFileSummary
  startedAt : String
  phase : Phase

structure ActivityEntry where
  analysisId : Uuid
  summary : String
  ok : Bool
  detail : String
deriving DecidableEq, Repr

/-- The shared state, the tasks, and logs of what happened: events sent on channels,
activity entries, ids that were drawn or asked for, and closes that have returned. -/
structure State where
  sessions : InMemoryAnalysisRepository
  cancellations : List Uuid
  cancelled : List Uuid
  tasks : Uuid → Option Task
  closing : List Uuid
  sent : List BinlogImportEvent
  activity : List ActivityEntry
  known : List Uuid
  closed : List Uuid

/-- How the blocking parser ended: with its last state, or by a panic. -/
inductive ParserEnd where
  | output (timestampFromSeconds : Nat → String) (state : ParserState) (terminal : BinlogImportTerminal)
  | panicked (message : String)

/-- One step of some task or command. `started` sends the first event of a desktop
import, or fails to. `proceed` takes the next lock section of an import's task. -/
inductive Step where
  | start (origin : Origin) (analysisId : Uuid) (files : List BinlogFileSummary) (startedAt : String)
  | register (analysisId : Uuid)
  | started (analysisId : Uuid) (delivered : Bool)
  | progress (analysisId : Uuid) (progress : BinlogProgress) (delivered : Bool)
  | finishParsing (analysisId : Uuid) (result : ParserEnd) (endedAt : String)
  | proceed (analysisId : Uuid)
  | cancel (analysisId : Uuid)
  | beginClose (analysisId : Uuid)
  | endClose (analysisId : Uuid)
  | getSummary (analysisId : Uuid)
  | listTransactions (analysisId : Uuid) (filter : BinlogTransactionFilter)
  | getTransaction (analysisId : Uuid) (sequence : Nat) (filter : BinlogTransactionFilter)

namespace State

def new : State where
  sessions := fun _ => none
  cancellations := []
  cancelled := []
  tasks := fun _ => none
  closing := []
  sent := []
  activity := []
  known := []
  closed := []

def withPhase (self : State) (analysisId : Uuid) (task : Task) (phase : Phase) : State :=
  { self with tasks := Function.update self.tasks analysisId (some { task with phase }) }

/-- Removes a registered token from the map. -/
def unregister (self : State) (analysisId : Uuid) : State :=
  { self with cancellations := self.cancellations.filter (· ≠ analysisId) }

def cancelToken (self : State) (analysisId : Uuid) : State :=
  { self with cancelled := analysisId :: self.cancelled }

def mention (self : State) (analysisId : Uuid) : State := { self with known := analysisId :: self.known }

/-- Creates the session of a new import. -/
def start (self : State) (origin : Origin) (analysisId : Uuid) (files : List BinlogFileSummary) (startedAt : String) : State :=
  match BinlogRepository.create self.sessions (initialSummary analysisId files startedAt) with
  | (.ok (), sessions) => { self with sessions }.withPhase analysisId { origin, files, startedAt, phase := .created } .created
  | (.error _, _) => self

def parserOutput (task : Task) (analysisId : Uuid) (endedAt : String) : ParserEnd → BinlogAnalysisOutput
  | .output timestampFromSeconds state terminal =>
    finishAnalysis timestampFromSeconds analysisId task.files task.startedAt endedAt state terminal
  | .panicked message =>
    parserJoinFailure (initialSummary analysisId task.files task.startedAt)
      (if task.origin = .desktop then some message else none) endedAt

/-- Replaces the session with an output and keeps the outcome in the task. -/
def store (self : State) (analysisId : Uuid) (task : Task) (output : BinlogAnalysisOutput) : State :=
  let (outcome, sessions) := BinlogRepository.replace self.sessions output.summary output.transactions
  { self with sessions }.withPhase analysisId task (.stored output outcome)

/-- The terminal event of a desktop import, unless its session is gone. -/
def sendTerminal (self : State) (analysisId : Uuid) (output : BinlogAnalysisOutput) : Except RepositoryError Unit → State
  | .ok () => { self with sent := self.sent ++ [terminalEvent analysisId output.terminal] }
  | .error .notFound => self
  | .error error => { self with sent := self.sent ++ [BinlogImportEvent.failed analysisId (repositoryError error)] }

def finishedEntry (analysisId : Uuid) (output : BinlogAnalysisOutput) : ActivityEntry where
  analysisId := analysisId
  summary := "finished Binlog analysis"
  ok := output.terminal = .completed || output.terminal = .canceled
  detail := s!"analysis_id={analysisId} status={statusDebug output.summary.status} transactions={output.summary.transactionCount} events={output.summary.eventCount}"

def lostEntry (analysisId : Uuid) (error : RepositoryError) : ActivityEntry where
  analysisId := analysisId
  summary := "could not retain Binlog analysis"
  ok := false
  detail := repositoryMessage error

/-- The activity entry of an MCP import, unless its session is gone. -/
def pushActivity (self : State) (analysisId : Uuid) (output : BinlogAnalysisOutput) : Except RepositoryError Unit → State
  | .ok () => { self with activity := self.activity ++ [finishedEntry analysisId output] }
  | .error .notFound => self
  | .error error => { self with activity := self.activity ++ [lostEntry analysisId error] }

/-- The next lock section of a task. The desktop stores its output before it removes
its token and then sends its terminal event; MCP removes its token first. -/
def proceed (self : State) (analysisId : Uuid) (task : Task) : State :=
  match task.phase, task.origin with
  | .aborting, _ =>
    { self with sessions := BinlogRepository.close self.sessions analysisId }.withPhase analysisId task (.done none)
  | .parsed output, .desktop => self.store analysisId task output
  | .parsed output, .mcp => (self.unregister analysisId).withPhase analysisId task (.unregistered output)
  | .unregistered output, _ => self.store analysisId task output
  | .stored output outcome, .desktop => (self.unregister analysisId).withPhase analysisId task (.settled output outcome)
  | .stored output outcome, .mcp =>
    (self.pushActivity analysisId output outcome).withPhase analysisId task (.done (some (output, outcome)))
  | .settled output outcome, _ =>
    (self.sendTerminal analysisId output outcome).withPhase analysisId task (.done (some (output, outcome)))
  | .created, _ | .registered, _ | .parsing, _ | .done _, _ => self

/-- Applies a step to the task of an import that stands at a phase. -/
def onTask (self : State) (analysisId : Uuid) (act : Task → State) : State :=
  match self.tasks analysisId with
  | some task => act task
  | none => self

def step (self : State) : Step → State
  | .start origin analysisId files startedAt => (self.start origin analysisId files startedAt).mention analysisId
  | .register analysisId => self.onTask analysisId fun task =>
    match task.phase with
    | .created => { self with cancellations := analysisId :: self.cancellations }.withPhase analysisId task .registered
    | _ => self
  | .started analysisId delivered => self.onTask analysisId fun task =>
    match task.phase, task.origin with
    | .registered, .mcp => self.withPhase analysisId task .parsing
    | .registered, .desktop =>
      if delivered then
        { self with sent := self.sent ++ [BinlogImportEvent.started analysisId task.files.length (totalSize task.files)] }.withPhase
          analysisId task .parsing
      else (self.unregister analysisId).withPhase analysisId task .aborting
    | _, _ => self
  | .progress analysisId progress delivered => self.onTask analysisId fun task =>
    match task.phase, task.origin with
    | .parsing, .desktop =>
      if delivered then { self with sent := self.sent ++ [BinlogImportEvent.progress analysisId progress] } else self.cancelToken analysisId
    | _, _ => self
  | .finishParsing analysisId result endedAt => self.onTask analysisId fun task =>
    match task.phase with
    | .parsing => self.withPhase analysisId task (.parsed (parserOutput task analysisId endedAt result))
    | _ => self
  | .proceed analysisId => self.onTask analysisId (self.proceed analysisId)
  | .cancel analysisId => (if analysisId ∈ self.cancellations then self.cancelToken analysisId else self).mention analysisId
  | .beginClose analysisId =>
    let self := if analysisId ∈ self.cancellations then (self.unregister analysisId).cancelToken analysisId else self
    { self with closing := analysisId :: self.closing }.mention analysisId
  | .endClose analysisId =>
    if analysisId ∈ self.closing then
      { self with
        sessions := BinlogRepository.close self.sessions analysisId
        closing := self.closing.erase analysisId
        closed := analysisId :: self.closed }
    else self
  | .getSummary analysisId | .listTransactions analysisId _ | .getTransaction analysisId _ _ => self.mention analysisId

/-- The id that a step draws for a new import. -/
def drawn : Step → Option Uuid
  | .start _ analysisId _ _ => some analysisId
  | _ => none

/-- A random id differs from every id that was drawn or asked for before. -/
def Fresh (self : State) (event : Step) : Prop := ∀ analysisId, drawn event = some analysisId → analysisId ∉ self.known

end State

end BinlogImport

end Pipa
