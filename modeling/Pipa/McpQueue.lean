import Pipa.AppError
import Pipa.Binlog
import Pipa.Library.Runs
import Pipa.SqlPolicy

/-! The MCP proposal queue: SQL proposed by an AI client waits here until the user
executes or dismisses it. Every lock section of the code is one operation, and the
tasks of the server and of the user interface interleave between them. -/

namespace Pipa

/-- Lifecycle status of a SQL proposal awaiting user confirmation. -/
inductive ProposalStatus where
  | pending | executing | executed | dismissed | failed
deriving DecidableEq, Repr

namespace ProposalStatus

def isPending (self : ProposalStatus) : Bool := self == .pending

/-- Whether the proposal may be dropped when the history limit is hit. -/
def isTerminal : ProposalStatus → Bool
  | .executed | .dismissed | .failed => true
  | .pending | .executing => false

/-- The derived `Debug` text. -/
def debug : ProposalStatus → String
  | .pending => "Pending"
  | .executing => "Executing"
  | .executed => "Executed"
  | .dismissed => "Dismissed"
  | .failed => "Failed"

end ProposalStatus

/-- A SQL statement proposed by MCP that requires explicit user confirmation. -/
structure PendingSqlProposal where
  id : Uuid
  connectionId : Uuid
  sql : String
  risk : SqlRisk
  sourceTool : String
  createdAt : String
  status : ProposalStatus
  resultSummary : Option String
deriving DecidableEq, Repr

def mcpProposalLimit : Nat := 100

/-- The shared deque of proposals, newest first. -/
structure McpQueue where
  proposals : List PendingSqlProposal

namespace McpQueue

/-- `Iterator::rposition`: the index of the last element that satisfies the test. -/
def rposition (test : α → Bool) : List α → Option Nat
  | [] => none
  | item :: items =>
    match rposition test items with
    | some index => some (index + 1)
    | none => if test item then some 0 else none

theorem rposition_some {test : α → Bool} {items : List α} {index : Nat} (found : rposition test items = some index) :
    ∃ before item after, items = before ++ item :: after ∧ before.length = index ∧ test item = true := by
  induction items generalizing index with
  | nil => cases found
  | cons first items ih =>
    rw [rposition] at found
    cases later : rposition test items with
    | none =>
      rw [later] at found
      obtain ⟨satisfied, rfl⟩ : test first = true ∧ 0 = index := by simpa using found
      exact ⟨[], first, items, rfl, rfl, satisfied⟩
    | some position =>
      rw [later] at found
      obtain rfl := Option.some.inj found
      obtain ⟨before, item, after, rfl, rfl, satisfied⟩ := ih later
      exact ⟨first :: before, item, after, rfl, rfl, satisfied⟩

/-- Drops oldest terminal proposals until the deque fits under the history limit. -/
def trimTerminalProposals (proposals : List PendingSqlProposal) : List PendingSqlProposal :=
  if proposals.length > mcpProposalLimit then
    match _position : rposition (fun item => item.status.isTerminal) proposals with
    | none => proposals
    | some index => trimTerminalProposals (proposals.eraseIdx index)
  else proposals
termination_by proposals.length
decreasing_by
  obtain ⟨before, item, after, rfl, rfl, -⟩ := rposition_some _position
  simp [List.eraseIdx_append_of_length_le]

/-- Enqueues a new pending proposal under a fresh id; pending ones are never dropped for it. -/
def propose (self : McpQueue) (id connectionId : Uuid) (sql : String) (risk : SqlRisk) (sourceTool createdAt : String) :
    Except AppError PendingSqlProposal × McpQueue :=
  let proposal : PendingSqlProposal :=
    { id, connectionId, sql, risk, sourceTool, createdAt, status := .pending, resultSummary := none }
  let proposals := trimTerminalProposals (proposal :: self.proposals)
  if proposals.length > mcpProposalLimit then
    (.error {
      code := .validation
      message := "MCP proposal queue is full of pending items; confirm or dismiss existing SQL first"
      technicalDetails := some s!"limit={mcpProposalLimit}"
      retryable := true }, ⟨proposals.tail⟩)
  else (.ok proposal, ⟨proposals⟩)

/-- Edits the first proposal with the id in place. -/
def modifyFirst (id : Uuid) (edit : PendingSqlProposal → PendingSqlProposal) :
    List PendingSqlProposal → List PendingSqlProposal
  | [] => []
  | item :: items => if item.id = id then edit item :: items else item :: modifyFirst id edit items

/-- Both claims look the proposal up, require it to be pending, and edit it under one lock. -/
def claim (self : McpQueue) (proposalId : Uuid) (refusal : String) (edit : PendingSqlProposal → PendingSqlProposal) :
    Except AppError PendingSqlProposal × McpQueue :=
  match self.proposals.find? (fun item => item.id = proposalId) with
  | none =>
    (.error {
      code := .notFound
      message := "MCP proposal was not found"
      technicalDetails := none
      retryable := false }, self)
  | some proposal =>
    if !proposal.status.isPending then
      (.error {
        code := .validation
        message := refusal
        technicalDetails := some s!"status={proposal.status.debug}"
        retryable := false }, self)
    else (.ok (edit proposal), ⟨modifyFirst proposalId edit self.proposals⟩)

def markExecuting (proposal : PendingSqlProposal) : PendingSqlProposal := { proposal with status := .executing }

def markDismissed (proposal : PendingSqlProposal) : PendingSqlProposal :=
  { proposal with status := .dismissed, resultSummary := some "dismissed" }

def markReported (status : ProposalStatus) (resultSummary : Option String) (proposal : PendingSqlProposal) :
    PendingSqlProposal :=
  { proposal with status, resultSummary }

/-- Atomically claims a pending proposal for execution. -/
def claimForExecute (self : McpQueue) (proposalId : Uuid) : Except AppError PendingSqlProposal × McpQueue :=
  self.claim proposalId "Only pending proposals can be executed" markExecuting

/-- Atomically claims a pending proposal for dismissal. -/
def claimForDismiss (self : McpQueue) (proposalId : Uuid) : Except AppError PendingSqlProposal × McpQueue :=
  self.claim proposalId "Only pending proposals can be dismissed" markDismissed

/-- Updates a proposal status and optional result summary. -/
def updateProposal (self : McpQueue) (proposalId : Uuid) (status : ProposalStatus) (resultSummary : Option String) :
    McpQueue :=
  ⟨modifyFirst proposalId (markReported status resultSummary) self.proposals⟩

end McpQueue

/-- The queue together with the executions that have claimed a proposal and not
yet reported its outcome. -/
structure McpState where
  queue : McpQueue
  executing : List Uuid

/-- One lock section of some task: `mcp_execute_proposal` claims and later reports,
`mcp_dismiss_proposal` claims, and the server proposes. -/
inductive McpEvent where
  | propose (id connectionId : Uuid) (sql : String) (risk : SqlRisk) (sourceTool createdAt : String)
  | claimForExecute (proposalId : Uuid)
  | claimForDismiss (proposalId : Uuid)
  | report (proposalId : Uuid) (ok : Bool) (detail : String)

namespace McpState

def new : McpState := ⟨⟨[]⟩, []⟩

/-- Only an execution that holds a claim reports; it does so once. -/
def step (self : McpState) : McpEvent → McpState
  | .propose id connectionId sql risk sourceTool createdAt =>
    { self with queue := (self.queue.propose id connectionId sql risk sourceTool createdAt).2 }
  | .claimForExecute proposalId =>
    match self.queue.claimForExecute proposalId with
    | (.ok proposal, queue) => ⟨queue, proposal.id :: self.executing⟩
    | (.error _, queue) => { self with queue }
  | .claimForDismiss proposalId => { self with queue := (self.queue.claimForDismiss proposalId).2 }
  | .report proposalId ok detail =>
    if proposalId ∈ self.executing then
      ⟨self.queue.updateProposal proposalId (if ok then .executed else .failed) (some detail),
        self.executing.erase proposalId⟩
    else self

/-- The proposal that an event claims successfully, for execution or dismissal. -/
def claims (self : McpState) : McpEvent → Option Uuid
  | .claimForExecute proposalId => (self.queue.claimForExecute proposalId).1.toOption.map PendingSqlProposal.id
  | .claimForDismiss proposalId => (self.queue.claimForDismiss proposalId).1.toOption.map PendingSqlProposal.id
  | .propose .. | .report .. => none

end McpState

/-- The id that `propose` draws for its proposal. -/
def McpEvent.proposed : McpEvent → Option Uuid
  | .propose id .. => some id
  | .claimForExecute _ | .claimForDismiss _ | .report .. => none

end Pipa
