import Mathlib.Logic.Function.Basic
import Pipa.BinlogRepository
import Pipa.Library.Runs

/-! The workspace of offline binlog analyses: imports, and the timeline that is read page
by page while filters change. Replies come in any order, and React may run the effect of a
render later than it commits what was rendered. -/

namespace Pipa.BinlogWorkspace
open BinlogRepository

def pageSize : Nat := 50

inductive ImportPhase where
  | empty | importing | loading | ready | error | canceled
deriving DecidableEq, Repr

/-- Texts that are empty and a missing operation select everything. -/
structure TimelineFilter where
  database : String := ""
  table : String := ""
  operation : Option BinlogOperation := none
deriving DecidableEq, Repr

def transactionFilter (filter : TimelineFilter) (cursor : Option String) : BinlogTransactionFilter where
  database := if filter.database = "" then none else some filter.database
  table := if filter.table = "" then none else some filter.table
  operation := filter.operation
  cursor
  limit := some pageSize

/-- A list request that has not been answered, of the effect or of the button for more. -/
structure ListRequest where
  generation : Nat
  analysisId : Uuid
  request : BinlogTransactionFilter
  more : Bool
deriving DecidableEq, Repr

/-- The workspace with its references; whether the timeline effect is still to be run for
what has changed; the runs whose summary is being read; the list requests under way, and the
generations of those that failed; and what the backend retains of completed analyses. -/
structure State where
  mounted : Bool := true
  activeRun : Nat := 0
  timelineGeneration : Nat := 0
  phase : ImportPhase := .empty
  analysisId : Option Uuid := none
  filter : TimelineFilter := {}
  transactions : List BinlogTransactionSummary := []
  nextCursor : Option String := none
  timelineLoading : Bool := false
  timelineError : Option String := none
  timelineReload : Nat := 0
  effectDue : Bool := false
  hydrating : List Nat := []
  pending : List ListRequest := []
  failed : List Nat := []
  analyses : Uuid → Option Timeline := fun _ => none

/-- `retained` is the backend's own step. `reported` is an event of a running import, or the
end of the call that started it; `hydrated` the summary of a completed one. Replies name the
request among those under way. -/
inductive Event where
  | beginImport
  | retained (analysisId : Uuid) (timeline : Timeline)
  | reported (run : Nat)
  | completed (run : Nat)
  | hydrated (run : Nat) (loaded : Bool)
  | ended (run : Nat) (canceled : Bool)
  | startFailed (run : Nat)
  | pickerFailed
  | setDatabase (database : String)
  | setTable (table : String)
  | setOperation (operation : Option BinlogOperation)
  | reload
  | timelineEffect
  | loadMoreTransactions
  | replied (index : Nat)
  | refused (index : Nat) (message : String)
  | unmount

namespace State

def setPhase (state : State) (phase : ImportPhase) : State :=
  { state with phase, effectDue := state.effectDue || state.phase ≠ phase }

def setAnalysisId (state : State) (analysisId : Option Uuid) : State :=
  { state with analysisId, effectDue := state.effectDue || state.analysisId ≠ analysisId }

/-- A filter is a new object even where its texts are the same. -/
def setFilter (state : State) (filter : TimelineFilter) : State := { state with filter, effectDue := true }

/-- Whether the promise of a run may still change the workspace. -/
def Current (state : State) (run : Nat) : Prop := state.mounted = true ∧ run = state.activeRun

instance (state : State) (run : Nat) : Decidable (state.Current run) := inferInstanceAs (Decidable (_ ∧ _))

def beginImport (state : State) : State :=
  if state.mounted then
    { (((state.setAnalysisId none).setPhase .importing).setFilter {}) with
      activeRun := state.activeRun + 1
      transactions := []
      nextCursor := none
      timelineError := none }
  else state

/-- Reads the first page of the current filter, while an analysis is ready. -/
def timelineEffect (state : State) : State :=
  if state.effectDue then
    match state.analysisId with
    | some analysisId =>
      if state.phase = .ready then
        { state with
          effectDue := false
          timelineGeneration := state.timelineGeneration + 1
          timelineLoading := true
          timelineError := none
          transactions := []
          nextCursor := none
          pending := state.pending ++ [⟨state.timelineGeneration + 1, analysisId, transactionFilter state.filter none, false⟩] }
      else { state with effectDue := false }
    | none => { state with effectDue := false }
  else state

def loadMoreTransactions (state : State) : State :=
  match state.analysisId, state.nextCursor with
  | some analysisId, some nextCursor =>
    if nextCursor = "" ∨ state.timelineLoading then state
    else
      { state with
        timelineLoading := true
        timelineError := none
        pending := state.pending ++ [⟨state.timelineGeneration, analysisId, transactionFilter state.filter (some nextCursor), true⟩] }
  | _, _ => state

/-- What the backend lists: nothing is retained of an analysis before it completes. -/
def listBinlogTransactions (state : State) (request : ListRequest) : Except RepositoryError BinlogTransactionPage :=
  paginateTransactions ((state.analyses request.analysisId).elim [] Timeline.transactions) request.request

/-- Whether the reply to a request may still change the timeline. -/
def Awaits (state : State) (request : ListRequest) : Prop :=
  state.mounted = true ∧ request.generation = state.timelineGeneration

instance (state : State) (request : ListRequest) : Decidable (state.Awaits request) := inferInstanceAs (Decidable (_ ∧ _))

def acceptPage (state : State) (request : ListRequest) (page : BinlogTransactionPage) : State :=
  if state.Awaits request then
    { state with
      transactions := if request.more then state.transactions ++ page.items else page.items
      nextCursor := page.nextCursor
      timelineLoading := false }
  else state

def rejectPage (state : State) (request : ListRequest) (message : String) : State :=
  if state.Awaits request then
    { state with timelineError := some message, timelineLoading := false }
  else state

end State

section
variable (analysisOf : Nat → Uuid)

/-- One step, where `analysisOf` is the analysis that the backend opens for a run. -/
def step (state : State) : Event → State
  | .beginImport => state.beginImport
  | .retained analysisId timeline =>
    if state.analyses analysisId = none then { state with analyses := Function.update state.analyses analysisId (some timeline) }
    else state
  | .reported run => if state.Current run then state.setAnalysisId (some (analysisOf run)) else state
  | .completed run =>
    if state.Current run ∧ state.analyses (analysisOf run) ≠ none then
      { ((state.setAnalysisId (some (analysisOf run))).setPhase .loading) with hydrating := run :: state.hydrating }
    else state
  | .hydrated run loaded =>
    if run ∈ state.hydrating ∧ state.Current run then
      { (state.setPhase (if loaded then .ready else .error)) with hydrating := state.hydrating.erase run }
    else state
  | .ended run canceled =>
    if state.Current run then
      (state.setAnalysisId (some (analysisOf run))).setPhase (if canceled then .canceled else .error)
    else state
  | .startFailed run => if state.Current run then state.setPhase .error else state
  | .pickerFailed => if state.mounted then state.setPhase .error else state
  | .setDatabase database => state.setFilter { state.filter with database, table := "" }
  | .setTable table => state.setFilter { state.filter with table }
  | .setOperation operation => state.setFilter { state.filter with operation }
  | .reload => { state with timelineReload := state.timelineReload + 1, effectDue := true }
  | .timelineEffect => if state.mounted then state.timelineEffect else state
  | .loadMoreTransactions => state.loadMoreTransactions
  | .replied index =>
    match state.pending[index]? with
    | some request =>
      match state.listBinlogTransactions request with
      | .ok page => { (state.acceptPage request page) with pending := state.pending.eraseIdx index }
      | .error _ => state
    | none => state
  | .refused index message =>
    match state.pending[index]? with
    | some request =>
      { (state.rejectPage request message) with
        pending := state.pending.eraseIdx index
        failed := request.generation :: state.failed }
    | none => state
  | .unmount =>
    { state with
      mounted := false
      activeRun := state.activeRun + 1
      timelineGeneration := state.timelineGeneration + 1 }

end

end Pipa.BinlogWorkspace
