import Pipa.Library.Runs
import Pipa.QueryRunner
import Pipa.Text

/-! The query session of a workspace. Rows are buffered outside the reducer and put into
one batch per animation frame; every other action goes to the reducer at once. -/

namespace Pipa

structure QuerySessionState (Row : Type) where
  queryId : Option Uuid
  connectionId : Option Uuid
  sql : String
  columns : List QueryColumn
  rows : List Row
  running : Bool
  cancelRequested : Bool
  incomplete : Bool
  affectedRows : Option Nat
  error : Option AppError
deriving DecidableEq, Repr

inductive QuerySessionAction (Row : Type) where
  | begin (queryId connectionId : Uuid) (sql : String)
  | event (event : QueryEvent Row)
  | cancelRequested (queryId : Uuid)
  | startFailed (queryId : Uuid) (error : AppError)
deriving DecidableEq, Repr

def QueryEvent.queryId {Row : Type} : QueryEvent Row → Uuid
  | .started queryId | .schema queryId _ | .batch queryId _ | .completed queryId _ | .canceled queryId | .failed queryId _ => queryId

namespace QuerySession

variable {Row : Type}

def createInitialQuerySessionState : QuerySessionState Row where
  queryId := none
  connectionId := none
  sql := ""
  columns := []
  rows := []
  running := false
  cancelRequested := false
  incomplete := false
  affectedRows := none
  error := none

/-- What an event of the active query changes. -/
def received (state : QuerySessionState Row) : QueryEvent Row → QuerySessionState Row
  | .started _ => { state with running := true }
  | .schema _ columns => { state with columns }
  | .batch _ rows => { state with rows := state.rows ++ rows }
  | .completed _ affectedRows =>
    { state with running := false, cancelRequested := false, incomplete := false, affectedRows := some affectedRows }
  | .canceled _ => { state with running := false, cancelRequested := false, incomplete := true }
  | .failed _ error => { state with running := false, cancelRequested := false, error := some error }

def querySessionReducer (state : QuerySessionState Row) : QuerySessionAction Row → QuerySessionState Row
  | .begin queryId connectionId sql =>
    { queryId := some queryId, connectionId := some connectionId, sql, columns := [], rows := [], running := true,
      cancelRequested := false, incomplete := false, affectedRows := none, error := none }
  | .cancelRequested queryId => if some queryId = state.queryId then { state with cancelRequested := true } else state
  | .startFailed queryId error =>
    if some queryId = state.queryId then { state with running := false, cancelRequested := false, error := some error } else state
  | .event event => if some event.queryId ≠ state.queryId then state else received state event

/-- Rows that wait for a flush, under the query they came for. -/
structure PendingRows (Row : Type) where
  queryId : Uuid
  rows : List Row
deriving DecidableEq, Repr

/-- The reducer's state and the buffer in front of it. -/
structure Session (Row : Type) where
  state : QuerySessionState Row
  pendingRows : Option (PendingRows Row)
  flushScheduled : Bool
deriving DecidableEq, Repr

def initial : Session Row := { state := createInitialQuerySessionState, pendingRows := none, flushScheduled := false }

namespace Session
variable (session : Session Row)

def dispatch (action : QuerySessionAction Row) : Session Row :=
  { session with state := querySessionReducer session.state action }

def flushPendingRows : Session Row :=
  let session' := { session with pendingRows := none, flushScheduled := false }
  match session.pendingRows with
  | none => session'
  | some pending =>
    if pending.rows = [] then session' else session'.dispatch (.event (.batch pending.queryId pending.rows))

/-- A batch joins the rows that wait for the same query, and takes the place of others. -/
def buffer (queryId : Uuid) (rows : List Row) : Session Row :=
  let pendingRows :=
    match session.pendingRows with
    | some pending =>
      if pending.queryId = queryId then { pending with rows := pending.rows ++ rows } else { queryId, rows }
    | none => { queryId, rows }
  { session with pendingRows := some pendingRows, flushScheduled := true }

/-- The handler of the channel. -/
def onmessage : QueryEvent Row → Session Row
  | .batch queryId rows => session.buffer queryId rows
  | event => session.flushPendingRows.dispatch (.event event)

end Session

/-- What reaches the session: an accepted run, a message of a channel, an animation frame, a
cancellation and a rejected start. -/
inductive Event (Row : Type) where
  | begin (queryId connectionId : Uuid) (sql : String)
  | message (event : QueryEvent Row)
  | frame
  | cancel (queryId : Uuid)
  | startFailed (queryId : Uuid) (error : AppError)
deriving DecidableEq, Repr

def step (session : Session Row) : Event Row → Session Row
  | .begin queryId connectionId sql =>
    { session with pendingRows := none, flushScheduled := false }.dispatch (.begin queryId connectionId sql)
  | .message event => session.onmessage event
  | .frame => if session.flushScheduled then session.flushPendingRows else session
  | .cancel queryId => session.flushPendingRows.dispatch (.cancelRequested queryId)
  | .startFailed queryId error => session.dispatch (.startFailed queryId error)

/-- The action an event brings to the reducer. -/
def Event.action : Event Row → Option (QuerySessionAction Row)
  | .begin queryId connectionId sql => some (.begin queryId connectionId sql)
  | .message event => some (.event event)
  | .frame => none
  | .cancel queryId => some (.cancelRequested queryId)
  | .startFailed queryId error => some (.startFailed queryId error)

/-- The state without a buffer: every action goes to the reducer as it comes. -/
def unbuffered (events : List (Event Row)) : QuerySessionState Row :=
  (events.filterMap Event.action).foldl querySessionReducer createInitialQuerySessionState

end QuerySession

/-! ### The hook around the session -/

namespace QuerySession

/-- The hook with the query it takes for active. -/
structure UseQuerySession (Row : Type) where
  session : Session Row
  activeQueryId : Option Uuid
  cancelRequested : Bool
deriving DecidableEq, Repr

inductive HookEvent (Row : Type) where
  | run (queryId : Uuid) (sql : String)
  | message (event : QueryEvent Row)
  | frame
  | cancel
  /-- `run_query` was rejected for the query. -/
  | rejected (queryId : Uuid) (error : AppError)
deriving DecidableEq, Repr

variable {Row : Type} (connectionId : Uuid)

def UseQuerySession.initial : UseQuerySession Row :=
  { session := QuerySession.initial, activeQueryId := none, cancelRequested := false }

/-- What of a hook event reaches the session. -/
def reaches (hook : UseQuerySession Row) : HookEvent Row → Option (Event Row)
  | .run queryId sql =>
    if hook.activeQueryId.isSome ∨ Text.jsTrim sql = "" then none else some (.begin queryId connectionId sql)
  | .message event => some (.message event)
  | .frame => some .frame
  | .cancel => if hook.cancelRequested then none else hook.activeQueryId.map .cancel
  | .rejected queryId error => if hook.activeQueryId = some queryId then some (.startFailed queryId error) else none

def isTerminal : QueryEvent Row → Bool
  | .completed .. | .canceled _ | .failed .. => true
  | _ => false

def hookStep (hook : UseQuerySession Row) (event : HookEvent Row) : UseQuerySession Row :=
  match reaches connectionId hook event with
  | none => hook
  | some reached =>
    let hook' := { hook with session := step hook.session reached }
    match reached with
    | .begin queryId _ _ => { hook' with activeQueryId := some queryId, cancelRequested := false }
    | .message event =>
      if isTerminal event ∧ hook.activeQueryId = some event.queryId then
        { hook' with activeQueryId := none, cancelRequested := false }
      else hook'
    | .cancel _ => { hook' with cancelRequested := true }
    | .startFailed _ _ => { hook' with activeQueryId := none, cancelRequested := false }
    | .frame => hook'

end QuerySession

end Pipa
