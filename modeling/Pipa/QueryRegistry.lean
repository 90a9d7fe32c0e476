import Mathlib.Logic.Function.Basic
import Pipa.Library.Runs
import Pipa.QueryRunner

/-! The registry of running queries. An accepted query has a cancellation token in a
map keyed by the client's query id, an adapter task that sends events into a bounded
channel, and a forwarder that passes them on and removes the registration. The lock
sections and the sends and receives of all these tasks interleave. -/

namespace Pipa

/-- Where a forwarder stands: it receives, it has left its loop, it has dealt with
the token, or it has removed the registration. The flag says whether a terminal
event was forwarded. -/
inductive Forwarder where
  | receiving
  | leaving (terminalEventForwarded : Bool)
  | removing (terminalEventForwarded : Bool)
  | ended (terminalEventForwarded : Bool)
deriving DecidableEq, Repr

/-- The adapter task runs, still has to send the error that it failed with, or is done. -/
inductive AdapterTask where
  | running
  | failing (error : AppError)
  | done
deriving DecidableEq, Repr

/-- One accepted query with its two tasks, the channel between them, and the events
that reached the client. -/
structure RunningQuery (Row : Type) where
  queryId : Uuid
  engine : Engine
  adapter : AdapterTask
  channel : List (QueryEvent Row)
  forwarder : Forwarder
  forwarded : List (QueryEvent Row)
deriving DecidableEq, Repr

def queryEventChannelCapacity : Nat := 8

def QueryEvent.isTerminal {Row : Type} : QueryEvent Row → Bool
  | .completed .. | .canceled _ | .failed .. => true
  | .started _ | .schema .. | .batch .. => false

namespace RunningQuery

variable {Row : Type}

/-- Puts an event into the channel, when there is room. A send into a channel whose
receiver is gone fails, which the adapter takes for the end of its query. -/
def push (query : RunningQuery Row) (event : QueryEvent Row) (after : AdapterTask) : RunningQuery Row :=
  match query.forwarder with
  | .ended _ => { query with adapter := .done }
  | .receiving | .leaving _ | .removing _ =>
    if query.channel.length < queryEventChannelCapacity then
      { query with channel := query.channel ++ [event], adapter := after }
    else query

/-- The adapter sends an event of its query. -/
def send (event : QueryEvent Row) (query : RunningQuery Row) : RunningQuery Row :=
  match query.adapter with
  | .running => query.push event .running
  | .failing _ | .done => query

/-- The adapter returns; an error is sent as an event of its own. -/
def finish (result : Except AppError Unit) (query : RunningQuery Row) : RunningQuery Row :=
  match query.adapter, result with
  | .running, .ok () => { query with adapter := .done }
  | .running, .error error => { query with adapter := .failing error }
  | .failing _, _ | .done, _ => query

/-- The adapter task sends the error that the adapter returned. -/
def fail (query : RunningQuery Row) : RunningQuery Row :=
  match query.adapter with
  | .failing error => query.push (.failed query.queryId error) .done
  | .running | .done => query

/-- The forwarder takes the next event and passes it on, or leaves its loop: behind
a terminal event, when the client is gone, or at the end of the channel. -/
def forward (delivered : Bool) (query : RunningQuery Row) : RunningQuery Row :=
  match query.forwarder, query.channel with
  | .receiving, event :: channel =>
    if delivered then
      { query with
        channel
        forwarded := query.forwarded ++ [event]
        forwarder := if event.isTerminal then .leaving true else .receiving }
    else { query with channel, forwarder := .leaving false }
  | .receiving, [] => if query.adapter = .done then { query with forwarder := .leaving false } else query
  | .leaving _, _ | .removing _, _ | .ended _, _ => query

end RunningQuery

/-- The shared map holds for an id the index of the query whose token it is. -/
structure QueryRegistry (Row : Type) where
  cancellations : Uuid → Option Nat
  cancelled : List Nat
  queries : List (RunningQuery Row)

namespace QueryRegistry

variable {Row : Type}

/-- The profile that a request runs with; only Redis takes a database of its own. -/
def prepare (store : QueryRunner.LocalStore) (request : QueryRequest) : Except AppError ConnectionProfile := do
  let connections ← store.listConnections
  let profile ← match connections.find? (fun profile => profile.id = request.connectionId) with
    | some profile => pure profile
    | none => throw {
        code := .notFound
        message := "Database connection was not found"
        technicalDetails := none
        retryable := false }
  let profile ←
    if request.database.isSome then
      if profile.engine ≠ .redis then
        throw {
          code := .validation
          message := "Per-query database selection is supported only for Redis"
          technicalDetails := none
          retryable := false }
      else pure { profile with database := request.database }
    else pure profile
  let _ ← store.getConnectionCredential request.connectionId
  return profile

def alreadyRunning : AppError where
  code := .validation
  message := "Query is already running"
  technicalDetails := none
  retryable := false

def unsupportedEngine : AppError where
  code := .validation
  message := "Query execution is not supported for this database engine"
  technicalDetails := none
  retryable := false

def notRunning : AppError where
  code := .notFound
  message := "Running query was not found"
  technicalDetails := none
  retryable := false

def executes : Engine → Bool
  | .mySql | .redis => true
  | .postgreSql | .mongoDb => false

variable (self : QueryRegistry Row)

/-- Registers a query and spawns its forwarder and its adapter task. -/
def runQuery (store : QueryRunner.LocalStore) (request : QueryRequest) : Except AppError Uuid × QueryRegistry Row :=
  match prepare store request with
  | .error error => (.error error, self)
  | .ok profile =>
    if (self.cancellations request.queryId).isSome then (.error alreadyRunning, self)
    else
      (.ok request.queryId, { self with
        cancellations := Function.update self.cancellations request.queryId (some self.queries.length)
        queries := self.queries ++ [{
          queryId := request.queryId
          engine := profile.engine
          adapter := if executes profile.engine then .running else .failing unsupportedEngine
          channel := []
          forwarder := .receiving
          forwarded := [] }] })

/-- Signals a running query without removing its registration. -/
def cancelQuery (queryId : Uuid) : Except AppError Unit × QueryRegistry Row :=
  match self.cancellations queryId with
  | some index => (.ok (), { self with cancelled := index :: self.cancelled })
  | none => (.error notRunning, self)

/-- The steps of a forwarder behind its loop: it cancels the token unless a terminal
event was forwarded, and then it removes the registration of its id. -/
def release (index : Nat) : QueryRegistry Row :=
  match self.queries[index]? with
  | some query =>
    match query.forwarder with
    | .leaving terminal =>
      { self with
        cancelled := if terminal then self.cancelled else index :: self.cancelled
        queries := self.queries.modify index fun query => { query with forwarder := .removing terminal } }
    | .removing terminal =>
      { self with
        cancellations := Function.update self.cancellations query.queryId none
        queries := self.queries.modify index fun query => { query with forwarder := .ended terminal } }
    | .receiving | .ended _ => self
  | none => self

def modify (index : Nat) (edit : RunningQuery Row → RunningQuery Row) : QueryRegistry Row :=
  { self with queries := self.queries.modify index edit }

inductive Step (Row : Type) where
  | runQuery (store : QueryRunner.LocalStore) (request : QueryRequest)
  | cancelQuery (queryId : Uuid)
  | send (index : Nat) (event : QueryEvent Row)
  | finish (index : Nat) (result : Except AppError Unit)
  | fail (index : Nat)
  | forward (index : Nat) (delivered : Bool)
  | release (index : Nat)

def step : Step Row → QueryRegistry Row
  | .runQuery store request => (self.runQuery store request).2
  | .cancelQuery queryId => (self.cancelQuery queryId).2
  | .send index event => self.modify index (RunningQuery.send event)
  | .finish index result => self.modify index (RunningQuery.finish result)
  | .fail index => self.modify index RunningQuery.fail
  | .forward index delivered => self.modify index (RunningQuery.forward delivered)
  | .release index => self.release index

def new : QueryRegistry Row where
  cancellations := fun _ => none
  cancelled := []
  queries := []

end QueryRegistry

end Pipa
